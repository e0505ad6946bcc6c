import ServiceOperator.Proofs.Pass.Deletion

/-!
# Records come back

A record that is not looked at again is lost, and one that is looked at again at once, over and
over, is a hot loop.  No pass leads to either.  A pass asks to come back after one of three delays
(`Settings.Delays`): two are settings, and the third grows with the failures in transport, from its
base up to ten minutes and never beyond, however large the count (`transientRequeue_le`), and never
down to nothing (`transientRequeue_pos`).  A pass that asks for no delay either lets the record go,
or has noted that its generation is given up.

`Outcome.Returns` lists the ways, each with what it leaves behind; `Pass.Concludes.returns` and
`Pass.DeleteCourse.returns` are the exits of the two kinds of pass, and `CompletedPass.returns` is
every pass.

### Why the count may be anything

The bound holds from any stored status, also from one whose count is the greatest number that fits.
The delay is the shorter of a product and ten minutes, and the product is stopped at the greatest
duration; so it is neither longer than ten minutes nor, as a wrapped product could be, nothing at
all.  `transientRequeue_pos` needs only that the base is positive.
-/

namespace ServiceOperator

open Calls (Entry)

variable {R : Type}

/-! ## Delays -/

namespace Duration

theorem min_le_left (a b : Duration) : min a b ≤ a := Nat.min_le_left ..

theorem min_le_right (a b : Duration) : min a b ≤ b := Nat.min_le_right ..

theorem min_pos {a b : Duration} (first : ⟨0⟩ < a) (second : ⟨0⟩ < b) : ⟨0⟩ < min a b :=
  Nat.lt_min.mpr ⟨first, second⟩

/-- A positive duration times a positive number is positive, also where the product is stopped. -/
theorem times_pos {d : Duration} {n : Nat} (positive : ⟨0⟩ < d) (some : 0 < n) :
    ⟨0⟩ < d.times n := by
  have product : (⟨0⟩ : Duration) < ⟨d.nanos * n⟩ := Nat.mul_pos positive some
  exact min_pos product (by decide)

end Duration

/-- The delay stops at ten minutes, whatever the count and the base. -/
theorem transientRequeue_le (attempts : Nat) (base : Duration) :
    transientRequeue attempts base ≤ longestTransientRequeue :=
  Duration.min_le_right ..

/-- The delay never falls to nothing: neither the power of two nor the product can wrap around. -/
theorem transientRequeue_pos {base : Duration} (positive : ⟨0⟩ < base) (attempts : Nat) :
    ⟨0⟩ < transientRequeue attempts base := by
  have doubled : 0 < Nat.pow 2 (Nat.min (attempts - 1) 16) := Nat.two_pow_pos _
  exact Duration.min_pos (Duration.times_pos positive doubled) (by decide)

namespace Settings

/-- The delays after which passes under some settings ask to come back. -/
inductive Delays (s : Settings) : Duration → Prop
  | poll : s.Delays s.pollInterval
  | ready : s.Delays s.readyRequeue
  | backoff (attempts : Nat) : s.Delays (transientRequeue attempts s.transientBackoffBase)

/-- The settings from which the delays are made are positive. -/
structure Paced (s : Settings) : Prop where
  poll : ⟨0⟩ < s.pollInterval
  ready : ⟨0⟩ < s.readyRequeue
  base : ⟨0⟩ < s.transientBackoffBase

/-- The largest of the two intervals and the longest delay after failures in transport. -/
def longestDelay (s : Settings) : Duration :=
  ⟨max (max s.pollInterval.nanos s.readyRequeue.nanos) longestTransientRequeue.nanos⟩

variable {s : Settings} {delay : Duration}

theorem Delays.pos (delays : s.Delays delay) (paced : s.Paced) : ⟨0⟩ < delay := by
  cases delays with
  | poll => exact paced.poll
  | ready => exact paced.ready
  | backoff attempts => exact transientRequeue_pos paced.base attempts

/-- No delay is longer than the longest one. -/
theorem Delays.le_longestDelay (delays : s.Delays delay) : delay ≤ s.longestDelay := by
  have intervals : max s.pollInterval.nanos s.readyRequeue.nanos ≤ s.longestDelay.nanos :=
    Nat.le_max_left ..
  cases delays with
  | poll => exact Nat.le_trans (Nat.le_max_left ..) intervals
  | ready => exact Nat.le_trans (Nat.le_max_right ..) intervals
  | backoff attempts =>
      have capped : (transientRequeue attempts s.transientBackoffBase).nanos ≤
          longestTransientRequeue.nanos := transientRequeue_le ..
      exact Nat.le_trans capped (Nat.le_max_right ..)

end Settings

/-! ## Exits -/

/-- How a pass over a generation leaves its record. -/
inductive Outcome.Returns (settings : Settings) (generation : Int) (o : Outcome) : Prop
  | timed {delay : Duration} (delays : settings.Delays delay) (requeue : o.requeue = .after delay)
  /-- The resource is gone, and the record may go. -/
  | released (waits : o.requeue = .awaitChange) (released : o.removeFinalizer = true)
  /-- Nothing but a change of the record can help. -/
  | givenUp (waits : o.requeue = .awaitChange)
      (failed : o.status.failedGeneration = some generation)

namespace Pass

variable {p q : Pass R} {e : OperatorError} {t : List (Entry R)} {o : Outcome} {message : String}

/-- An exit of a pass leaves the record in one of these ways. -/
abbrev Returns (p : Pass R) (o : Outcome) : Prop := o.Returns p.settings p.subject.generation

theorem terminal_returns {reason : Reason} : p.Returns (p.terminal reason message) :=
  .givenUp rfl rfl

/-- What is waited for comes back after the poll interval, or is given up for the time. -/
theorem notReady_returns : p.Returns (p.notReady message) := by
  unfold notReady
  split
  · exact terminal_returns
  · exact .timed .poll rfl

/-- A failure that may pass comes back after the poll interval, or is given up for the time. -/
theorem failRetryable_returns : p.Returns (p.failRetryable e) := by
  unfold failRetryable
  split
  case isTrue => exact terminal_returns
  case isFalse =>
    dsimp only
    split
    · exact .timed .poll rfl
    · exact .timed .poll rfl

/-- The delay after a failure in transport is made from the count with that failure. -/
theorem failTransient_returns : p.Returns (p.failTransient e) := by
  rw [failTransient]
  split
  · exact terminal_returns (p := p.countFailure)
  · exact .timed (.backoff p.countFailure.status.failedAttempts) rfl

theorem deletionTimeout_returns : p.Returns (p.deletionTimeout message) :=
  .timed .ready rfl

/-- A deletion that failed comes back, whatever it failed with. -/
theorem deleteFailed_returns : p.Returns (p.deleteFailed e) := by
  unfold deleteFailed
  split
  case isTrue => exact deletionTimeout_returns
  case isFalse =>
    dsimp only
    split
    case h_1 => exact .timed (.backoff p.countFailure.status.failedAttempts) rfl
    case h_2 => exact .timed .ready rfl
    case h_3 => exact .timed .poll rfl
    case h_4 => exact .timed .poll rfl

/-- Each conclusion of a living record has its exit. -/
theorem Concludes.returns (concludes : q.Concludes t o) : q.Returns o := by
  cases concludes with
  | givenUp => exact terminal_returns
  | waiting => exact notReady_returns
  | gone => exact .timed .poll rfl
  | retried => exact failRetryable_returns
  | delayed => exact failTransient_returns
  | converged => exact .timed .ready rfl

/-- A deletion waits only once the resource is gone. -/
theorem DeleteCourse.returns (course : DeleteCourse p t o) : p.Returns o := by
  cases course with
  | undeleted => exact deleteFailed_returns (p := p.beginDeletion)
  | unconfirmed => exact deleteFailed_returns (p := p.beginDeletion)
  | confirmed => exact .released rfl rfl
  | overdue => exact .timed .ready rfl
  | lingering => exact .timed .poll rfl

end Pass

/-! ## Passes -/

/-- Every pass comes back, releases its record, or has given it up.  A blocked pass gives up nothing
by itself: the status that blocks it says that the generation was given up before. -/
theorem CompletedPass.returns (pass : CompletedPass R) :
    pass.outcome.Returns pass.settings pass.subject.generation := by
  have course := reconcileOnce_course pass.yields
  cases alive : pass.subject.deletionRequested with
  | true => exact (course.deletion alive).returns
  | false =>
      rcases course.concludes alive with ⟨blocks, -, rests⟩ | ⟨-, step, q, becomes, concludes⟩
      · rw [rests]
        exact .givenUp rfl blocks.1
      · have returns := concludes.returns
        rw [Pass.Returns, becomes.settings, becomes.subject] at returns
        exact returns

/-- **No record is dropped, and none spins.**  From whatever status a pass starts and whatever it is
answered, it asks to come back after a positive delay that is no longer than the largest of the poll
interval, the interval for ready resources and ten minutes, or it waits for a change; and it waits
only when the finalizer is to be removed or the status that it leaves behind says that the present
generation has failed. -/
theorem requeue_bounded (pass : CompletedPass R) (paced : pass.settings.Paced) :
    (∃ delay, pass.outcome.requeue = .after delay ∧ ⟨0⟩ < delay ∧
      delay ≤ pass.settings.longestDelay) ∨
    (pass.outcome.requeue = .awaitChange ∧ (pass.outcome.removeFinalizer = true ∨
      pass.outcome.status.failedGeneration = some pass.subject.generation)) := by
  rcases pass.returns with ⟨delays, requeue⟩ | ⟨waits, released⟩ | ⟨waits, failed⟩
  · exact .inl ⟨_, requeue, delays.pos paced, delays.le_longestDelay⟩
  · exact .inr ⟨waits, .inl released⟩
  · exact .inr ⟨waits, .inr failed⟩

/-- A deletion that is lost in transport once more, after as many failures as can be counted. -/
def Stuck.exhausted : CompletedPass Unit :=
  Stuck.pass (.error (.transport "connection refused"))
    { Steady.first.outcome.status with failedAttempts := Word.bound 32 - 1 } 0

/-- At the end of the count the delay is ten minutes: it is positive, and the longest one is still
no shorter. -/
theorem requeue_bounded_exhausted :
    Stuck.exhausted.outcome.requeue = .after (.ofSecs 600) ∧
      ⟨0⟩ < Duration.ofSecs 600 ∧ .ofSecs 600 ≤ Settings.standard.longestDelay := by
  have requeue : Stuck.exhausted.outcome.requeue = .after (.ofSecs 600) := by decide
  have paced : Stuck.exhausted.settings.Paced := ⟨by decide, by decide, by decide⟩
  rcases requeue_bounded Stuck.exhausted paced with ⟨delay, after, positive, bounded⟩ | ⟨waits, -⟩
  · cases requeue.symm.trans after
    exact ⟨requeue, positive, bounded⟩
  · cases requeue.symm.trans waits

end ServiceOperator
