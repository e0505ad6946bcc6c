import Mathlib.Data.List.Basic
import ServiceOperator.Proofs.Pass.Acceptance
import ServiceOperator.Proofs.Pass.Requeues
import ServiceOperator.Proofs.Pass.TransportFailures

/-!
# Delays that double

The delay behind failures in transport doubles with each of them, up to ten minutes.  Three numbers
stop growing on the way to it: the count of the failures at the greatest 32-bit number, the exponent
at sixteen, and the product at the longest duration.  None of this shows, as long as the base is one
that sixteen doublings bring to ten minutes (`transientRequeue_eq_iff`), and any base of ten
milliseconds or more is (`transientRequeue_exact`).

So the delays of a run follow its failures.  A pass whose last call is answered with an error that
is no absence fails with that error (`Pass.ReconcileCourse.failsWith`).  If that was a failure in
transport, and the record is not given up, the pass comes back after the base, doubled once for each
earlier failure since the count was last cleared (`backsOff_over_run`).

### The three numbers

* The exponent is the only one that decides.  With it stopped at sixteen the delay is that of
  sixteen doublings for ever, which is the cap exactly if the base reaches it by then
  (`reached_of_slow`).
* The product saturates far beyond the cap, so the minimum with the cap does not see it
  (`min_times`, `transientRequeue_eq_clamped`).
* The count of the failures stops at a number whose doublings have long been stopped by the exponent
  (`transientRequeue_counted`).

That the exponent is shifted in a word of 32 bits is harmless for the same reason that it is
stopped: a one that is shifted by sixteen at most stays in the word (`shifted_one`).
-/

namespace ServiceOperator

open Calls (Entry)

variable {R : Type}

/-! ## Delays -/

/-- A duration that is doubled a number of times. -/
def Duration.doubled (d : Duration) (times : Nat) : Duration := ⟨d.nanos * Nat.pow 2 times⟩

namespace Duration

variable {d cap : Duration} {n : Nat}

theorem min_eq_right_of_le {a b : Duration} (shorter : b ≤ a) : min a b = b :=
  congrArg Duration.mk (Nat.min_eq_right shorter)

theorem min_le_min_right {a b : Duration} (cap : Duration) (order : a ≤ b) :
    min a cap ≤ min b cap :=
  Nat.le_min.mpr ⟨Nat.le_trans (Nat.min_le_left ..) order, Nat.min_le_right ..⟩

theorem doubled_le_doubled {m : Nat} (order : n ≤ m) : d.doubled n ≤ d.doubled m :=
  Nat.mul_le_mul_left _ (Nat.pow_le_pow_right (by decide) order)

/-- A product that stops at the longest duration does not show below a cap. -/
theorem min_times (short : cap ≤ longest) : min (d.times n) cap = min ⟨d.nanos * n⟩ cap :=
  calc min (min ⟨d.nanos * n⟩ longest) cap
    _ = min ⟨d.nanos * n⟩ (min longest cap) := congrArg Duration.mk (Nat.min_assoc ..)
    _ = min ⟨d.nanos * n⟩ cap := by rw [min_eq_right_of_le short]

/-- Doublings that stop do not show if the cap is reached by then. -/
theorem min_doubled_clamped {most : Nat} (reached : cap ≤ d.doubled most) :
    min (d.doubled (Nat.min n most)) cap = min (d.doubled n) cap := by
  rcases Nat.le_total n most with few | many
  · have all : Nat.min n most = n := Nat.min_eq_left few
    rw [all]
  · have stopped : Nat.min n most = most := Nat.min_eq_right many
    have beyond : cap ≤ d.doubled n := Nat.le_trans reached (doubled_le_doubled many)
    rw [stopped, min_eq_right_of_le reached, min_eq_right_of_le beyond]

end Duration

variable {base : Duration} {attempts : Nat}

/-- The longest duration stops nothing: only the exponent does. -/
theorem transientRequeue_eq_clamped (attempts : Nat) (base : Duration) :
    transientRequeue attempts base =
      Duration.min (base.doubled (Nat.min (attempts - 1) 16)) longestTransientRequeue :=
  Duration.min_times (by decide)

/-- **When the exponent that stops does not show.** -/
theorem transientRequeue_eq_iff :
    (∀ attempts, transientRequeue attempts base =
      Duration.min (base.doubled (attempts - 1)) longestTransientRequeue) ↔
    base.nanos = 0 ∨ longestTransientRequeue ≤ base.doubled 16 := by
  simp only [transientRequeue_eq_clamped]
  constructor
  · -- One doubling more than are made would still show.
    intro doubles
    have late := congrArg Duration.nanos (doubles 18)
    have late : Nat.min (base.nanos * 65536) 600000000000 =
        Nat.min (base.nanos * 131072) 600000000000 := late
    change base.nanos = 0 ∨ 600000000000 ≤ base.nanos * 65536
    simp only [Nat.min_def] at late
    split at late <;> split at late <;> omega
  · rintro (nothing | reached) attempts
    · have still (times : Nat) : base.doubled times = ⟨0⟩ := by
        rw [Duration.doubled, nothing, Nat.zero_mul]
      rw [still, still]
    · exact Duration.min_doubled_clamped reached

/-- A base of nine milliseconds is still less than ten minutes after all its doublings. -/
example : transientRequeue 17 (.ofMillis 9) = transientRequeue 1000 (.ofMillis 9) ∧
    transientRequeue 1000 (.ofMillis 9) < .ofSecs 600 := by decide

/-- A base of ten milliseconds is ten minutes after sixteen doublings. -/
theorem reached_of_slow (slow : .ofMillis 10 ≤ base) :
    longestTransientRequeue ≤ base.doubled 16 := by
  have slow : 10 * 1000000 ≤ base.nanos := slow
  change 600 * 1000000000 ≤ base.nanos * 65536
  omega

theorem transientRequeue_mono {fewer more : Nat} (order : fewer ≤ more) :
    transientRequeue fewer base ≤ transientRequeue more base := by
  have exponents : min (fewer - 1) 16 ≤ min (more - 1) 16 := by omega
  rw [transientRequeue_eq_clamped, transientRequeue_eq_clamped]
  exact Duration.min_le_min_right _ (Duration.doubled_le_doubled exponents)

/-- A one that is shifted in a word of 32 bits stays in it, as the exponent stops at sixteen. -/
theorem shifted_one (attempts : Nat) : ((1 : BitVec 32) <<< Nat.min (attempts - 1) 16).toNat =
    Nat.pow 2 (Nat.min (attempts - 1) 16) := by
  have small : Nat.min (attempts - 1) 16 ≤ 16 := Nat.min_le_right ..
  have fits : 2 ^ Nat.min (attempts - 1) 16 < 2 ^ 32 :=
    Nat.pow_lt_pow_right (by decide) (Nat.lt_of_le_of_lt small (by decide))
  rw [BitVec.toNat_shiftLeft, Nat.shiftLeft_eq]
  change 1 * 2 ^ Nat.min (attempts - 1) 16 % 2 ^ 32 = 2 ^ Nat.min (attempts - 1) 16
  rw [Nat.one_mul, Nat.mod_eq_of_lt fits]

/-- A count that stops has brought the delay to its end long before. -/
theorem transientRequeue_counted (slow : .ofMillis 10 ≤ base) {most : Nat} (far : 16 < most)
    (failures : Nat) : transientRequeue (Nat.min failures most) base =
      Duration.min (base.doubled (failures - 1)) longestTransientRequeue := by
  have doubles := transientRequeue_eq_iff.mpr (.inr (reached_of_slow slow))
  have reached : longestTransientRequeue ≤ base.doubled (most - 1) :=
    Nat.le_trans (reached_of_slow slow) (Duration.doubled_le_doubled (Nat.le_sub_one_of_lt far))
  have earlier : Nat.min failures most - 1 = Nat.min (failures - 1) (most - 1) :=
    (Nat.sub_min_sub_right failures most 1).symm
  rw [doubles, earlier, Duration.min_doubled_clamped reached]

/-- **The delay is exact, grows and is capped.**  Take any base of ten milliseconds or more.
Whatever the number of attempts, the delay is the base doubled for each attempt behind the first,
counted in full, or ten minutes if that is less.  So it never falls as the attempts grow, and never
exceeds ten minutes.  It is the same if the power of two is made by a shift in a word of 32 bits,
and if the attempts are failures whose count stops at the greatest 32-bit number. -/
theorem transientRequeue_exact (slow : .ofMillis 10 ≤ base) :
    (∀ attempts, transientRequeue attempts base =
      Duration.min (base.doubled (max attempts 1 - 1)) (.ofSecs 600)) ∧
    (∀ fewer more, fewer ≤ more → transientRequeue fewer base ≤ transientRequeue more base) ∧
    (∀ attempts, transientRequeue attempts base ≤ .ofSecs 600) ∧
    (∀ attempts, transientRequeue attempts base =
      Duration.min (base.times ((1 : BitVec 32) <<< Nat.min (attempts - 1) 16).toNat)
        (.ofSecs 600)) ∧
    ∀ failures, transientRequeue (Nat.min failures (Word.bound 32 - 1)) base =
      Duration.min (base.doubled (max failures 1 - 1)) (.ofSecs 600) := by
  have first (attempts : Nat) : max attempts 1 - 1 = attempts - 1 := by omega
  simp only [first, shifted_one]
  exact ⟨transientRequeue_eq_iff.mpr (.inr (reached_of_slow slow)),
    fun _ _ => transientRequeue_mono, fun attempts => transientRequeue_le attempts base,
    fun _ => rfl, transientRequeue_counted slow (by decide)⟩

/-- With the shortest such base, the delay reaches ten minutes at the seventeenth attempt. -/
theorem transientRequeue_exact_shortest :
    Duration.ofMillis 10 ≤ .ofMillis 10 ∧
      transientRequeue 16 (.ofMillis 10) = .ofMillis 327680 ∧
      transientRequeue 17 (.ofMillis 10) = .ofSecs 600 := by
  have slow : Duration.ofMillis 10 ≤ .ofMillis 10 := by decide
  obtain ⟨doubles, -⟩ := transientRequeue_exact slow
  refine ⟨slow, ?_, ?_⟩
  · rw [doubles]
    decide
  · rw [doubles]
    decide

/-! ## What a pass fails with -/

namespace Pass

variable {p : Pass R} {look : Look} {fingerprint : Option String} {t : List (Entry R)} {o : Outcome}
  {call : Call R} {e e' : OperatorError}

/-- A pass cannot fail with anything else than an error that ends its calls. -/
theorem FailsOn.eq_of_last (fails : FailsOn t e') (last : t.getLast? = some ⟨call, .error e⟩) :
    e' = e := by
  cases fails with
  | answered last' =>
      cases last.symm.trans last'
      rfl
  | found last' => cases last.symm.trans last'

/-- A pass becomes one that fails with an error. -/
def FailsWith (p : Pass R) (e : OperatorError) (o : Outcome) : Prop :=
  ∃ q, p.Becomes q ∧ o = q.fail e

theorem failsWith_of_failsOn {q : Pass R} (becomes : p.Becomes q) (fails : FailsOn t e')
    (last : t.getLast? = some ⟨call, .error e⟩) : p.FailsWith e (q.fail e') :=
  ⟨q, becomes, by rw [fails.eq_of_last last]⟩

/-- A look that ends with an error which is no absence fails with that error. -/
theorem look_failsWith (course : LookCourse p look t o)
    (last : t.getLast? = some ⟨call, .error e⟩) (present : e.isNotFound = false) :
    p.FailsWith e o := by
  have corrects {state : String} : p.Becomes (p.sawState state).beginOperation :=
    becomes_sawState.trans becomes_beginOperation
  -- A look that does not fail ends with a success, or with an absence.
  cases course with
  | gone absent =>
      cases last
      cases absent.symm.trans present
  | unseen absent =>
      cases last
      cases absent.symm.trans present
  | unread => exact failsWith_of_failsOn (.refl p) (.answered rfl) last
  | corrected => cases last
  | goneUncorrected rest drifted absent =>
      cases last
      cases absent.symm.trans present
  | uncorrected => exact failsWith_of_failsOn corrects (.answered rfl) last
  | waiting => cases last
  | unconnected => exact failsWith_of_failsOn becomes_sawState (.answered rfl) last
  | converged => cases last

/-- The last call of a look at a resource that was just accepted is the last call of the step. -/
theorem accepted_failsWith {id : String} {mutation : Option Mutation} (earlier : List (Entry R))
    (course : LookCourse (({ p.beginOperation with mutation := mutation }).accept id fingerprint)
      .afterMutation t o)
    (last : (earlier ++ t).getLast? = some ⟨call, .error e⟩) (present : e.isNotFound = false) :
    p.FailsWith e o := by
  rw [List.getLast?_append_of_ne_nil earlier course.ne_nil] at last
  obtain ⟨q, becomes, fails⟩ := look_failsWith course last present
  exact ⟨q, becomes_accept.trans becomes, fails⟩

/-- So does a step of a living record, whichever it is. -/
theorem step_failsWith (course : StepCourse p fingerprint t o)
    (last : t.getLast? = some ⟨call, .error e⟩) (present : e.isNotFound = false) :
    p.FailsWith e o := by
  have failing {e' : OperatorError} (fails : FailsOn t e') :
      p.FailsWith e (p.beginOperation.fail e') :=
    failsWith_of_failsOn becomes_beginOperation fails last
  cases course with
  | looked step look => exact look_failsWith look last present
  | unready => exact failing (.answered rfl)
  | uncreated step obtains => exact failing (obtains.failsOn.behind [_])
  | @created first second id q o step obtains look =>
      obtain ⟨mutation, rfl⟩ := obtain_subject obtains
      exact accepted_failsWith (.checked (.ok ()) :: first) look last present
  | goneUnchanged step absent =>
      cases last
      cases absent.symm.trans present
  | unchanged => exact failing (.answered rfl)
  | changed step look => exact accepted_failsWith [_, _] look last present
  | undeleted => exact failing (.answered rfl)
  | unconfirmed => exact failing (.answered rfl)
  | lingering => cases last
  | unreplaced step accepted absent obtains =>
      exact failing (obtains.failsOn.behind [_, _, _])
  | @replaced answer gone first second id q o step accepted absent obtains look =>
      obtain ⟨mutation, rfl⟩ := obtain_subject obtains
      exact accepted_failsWith (_ :: _ :: _ :: first) look last present

variable {profile : Profile R} {subject : Subject} {settings : Settings} {now : Instant}

/-- **A pass over a living record fails with the error that ends its calls**, unless that is an
absence. -/
theorem ReconcileCourse.failsWith (course : ReconcileCourse profile subject settings now t o)
    (alive : subject.deletionRequested = false) (last : t.getLast? = some ⟨call, .error e⟩)
    (present : e.isNotFound = false) :
    ∃ step, (start profile subject settings now step).FailsWith e o := by
  cases course with
  | deleting requested => cases alive.symm.trans requested
  | blocked => cases last
  | unresourced _ free begun =>
      subst begun
      refine ⟨subject.plan none profile.requiresReplace, ?_⟩
      split
      · exact failsWith_of_failsOn becomes_beginOperation (.answered rfl) last
      · exact failsWith_of_failsOn (.refl _) (.answered rfl) last
  | @lived fingerprint t o alive free course =>
      cases t with
      | nil => cases last
      | cons first t =>
          rw [List.getLast?_cons_cons] at last
          exact ⟨_, step_failsWith course last present⟩

/-- What a failure in transport leads to: a delay made from the count that is left behind, or the
end. -/
theorem fail_backsOff (transient : e.errorClass = .transient) :
    (∃ reason, (p.fail e).GaveUp reason) ∨
      (p.fail e).requeue = .after
        (transientRequeue (p.fail e).status.failedAttempts p.settings.transientBackoffBase) := by
  unfold fail
  rw [transient]
  unfold failTransient
  dsimp only
  split
  · exact .inl ⟨_, rfl, rfl⟩
  · exact .inr rfl

end Pass

/-! ## Runs -/

/-- Calls end in transport exactly if the answer to the last of them is an error of that class. -/
theorem endInTransport_iff {t : List (Entry R)} : Calls.endInTransport t = true ↔
    ∃ call e, t.getLast? = some ⟨call, .error e⟩ ∧ e.errorClass = .transient := by
  unfold Calls.endInTransport
  constructor
  · intro ends
    cases last : t.getLast? with
    | none =>
        rw [last] at ends
        cases ends
    | some entry =>
        obtain ⟨call, answer⟩ := entry
        rw [last] at ends
        cases answer with
        | ok => cases ends
        | error e => exact ⟨call, e, rfl, of_decide_eq_true ends⟩
  · rintro ⟨call, e, last, transient⟩
    rw [last]
    exact decide_eq_true transient

/-- **The step law.**  A pass that fails in transport gives its record up, or comes back after a
delay that is made from the count that it leaves behind. -/
theorem CompletedPass.backsOff (pass : CompletedPass R)
    (alive : pass.subject.deletionRequested = false) (fails : pass.failsInTransport = true) :
    (∃ reason, pass.outcome.GaveUp reason) ∨ pass.outcome.requeue = .after
      (transientRequeue pass.outcome.status.failedAttempts pass.settings.transientBackoffBase) := by
  obtain ⟨call, e, last, transient⟩ := endInTransport_iff.mp fails
  have present : e.isNotFound = false := by
    rw [OperatorError.isNotFound, transient]
    rfl
  obtain ⟨step, q, becomes, failed⟩ :=
    (reconcileOnce_course pass.yields).failsWith alive last present
  have settings : q.settings = pass.settings := becomes.settings
  rw [failed, ← settings]
  exact Pass.fail_backsOff transient

/-- **Delays double over a run.**  Consider passes over a record that is not being deleted, from no
status, and one more pass that fails in transport and does not give the record up.  Behind a base of
ten milliseconds or more it comes back after the base, doubled once for each failure but the first
of a stretch of passes that ends with it and in which nothing cleared the count, or after ten
minutes if that is less. -/
theorem backsOff_over_run {run : List (CompletedPass R)} {pass : CompletedPass R}
    (isRun : IsRun run pass.subject.status) (alive : pass.subject.deletionRequested = false)
    (fails : pass.failsInTransport = true) (borne : ∀ reason, ¬ pass.outcome.GaveUp reason)
    (slow : .ofMillis 10 ≤ pass.settings.transientBackoffBase) :
    ∃ earlier stretch, run ++ [pass] = earlier ++ stretch ∧ Uncleared stretch ∧
      1 ≤ transportFailures stretch ∧ pass.outcome.requeue = .after (Duration.min
        (pass.settings.transientBackoffBase.doubled (transportFailures stretch - 1))
        (.ofSecs 600)) := by
  have delayed :=
    (pass.backsOff alive fails).resolve_left fun ⟨reason, gaveUp⟩ => borne reason gaveUp
  obtain ⟨earlier, stretch, split, uncleared, counted⟩ := (IsRun.snoc isRun alive).counted
  -- The stretch is not empty: the pass itself has counted its failure.
  have some : 1 ≤ pass.outcome.status.failedAttempts := by
    cases pass.counts alive with
    | givenUp gaveUp => exact absurd gaveUp (borne _)
    | failed _ _ same =>
        rw [same, oneMore]
        exact Nat.le_min.mpr ⟨Nat.le_add_left .., by decide⟩
    | passed reached => cases fails.symm.trans reached
    | converged reached => cases fails.symm.trans reached
  refine ⟨earlier, stretch, split, uncleared, ?_, ?_⟩
  · rw [counted] at some
    exact Nat.le_trans some (Nat.min_le_left ..)
  · rw [delayed, counted]
    exact congrArg _ (transientRequeue_counted slow (by decide) _)

/-- The first failure in transport is followed by a delay of one base. -/
example : Flaky.first.failsInTransport = true ∧
    Flaky.first.outcome.requeue = .after Flaky.settings.transientBackoffBase := by decide

end ServiceOperator
