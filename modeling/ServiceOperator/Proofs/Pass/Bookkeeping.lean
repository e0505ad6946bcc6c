import ServiceOperator.Proofs.Pass.Runs
import ServiceOperator.Proofs.Status.Bookkeeping

/-!
# The conditions that a pass leaves behind

A pass stamps all that it writes with one instant, and takes back no status that it has set.  So
what it does to the conditions of its record is a series of settings, at most one for each of the
two conditions of a status: `Pass.Sets`, proved by one lemma for each exit.  A deletion that waits
sets the condition of convergence twice, but to the same status.

The books are kept by that alone (`CompletedPass.keeps_books`), whatever the record has in its list:
an entry that is there twice, or of a type that the operator does not know, is as good as any other.

### Why each condition is set once

A condition carries the time at which its status changed last, and a setting leaves that time alone
if the status stays the same.  If a pass set a condition to one status and then back, the time would
be that of the pass although nothing changed in the end.  `Condition.Amends` therefore counts the
settings, at most one for each type; where a pass sets a type twice to the same status,
`Condition.set_set` makes one setting of the two.
-/

namespace ServiceOperator

open Condition (Amends Booked Mentions running error)

namespace Pass

variable {R : Type} {p q : Pass R} {t : List (Calls.Entry R)} {o : Outcome} {e : OperatorError}
  {message : String}

/-- A pass has come to conditions by settings of the two conditions of a status, each at most once,
and these types are among them now. -/
structure Sets (p : Pass R) (certain : List String) (after : List Condition) : Prop where
  amends : ∃ types, Amends p.stamp types p.status.conditions after ∧
    ∀ type ∈ types, type = running ∨ type = error
  mentions : ∀ type ∈ certain, Mentions after type

variable {certain fewer : List String} {after : List Condition}

theorem Sets.of_amends {types : List String}
    (amends : Amends p.stamp types p.status.conditions after)
    (known : ∀ type ∈ types, type = running ∨ type = error) : p.Sets types after :=
  ⟨⟨types, amends, known⟩, fun _ => amends.mentions⟩

theorem Sets.mono (sets : p.Sets certain after) (subset : fewer ⊆ certain) :
    p.Sets fewer after :=
  ⟨sets.amends, fun type member => sets.mentions type (subset member)⟩

/-- What a pass sets, one sets as well that had the same conditions at the same instant. -/
theorem Sets.of_same (sets : q.Sets certain after) (now : q.now = p.now)
    (conditions : q.status.conditions = p.status.conditions) : p.Sets certain after where
  amends := by
    have stamp : q.stamp = p.stamp := congrArg Instant.stamp now
    rw [← conditions, ← stamp]
    exact sets.amends
  mentions := sets.mentions

/-! ## The settings -/

variable {holds failing : Bool} {reason failure : Reason} {text : String}

theorem setRunning_sets :
    p.Sets [running] (p.setRunning holds reason message).status.conditions :=
  .of_amends (.set (.nothing _) (by simp)) (by simp)

theorem setError_sets :
    p.Sets [error] (p.setError holds reason message).status.conditions :=
  .of_amends (.set (.nothing _) (by simp)) (by simp)

theorem setRunning_setError_sets :
    p.Sets [error, running]
      ((p.setRunning holds reason message).setError failing failure text).status.conditions :=
  .of_amends (.set (.set (.nothing _) (by simp)) (by simp [ResourceStatus.running_ne_error.symm]))
    (by simp [or_comm])

theorem setError_setRunning_sets :
    p.Sets [running, error]
      ((p.setError failing failure text).setRunning holds reason message).status.conditions :=
  .of_amends (.set (.set (.nothing _) (by simp)) (by simp [ResourceStatus.running_ne_error]))
    (by simp)

/-! ## The exits of a living record -/

theorem terminal_sets :
    p.Sets [error, running] (p.terminal reason message).status.conditions :=
  setRunning_setError_sets.of_same rfl rfl

/-- A resource that is waited for has both conditions set, or the record is given up. -/
theorem notReady_sets : p.Sets [error, running] (p.notReady message).status.conditions := by
  unfold notReady
  split
  · exact terminal_sets
  · exact setRunning_setError_sets

theorem externallyDeleted_sets : p.Sets [running] p.externallyDeleted.status.conditions :=
  setRunning_sets.of_same rfl rfl

/-- A resource that has converged is reported already. -/
theorem failRetryable_sets :
    p.Sets [error, running] (p.failRetryable e).status.conditions := by
  unfold failRetryable
  split
  · exact terminal_sets
  · dsimp only
    split
    case isTrue converged =>
      refine ⟨setError_sets.amends, ?_⟩
      simp only [List.mem_cons, List.not_mem_nil, or_false, forall_eq_or_imp, forall_eq]
      exact ⟨Condition.mentions_set, Condition.mentions_of_isTrue converged⟩
    case isFalse => exact setError_setRunning_sets.mono (List.Perm.swap ..).subset

/-- A failure in transport sets the failure, and the rest only if it was one too many. -/
theorem failTransient_sets : p.Sets [error] (p.failTransient e).status.conditions := by
  have givenUp {reason : Reason} {message : String} : p.countFailure.Sets [error]
      (p.countFailure.terminal reason message).status.conditions :=
    terminal_sets.mono (by simp)
  unfold failTransient
  dsimp only
  split
  · exact givenUp.of_same rfl rfl
  · exact (setError_sets (p := p.countFailure)).of_same rfl rfl

theorem converged_sets {info : ConnectionInfo} {state : String} :
    p.Sets [error, running] (p.converged info state).status.conditions :=
  setRunning_setError_sets.of_same rfl rfl

/-- **What a conclusion sets.**  Only a failure in transport may leave it open whether the resource
has converged, and only the exit of a resource that is gone says nothing of failures. -/
theorem Concludes.sets (concludes : q.Concludes t o) : q.Sets [] o.status.conditions ∧
    (Mentions o.status.conditions running ∨ ∃ e, FailsOn t e ∧ e.errorClass = .transient) ∧
    (Mentions o.status.conditions error ∨
      Condition.reason? o.status.conditions running = some Reason.externallyDeleted.text) := by
  have both (sets : q.Sets [error, running] o.status.conditions) :
      q.Sets [] o.status.conditions ∧ Mentions o.status.conditions running ∧
        Mentions o.status.conditions error :=
    ⟨sets.mono (by simp), sets.mentions _ (by simp), sets.mentions _ (by simp)⟩
  cases concludes with
  | givenUp => exact (both terminal_sets).imp_right (·.imp .inl .inl)
  | waiting => exact (both notReady_sets).imp_right (·.imp .inl .inl)
  | retried => exact (both failRetryable_sets).imp_right (·.imp .inl .inl)
  | converged => exact (both converged_sets).imp_right (·.imp .inl .inl)
  | gone =>
      have sets := externallyDeleted_sets (p := q)
      refine ⟨sets.mono (by simp), .inl (sets.mentions _ (by simp)), .inr ?_⟩
      exact Condition.reason?_set_self
  | @delayed e fails passing =>
      have sets := failTransient_sets (p := q) (e := e)
      exact ⟨sets.mono (by simp), .inr ⟨_, fails, passing⟩, .inl (sets.mentions _ (by simp))⟩

/-! ## The exits of a deletion -/

theorem beginDeletion_sets : p.Sets [running] p.beginDeletion.status.conditions :=
  setRunning_sets.of_same rfl rfl

/-- A failure that is noted behind the beginning of a deletion. -/
theorem beginDeletion_setError_sets : p.Sets [error, running]
    (p.beginDeletion.setError failing failure text).status.conditions :=
  setRunning_setError_sets.of_same rfl rfl

/-- A deletion that fails has both conditions set. -/
theorem deleteFailed_sets :
    p.Sets [error, running] (p.beginDeletion.deleteFailed e).status.conditions := by
  unfold deleteFailed
  split
  · exact beginDeletion_setError_sets
  · dsimp only
    split <;> exact beginDeletion_setError_sets

/-- A deletion that waits has set the condition of convergence twice, to the same status and at the
same instant: that is one setting. -/
theorem deleting_sets {state : String} : p.Sets [running]
    ((p.beginDeletion.sawState state).setRunning false .deleting message).status.conditions := by
  have once :
      ((p.beginDeletion.sawState state).setRunning false .deleting message).status.conditions =
        (p.setRunning false .deleting message).status.conditions := Condition.set_set
  rw [once]
  exact setRunning_sets

/-- **What a deletion sets**: that it goes on, and a failure if there was one. -/
theorem DeleteCourse.sets (course : DeleteCourse p t o) :
    p.Sets [running] o.status.conditions ∧ (Mentions o.status.conditions error ∨
      Condition.reason? o.status.conditions running = some Reason.deleting.text) := by
  have failing (sets : p.Sets [error, running] o.status.conditions) :
      p.Sets [running] o.status.conditions ∧ Mentions o.status.conditions error :=
    ⟨sets.mono (by simp), sets.mentions _ (by simp)⟩
  cases course with
  | undeleted => exact (failing deleteFailed_sets).imp_right .inl
  | unconfirmed => exact (failing deleteFailed_sets).imp_right .inl
  | confirmed => exact ⟨beginDeletion_sets, .inr Condition.reason?_set_self⟩
  | overdue => exact (failing beginDeletion_setError_sets).imp_right .inl
  | lingering => exact ⟨deleting_sets, .inr Condition.reason?_set_self⟩

end Pass

open Pass (FailsOn)

/-- **The books of a pass.**  Whatever its adapter, its record, the conditions that it finds and the
instant: the entries that a pass finds keep their places, only the first one that reports
convergence and the first one that reports failure may change, and the time of a last transition
moves, to the instant of the pass, only with the status or where there was none.  What is added
stands behind them and is of a type that was missing.  Of the two types that a pass reports on,
convergence can still be missing after a pass that was blocked or failed in transport, failure after
one that was blocked, found the resource gone or deleted it. -/
theorem CompletedPass.keeps_books {R : Type} (pass : CompletedPass R) :
    Booked pass.now.stamp pass.subject.status.conditions pass.outcome.status.conditions ∧
    (Mentions pass.outcome.status.conditions running ∨ pass.outcome.step = .blocked ∨
      ∃ e, FailsOn pass.asked e ∧ e.errorClass = .transient) ∧
    (Mentions pass.outcome.status.conditions error ∨ pass.outcome.step = .blocked ∨
      Condition.reason? pass.outcome.status.conditions running =
        some Reason.externallyDeleted.text ∨
      Condition.reason? pass.outcome.status.conditions running = some Reason.deleting.text) := by
  have course := reconcileOnce_course pass.yields
  cases alive : pass.subject.deletionRequested with
  | true =>
      obtain ⟨sets, failure⟩ := (course.deletion alive).sets
      obtain ⟨types, amends, known⟩ := sets.amends
      refine ⟨amends.booked known, .inl (sets.mentions _ (by simp)), ?_⟩
      exact failure.imp_right fun deletes => .inr (.inr deletes)
  | false =>
      rcases course.concludes alive with ⟨-, -, rests⟩ | ⟨-, step, q, becomes, concludes⟩
      · rw [rests]
        exact ⟨Amends.booked (.nothing _) (by simp), .inr (.inl rfl), .inr (.inl rfl)⟩
      · obtain ⟨sets, convergence, failure⟩ := concludes.sets
        obtain ⟨types, amends, known⟩ := (sets.of_same becomes.now becomes.conditions).amends
        refine ⟨amends.booked known, convergence.imp_right .inr, ?_⟩
        exact failure.imp_right fun gone => .inr (.inl gone)

end ServiceOperator
