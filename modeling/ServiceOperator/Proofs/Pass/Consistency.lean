import ServiceOperator.Proofs.Pass.Replacement
import ServiceOperator.Proofs.Pass.Running

/-!
# What holds of every status

A status has nine entries, and each exit of a pass writes some of them.  What the exits agree on is
`ResourceStatus.Consistent`: which entries come in pairs, what has to stand behind the words that a
resource runs, and what the conditions look like.  It holds of no status, every pass keeps it, and
so it holds after any passes, over whatever record in whatever surroundings.

The count of the transport failures stays below the number at which a record is given up.  A
deletion is never given up, and counts on: the bound holds for as long as none has run.

Both are proved by one case for each conclusion of a pass over a living record, and one for each
course of a deletion.

* `ResourceStatus.Consistent` is the invariant, and its fields are what a reader of a status may
  rely on.
* `CompletedPass.consistent` is the step law, and `RunsFrom.consistent` the law of runs.
* `runsFrom_initial_consistent` states both for passes from no status, with the bound on the count
  and with what a pass that reports a running resource has read (`CompletedPass.connected`).
-/

namespace ServiceOperator

namespace ResourceStatus

variable {s : ResourceStatus} {holds : Bool} {reason : Reason} {message stamp : String}

/-- The entries of a status agree with each other. -/
structure Consistent (s : ResourceStatus) : Prop where
  paired : s.Paired
  /-- What runs is known, and its generation has not failed. -/
  running : s.isRunning = true → s.id.isSome = true ∧ s.failedGeneration = none
  /-- The conditions are of two types at most, each of them complete. -/
  tidy : Condition.Tidy s.conditions

theorem consistent_initial : initial.Consistent where
  paired := rfl
  running running := by cases running
  tidy := Condition.tidy_nil

/-- Whatever a status said of its resource before, what counts is what it is set to say. -/
theorem consistent_setRunning (paired : s.Paired) (tidy : Condition.Tidy s.conditions)
    (running : holds = true → s.id.isSome = true ∧ s.failedGeneration = none) :
    (s.setRunning holds reason message stamp).Consistent where
  paired := paired
  running runs := running (isRunning_setRunning.symm.trans runs)
  tidy := tidy_setRunning tidy

/-- A status may deny of any resource that it runs. -/
theorem consistent_setRunning_false (paired : s.Paired) (tidy : Condition.Tidy s.conditions) :
    (s.setRunning false reason message stamp).Consistent := by
  refine consistent_setRunning paired tidy ?_
  intro holds
  cases holds

theorem Consistent.setError (consistent : s.Consistent) :
    (s.setError holds reason message stamp).Consistent where
  paired := consistent.paired
  running runs := consistent.running (isRunning_setError.symm.trans runs)
  tidy := tidy_setError consistent.tidy

end ResourceStatus

namespace Pass

open Calls (Entry)
open ResourceStatus (consistent_setRunning consistent_setRunning_false)

variable {R : Type} {p q : Pass R} {t : List (Entry R)} {o : Outcome} {e : OperatorError}
  {message : String}

/-! ## A living record -/

/-- A pass keeps its status consistent until its exit. -/
theorem Becomes.consistent (becomes : p.Becomes q) (consistent : p.status.Consistent) :
    q.status.Consistent := by
  have tidy : Condition.Tidy q.status.conditions := becomes.conditions ▸ consistent.tidy
  cases becomes.applied with
  | kept id observed failed attempts =>
      refine ⟨?_, ?_, tidy⟩
      · rw [ResourceStatus.Paired, id, observed]
        exact consistent.paired
      · rw [becomes.isRunning, id, failed]
        exact consistent.running
  | accepted known observed free patient =>
      refine ⟨?_, fun _ => ⟨known, free⟩, tidy⟩
      rw [ResourceStatus.Paired, known, observed]
      rfl

/-- A record that is given up is reported not to run, so that its generation may be noted as
failed. -/
theorem terminal_consistent {reason : Reason} (consistent : p.status.Consistent) :
    (p.terminal reason message).status.Consistent := by
  let givenUp : ResourceStatus := { p.status with
    failedGeneration := some p.subject.generation
    operationStartedAt := none
    failedAttempts := 0 }
  have denied : (givenUp.setRunning false reason message p.stamp).Consistent :=
    consistent_setRunning_false consistent.paired consistent.tidy
  exact denied.setError

/-- A resource that is not ready is reported not to run, with or without the record being given
up. -/
theorem notReady_consistent (consistent : p.status.Consistent) :
    (p.notReady message).status.Consistent := by
  unfold notReady
  split
  · exact terminal_consistent consistent
  · have denied : (p.setRunning false .provisioning message).status.Consistent :=
      consistent_setRunning_false consistent.paired consistent.tidy
    exact denied.setError

/-- A failure that may pass leaves a resource running only if it ran before. -/
theorem failRetryable_consistent (consistent : p.status.Consistent) :
    (p.failRetryable e).status.Consistent := by
  have reported : (p.setError true e.reason e.message).status.Consistent := consistent.setError
  unfold failRetryable
  split
  · exact terminal_consistent consistent
  · dsimp only
    split
    · exact reported
    · exact consistent_setRunning_false reported.paired reported.tidy

/-- A failure in transport reports nothing of the resource, or gives its record up. -/
theorem failTransient_consistent (consistent : p.status.Consistent) :
    (p.failTransient e).status.Consistent := by
  have counted : p.countFailure.status.Consistent :=
    ⟨consistent.paired, consistent.running, consistent.tidy⟩
  unfold failTransient
  dsimp only
  split
  · exact terminal_consistent counted
  · exact counted.setError

/-- **Every conclusion of a pass leaves a consistent status**, by one case for each exit.  The
exit that finds the resource gone forgets the id together with the generation; the one that
converges has an accepted resource to speak of. -/
theorem Concludes.consistent (concludes : q.Concludes t o) (consistent : q.status.Consistent) :
    o.status.Consistent := by
  cases concludes with
  | givenUp => exact terminal_consistent consistent
  | waiting => exact notReady_consistent consistent
  | gone => exact consistent_setRunning_false rfl consistent.tidy
  | retried => exact failRetryable_consistent consistent
  | delayed => exact failTransient_consistent consistent
  | @converged id remote info state got ready connected known observed =>
      let settled : ResourceStatus := { q.status with
        operationStartedAt := none
        failedAttempts := 0
        failedGeneration := none }
      have running :
          (settled.setRunning true .running ("external state is " ++ state) q.stamp).Consistent :=
        consistent_setRunning consistent.paired consistent.tidy fun _ => ⟨known, rfl⟩
      exact running.setError

/-- A pass that has counted up to the bound gives up, and starts anew. -/
theorem Concludes.patient (concludes : q.Concludes t o)
    (positive : 1 ≤ q.settings.maxTransientFailures)
    (patient : q.status.failedAttempts < q.settings.maxTransientFailures) :
    o.status.failedAttempts < q.settings.maxTransientFailures := by
  cases concludes with
  | givenUp => exact positive
  | waiting inTime =>
      rw [notReady, if_neg (Bool.eq_false_iff.mp inTime)]
      exact patient
  | gone => exact patient
  | retried fails passing inTime =>
      rw [failRetryable, if_neg (Bool.eq_false_iff.mp inTime)]
      dsimp only
      split <;> exact patient
  | delayed fails passing counted =>
      have bearable : ¬ q.countFailure.settings.maxTransientFailures ≤
          q.countFailure.status.failedAttempts := Nat.not_le.mpr counted
      rw [failTransient, if_neg bearable]
      exact counted
  | converged => exact positive

/-! ## A deletion -/

theorem beginDeletion_consistent (consistent : p.status.Consistent) :
    p.beginDeletion.status.Consistent :=
  consistent_setRunning_false consistent.paired consistent.tidy

/-- A deletion that fails reports the failure and may count it, and neither is related to the
rest. -/
theorem deleteFailed_consistent (consistent : p.status.Consistent) :
    (p.deleteFailed e).status.Consistent := by
  unfold deleteFailed
  split
  · exact consistent.setError
  · have reported : (p.setError true e.reason e.message).status.Consistent := consistent.setError
    dsimp only
    split
    · exact ⟨reported.paired, reported.running, reported.tidy⟩
    · exact reported
    · exact reported
    · exact reported

/-- So a deletion keeps a status consistent, whichever way it goes. -/
theorem DeleteCourse.consistent (course : DeleteCourse p t o) (consistent : p.status.Consistent) :
    o.status.Consistent := by
  have begun := beginDeletion_consistent consistent
  have saw {state : String} : (p.beginDeletion.sawState state).status.Consistent :=
    ⟨begun.paired, begun.running, begun.tidy⟩
  cases course with
  | undeleted => exact deleteFailed_consistent begun
  | unconfirmed => exact deleteFailed_consistent begun
  | confirmed => exact begun
  | overdue => exact saw.setError
  | lingering => exact consistent_setRunning_false begun.paired begun.tidy

end Pass

/-! ## Passes -/

namespace CompletedPass

variable {R : Type}

/-- **The step law.**  Whatever its record and its surroundings, a pass over a consistent status
leaves a consistent one. -/
theorem consistent (pass : CompletedPass R) (consistent : pass.subject.status.Consistent) :
    pass.outcome.status.Consistent := by
  have course := reconcileOnce_course pass.yields
  cases alive : pass.subject.deletionRequested with
  | true => exact (course.deletion alive).consistent consistent
  | false =>
      rcases course.concludes alive with ⟨-, -, rests⟩ | ⟨-, step, q, becomes, concludes⟩
      · rw [rests]
        exact consistent
      · exact concludes.consistent (becomes.consistent consistent)

/-- A pass that does not delete keeps the count of the transport failures below the bound. -/
theorem patient (pass : CompletedPass R) (alive : pass.outcome.step ≠ .delete)
    (positive : 1 ≤ pass.settings.maxTransientFailures)
    (patient : pass.subject.status.failedAttempts < pass.settings.maxTransientFailures) :
    pass.outcome.status.failedAttempts < pass.settings.maxTransientFailures := by
  have course := reconcileOnce_course pass.yields
  cases requested : pass.subject.deletionRequested with
  | true => exact absurd (Pass.delete_keeps (course.deletion requested)).1 alive
  | false =>
      rcases course.concludes requested with ⟨-, -, rests⟩ | ⟨-, step, q, becomes, concludes⟩
      · rw [rests]
        exact patient
      · have settings := becomes.settings
        change q.settings = pass.settings at settings
        rw [← settings] at positive patient ⊢
        refine concludes.patient positive ?_
        cases becomes.applied with
        | kept id observed failed attempts =>
            rw [attempts]
            exact patient
        | accepted known observed free reset =>
            rw [reset]
            exact positive

/-- What runs after a pass without a failure, the pass has read how to connect to. -/
theorem connected (pass : CompletedPass R) (consistent : pass.subject.status.Consistent)
    (running : pass.outcome.status.isRunning = true)
    (unfailing : pass.outcome.status.isFailing = false) :
    pass.outcome.connectionInfo.isSome = true := by
  have course := reconcileOnce_course pass.yields
  cases course.verdict with
  | ready returned => simp [returned]
  | denied nothing denied => cases denied.symm.trans running
  | kept nothing kept alive passing =>
      rcases passing with blocked | ⟨e, failed⟩
      · -- A status that blocks has a failed generation, and nothing runs in it.
        obtain ⟨fingerprint, planned⟩ := course.planned
        obtain ⟨-, blocks, -⟩ := Subject.plan_eq_blocked_iff.mp (planned.symm.trans blocked)
        obtain ⟨-, free⟩ := consistent.running (kept.symm.trans running)
        cases free.symm.trans blocks
      · have failing : pass.outcome.status.isFailing = true := failed.reported.isTrue rfl
        cases unfailing.symm.trans failing

end CompletedPass

section Runs

variable {R : Type} {start finish : ResourceStatus} {run : List (CompletedPass R)} {bound : Nat}

theorem RunsFrom.consistent (runs : RunsFrom start run finish) (consistent : start.Consistent) :
    finish.Consistent := by
  induction runs with
  | nil => exact consistent
  | @cons pass run finish later ih => exact ih (pass.consistent consistent)

/-- Passes that follow each other, and of which none deletes, keep the count below the bound. -/
theorem RunsFrom.patient (runs : RunsFrom start run finish) (positive : 1 ≤ bound)
    (same : ∀ pass ∈ run, pass.settings.maxTransientFailures = bound)
    (alive : ∀ pass ∈ run, pass.outcome.step ≠ .delete) (patient : start.failedAttempts < bound) :
    finish.failedAttempts < bound := by
  induction runs with
  | nil => exact patient
  | @cons pass run finish later ih =>
      rw [List.forall_mem_cons] at same alive
      refine ih same.2 alive.2 ?_
      rw [← same.1] at positive patient ⊢
      exact pass.patient alive.1 positive patient

/-- **What holds of every status.**  After any passes from no status, whatever became of the
generation, the deletion and the time, and whatever the passes were answered,

* the status names a resource exactly if it names the generation that is applied to it,
* a resource that runs is known, and no failed generation is noted,
* there is at most one condition that reports convergence, at most one that reports failure and no
  other, and each has a reason, a message and a time of its last transition,
* fewer transport failures are noted than a record is given up after, as long as no pass deletes. -/
theorem runsFrom_initial_consistent (runs : RunsFrom .initial run finish) (positive : 1 ≤ bound)
    (same : ∀ pass ∈ run, pass.settings.maxTransientFailures = bound) :
    finish.Consistent ∧
      ((∀ pass ∈ run, pass.outcome.step ≠ .delete) → finish.failedAttempts < bound) := by
  refine ⟨runs.consistent ResourceStatus.consistent_initial, ?_⟩
  intro alive
  exact runs.patient positive same alive positive

end Runs

/-! ## A control plane that cannot be reached -/

namespace Unreachable

/-- Surroundings in which nothing comes back from the resource. -/
def answer : (c : Call Unit) → c.Answer
  | .get _ => .error (.transport "connection reset")
  | call => Steady.answer call

/-- A pass from a status at a second. -/
def pass (status : ResourceStatus) (second : Int) : CompletedPass Unit :=
  .against answer Steady.profile ⟨"PostgreSQL", "orders", 1, false, status⟩ .standard ⟨second, 0⟩

/-- A minute after its resource was created, the record meets the control plane. -/
def second : CompletedPass Unit := pass Steady.first.outcome.status 60

/-- And again a minute later. -/
def third : CompletedPass Unit := pass second.outcome.status 120

end Unreachable

/-- Two failures in transport are counted, and leave a consistent status of a resource that runs. -/
theorem runsFrom_initial_consistent_unreachable :
    Unreachable.third.outcome.status.failedAttempts = 2 ∧
      Unreachable.third.outcome.status.isRunning = true ∧
      Unreachable.third.outcome.status.Consistent ∧
      Unreachable.third.outcome.status.failedAttempts < 10 := by
  let first := Steady.first
  let second := Unreachable.second
  let third := Unreachable.third
  have last : RunsFrom third.subject.status [third] third.outcome.status := .cons (.nil _)
  have lastTwo : RunsFrom second.subject.status [second, third] third.outcome.status := .cons last
  have runs : RunsFrom .initial [first, second, third] third.outcome.status := .cons lastTwo
  have same : ∀ pass ∈ [first, second, third], pass.settings.maxTransientFailures = 10 := by
    simp only [List.forall_mem_cons]
    exact ⟨rfl, rfl, rfl, by simp⟩
  have alive : ∀ pass ∈ [first, second, third], pass.outcome.step ≠ .delete := by
    simp only [List.forall_mem_cons]
    exact ⟨by decide, by decide, by decide, by simp⟩
  obtain ⟨consistent, patient⟩ := runsFrom_initial_consistent runs (by decide) same
  exact ⟨rfl, rfl, consistent, patient alive⟩

end ServiceOperator
