import ServiceOperator.Proofs.Pass.Application
import ServiceOperator.Proofs.Pass.Convergence
import ServiceOperator.Proofs.Pass.TerminalFailure

/-!
# Deletions that take long

The resource of a record that is being deleted may refuse to go for as long as it likes.  Every pass
begins by asking for its deletion once more (`CompletedPass.Deletes.asks`), and whatever the answer,
comes back unless the resource is gone: the errors that give a living record up only choose the
delay here (`Pass.deleteFailed`).

The one thing that time changes is what is reported.  The deletion began when its first pass said
so; no later pass says otherwise, so that all of them measure the same time (`RunsFrom.deletes`),
and once that is longer than a deletion may take, each of the three exits that keep the finalizer is
`deletionTimeout`.

* `CompletedPass.deletes` is the step law: what one pass over a record that is being deleted asks,
  leaves alone and reports, for each exit of `Pass.DeleteCourse`.
* `RunsFrom.deletes` carries it along a run.  What the induction hands on is only the time that is
  noted, since every pass reads everything else anew.
* `deletion_persists` is the law of whole runs, from any status at all.
-/

namespace ServiceOperator

open Calls (Entry)

variable {R : Type}

/-- A status reports that the resource is not running, because it is being deleted. -/
def ResourceStatus.ReportsDeleting (s : ResourceStatus) : Prop :=
  ∃ message, Condition.Stands s.conditions Condition.running "False" Reason.deleting.text message

/-- An outcome reports that the deletion takes longer than it may, and comes back no sooner than for
a resource that runs. -/
structure Outcome.ReportsOverdue (settings : Settings) (o : Outcome) : Prop where
  reported : ∃ message,
    Condition.Stands o.status.conditions Condition.error "True" Reason.deletionTimeout.text message
  failure : o.errorReason = some .deletionTimeout
  requeue : o.requeue = .after settings.readyRequeue

theorem ResourceStatus.reportsDeleting_setRunning {s : ResourceStatus} {message stamp : String} :
    (s.setRunning false .deleting message stamp).ReportsDeleting :=
  ⟨message, Condition.stands_set⟩

theorem ResourceStatus.ReportsDeleting.setError {s : ResourceStatus} {holds : Bool}
    {reason : Reason} {message stamp : String} (deleting : s.ReportsDeleting) :
    (s.setError holds reason message stamp).ReportsDeleting := by
  obtain ⟨text, stands⟩ := deleting
  exact ⟨text, stands.set_of_ne ResourceStatus.running_ne_error⟩

namespace Pass

variable {p : Pass R} {e : OperatorError} {message : String} {t : List (Entry R)} {o : Outcome}

/-! ## The exits -/

/-- What an exit of a deletion hands on to the next pass. -/
structure Persists (p : Pass R) (o : Outcome) : Prop where
  failed : o.status.failedGeneration = p.status.failedGeneration
  began : o.status.deletionStartedAt = p.status.deletionStartedAt
  deleting : o.status.ReportsDeleting

theorem deletionTimeout_persists (deleting : p.status.ReportsDeleting) :
    p.Persists (p.deletionTimeout message) :=
  ⟨rfl, rfl, deleting.setError⟩

/-- A deletion that fails goes on, whatever the error. -/
theorem deleteFailed_persists (deleting : p.status.ReportsDeleting) :
    p.Persists (p.deleteFailed e) := by
  unfold deleteFailed
  split
  · exact deletionTimeout_persists deleting
  · dsimp only
    split <;> exact ⟨rfl, rfl, deleting.setError⟩

theorem deletionTimeout_reportsOverdue : (p.deletionTimeout message).ReportsOverdue p.settings :=
  ⟨⟨_, Condition.stands_set⟩, rfl, rfl⟩

/-- Once the time is over, the class of the error does not matter. -/
theorem deleteFailed_reportsOverdue (late : p.deletionTimedOut = true) :
    (p.deleteFailed e).ReportsOverdue p.settings := by
  rw [deleteFailed, if_pos late]
  exact deletionTimeout_reportsOverdue

/-- A deletion that began at a valid time takes too long exactly if more time has passed since than
it may take. -/
theorem deletionTimedOut_iff {began : String} {start : Instant}
    (noted : p.status.deletionStartedAt = some began) (valid : Instant.parse? began = some start) :
    p.deletionTimedOut = true ↔
      (p.settings.deletionTimeout.nanos : Int) < p.now.nanosSince start := by
  rw [deletionTimedOut, noted, exceeds_iff, Option.bind_some, valid]
  simp

/-! ## The courses -/

theorem beginDeletion_reportsDeleting : p.beginDeletion.status.ReportsDeleting :=
  ResourceStatus.reportsDeleting_setRunning

/-- Every course of a deletion hands on when it began, and that it goes on. -/
theorem DeleteCourse.persists (course : DeleteCourse p t o) : p.beginDeletion.Persists o := by
  have deleting := beginDeletion_reportsDeleting (p := p)
  cases course with
  | undeleted => exact deleteFailed_persists deleting
  | unconfirmed => exact deleteFailed_persists deleting
  | confirmed => exact ⟨rfl, rfl, deleting⟩
  | overdue => exact ⟨rfl, rfl, deleting.setError⟩
  | lingering => exact ⟨rfl, rfl, ResourceStatus.reportsDeleting_setRunning⟩

/-- A deletion that keeps the finalizer comes back by itself. -/
theorem DeleteCourse.timed (course : DeleteCourse p t o) (held : o.removeFinalizer = false) :
    ∃ delay, o.requeue = .after delay := by
  cases course with
  | undeleted => exact deleteFailed_timed
  | unconfirmed => exact deleteFailed_timed
  | confirmed => cases held
  | overdue => exact ⟨_, rfl⟩
  | lingering => exact ⟨_, rfl⟩

/-- A deletion that keeps the finalizer when its time is over reports so, whether the resource is
still there or a call failed. -/
theorem DeleteCourse.reportsOverdue (course : DeleteCourse p t o)
    (late : p.beginDeletion.deletionTimedOut = true) (held : o.removeFinalizer = false) :
    o.ReportsOverdue p.settings := by
  cases course with
  | undeleted => exact deleteFailed_reportsOverdue late
  | unconfirmed => exact deleteFailed_reportsOverdue late
  | confirmed => cases held
  | overdue => exact deletionTimeout_reportsOverdue (p := p.beginDeletion.sawState _)
  | lingering accepted early => cases early.symm.trans late

end Pass

/-! ## Passes -/

/-- A pass goes on with a deletion that began at a time: it asks for the resource to be deleted
before anything else, applies nothing, forgets nothing of the resource, and unless it is done, comes
back. -/
structure CompletedPass.Deletes (pass : CompletedPass R) (began : String) : Prop where
  asks : ∃ answer later, pass.asked = .deleted pass.subject.status.id answer :: later
  nothing : AppliesNothing pass.asked
  id : pass.outcome.status.id = pass.subject.status.id
  observed : pass.outcome.status.observedGeneration = pass.subject.status.observedGeneration
  failed : pass.outcome.status.failedGeneration = pass.subject.status.failedGeneration
  noted : pass.outcome.status.sourceFingerprint = pass.subject.status.sourceFingerprint
  deleting : pass.outcome.status.ReportsDeleting
  kept : pass.outcome.status.deletionStartedAt = some began
  timed : pass.outcome.removeFinalizer = false → ∃ delay, pass.outcome.requeue = .after delay
  overdue : ∀ start, Instant.parse? began = some start →
    (pass.settings.deletionTimeout.nanos : Int) < pass.now.nanosSince start →
      pass.outcome.removeFinalizer = false → pass.outcome.ReportsOverdue pass.settings

/-- **The step law of a deletion.**  It goes on from when it began, or begins. -/
theorem CompletedPass.deletes (pass : CompletedPass R)
    (requested : pass.subject.deletionRequested = true) :
    pass.Deletes (pass.subject.status.deletionStartedAt.getD pass.now.stamp) := by
  have course := (reconcileOnce_course pass.yields).deletion requested
  obtain ⟨retains, nothing⟩ := course.retains
  have persists := course.persists
  obtain ⟨answer, calls⟩ := course.calls
  have asks : ∃ later, pass.asked = .deleted pass.subject.status.id answer :: later := by
    rcases calls with only | ⟨found, both⟩
    · exact ⟨_, only⟩
    · exact ⟨_, both⟩
  exact {
    asks := ⟨answer, asks⟩
    nothing := nothing
    id := retains.id
    observed := retains.observedGeneration
    failed := persists.failed
    noted := retains.sourceFingerprint
    deleting := persists.deleting
    kept := persists.began
    timed := course.timed
    overdue _ valid late held :=
      course.reportsOverdue ((Pass.deletionTimedOut_iff rfl valid).mpr late) held }

/-! ## Runs -/

section Runs

variable {start finish : ResourceStatus} {run : List (CompletedPass R)}

/-- The passes of a deletion that has begun go on with it. -/
theorem RunsFrom.deletes {began : String} (runs : RunsFrom start run finish)
    (noted : start.deletionStartedAt = some began)
    (requested : ∀ pass ∈ run, pass.subject.deletionRequested = true) :
    ∀ pass ∈ run, pass.Deletes began := by
  -- What is carried along the run is the time that is noted.
  induction runs with
  | nil => simp
  | @cons first rest finish later ih =>
      obtain ⟨requested, requestedLater⟩ := List.forall_mem_cons.mp requested
      have deletes := first.deletes requested
      rw [noted, Option.getD_some] at deletes
      exact List.forall_mem_cons.mpr ⟨deletes, ih deletes.kept requestedLater⟩

/-- **A deletion is never given up, and does nothing else.**  From whatever status the passes over a
record that is being deleted start, each of them asks for the resource to be deleted once more, and
goes on with the deletion that began when the status says, or else with the first of them. -/
theorem deletion_persists {first : CompletedPass R}
    (runs : RunsFrom start (first :: run) finish)
    (requested : ∀ pass ∈ first :: run, pass.subject.deletionRequested = true) :
    ∀ pass ∈ first :: run, pass.Deletes (start.deletionStartedAt.getD first.now.stamp) := by
  obtain ⟨requested, requestedLater⟩ := List.forall_mem_cons.mp requested
  cases runs with
  | cons later =>
      have deletes := first.deletes requested
      exact List.forall_mem_cons.mpr ⟨deletes, later.deletes deletes.kept requestedLater⟩

end Runs

namespace Stuck

/-- Surroundings in which a delete is answered as given, and everything else succeeds. -/
def answer (deleted : Except OperatorError Unit) : (c : Call Unit) → c.Answer
  | .delete _ => deleted
  | call => Steady.answer call

/-- A pass of a deletion from a status at a second. -/
def pass (deleted : Except OperatorError Unit) (status : ResourceStatus) (second : Int) :
    CompletedPass Unit :=
  .against (answer deleted) Steady.profile ⟨"PostgreSQL", "orders", 1, true, status⟩ .standard
    ⟨second, 0⟩

/-- The pass that begins the deletion, behind which the resource is still there. -/
def first : CompletedPass Unit := pass (.ok ()) Steady.first.outcome.status 0

/-- A pass more than ten minutes later, whose delete is lost. -/
def second : CompletedPass Unit :=
  pass (.error (.transport "connection refused")) first.outcome.status 601

theorem runsFrom : RunsFrom first.subject.status [first, second] second.outcome.status :=
  have later : RunsFrom second.subject.status [second] second.outcome.status := .cons (.nil _)
  .cons later

end Stuck

/-- A deletion that began at the start of 1970 is overdue ten minutes later. -/
theorem deletion_persists_stuck :
    Stuck.first.Deletes "1970-01-01T00:00:00+00:00" ∧
      Stuck.second.Deletes "1970-01-01T00:00:00+00:00" ∧
      Stuck.second.outcome.ReportsOverdue .standard := by
  have requested : ∀ pass ∈ [Stuck.first, Stuck.second],
      pass.subject.deletionRequested = true := by
    simp only [List.forall_mem_cons]
    exact ⟨rfl, rfl, by simp⟩
  have persists := deletion_persists Stuck.runsFrom requested
  have began : Stuck.first.subject.status.deletionStartedAt.getD Stuck.first.now.stamp =
      "1970-01-01T00:00:00+00:00" := by decide
  rw [began, List.forall_mem_cons, List.forall_mem_singleton] at persists
  obtain ⟨first, second⟩ := persists
  refine ⟨first, second, second.overdue ⟨0, 0⟩ ?_ ?_ rfl⟩
  · decide
  · decide

end ServiceOperator
