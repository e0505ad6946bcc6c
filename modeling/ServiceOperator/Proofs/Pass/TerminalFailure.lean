import ServiceOperator.Proofs.Pass.Conclusions
import ServiceOperator.Proofs.Pass.Convergence

/-!
# Records that are given up

A pass gives a record up when it fails and asks to come back only once the record has changed.
Refused requests lead there, and so do operations that take too long and transport failures that are
one too many, but every one of them leaves through `Pass.terminal`.  What that exit writes down is
what `plan` blocks on, and a blocked pass writes nothing: so a record that was given up stays given
up for as long as its generation stands (`gaveUp_absorbing`), whatever its conditions said before.

A missing dependency is the exception.  It may appear without a change of the record, and a record
that was given up for the want of one is tried again.

The argument has three laws of one step, in the order in which a record meets them: the pass that
gives it up writes the entries that block (`notesFailure`), a pass over entries that block leaves
them (`rests_of_blocks`), and a pass over another generation is not blocked by them
(`step_ne_blocked`).  The run between the first and the last is an induction over passes that all
rest (`RunsFrom.rests`).
-/

namespace ServiceOperator

variable {R : Type}

/-- A pass failed for a reason, and waits for a change. -/
structure Outcome.GaveUp (o : Outcome) (reason : Reason) : Prop where
  failure : o.errorReason = some reason
  waits : o.requeue = .awaitChange

/-- A pass found its record blocked: it asked nothing of anyone, and left the status as it was. -/
structure CompletedPass.Rests (pass : CompletedPass R) : Prop where
  step : pass.outcome.step = .blocked
  nothing : pass.asked = []
  same : pass.outcome.status = pass.subject.status
  waits : pass.outcome.requeue = .awaitChange

/-- A generation is noted as given up, for a reason. -/
structure ResourceStatus.NotesFailure (s : ResourceStatus) (generation : Int) (reason : Reason) :
    Prop where
  failed : s.failedGeneration = some generation
  reported : s.errorReason? = some reason.text

/-- A generation that was given up blocks, unless it was for the want of a dependency. -/
theorem ResourceStatus.NotesFailure.blocks {s : ResourceStatus} {generation : Int} {reason : Reason}
    (notes : s.NotesFailure generation reason) (other : reason ≠ .dependencyMissing) :
    s.Blocks generation :=
  ⟨notes.failed, Pass.reported_other notes.reported other⟩

namespace Pass

variable {p q : Pass R} {t : List (Calls.Entry R)} {o : Outcome} {reason : Reason}

/-- Among the conclusions of a living record, one gives it up. -/
theorem Concludes.notesFailure (concludes : q.Concludes t o) (silent : q.errorReason = none)
    (gaveUp : o.GaveUp reason) : o.status.NotesFailure q.subject.generation reason := by
  obtain ⟨failure, waits⟩ := gaveUp
  cases concludes with
  | givenUp =>
      cases failure
      exact ⟨rfl, ResourceStatus.errorReason?_setError⟩
  | waiting inTime =>
      rw [notReady, if_neg (Bool.eq_false_iff.mp inTime)] at failure
      cases silent.symm.trans failure
  | gone => cases silent.symm.trans failure
  | retried fails passing inTime =>
      obtain ⟨delay, timed⟩ := (failRetryable_inPassing inTime).timed
      cases timed.symm.trans waits
  | delayed fails passing patient =>
      obtain ⟨delay, timed⟩ := (failTransient_inPassing patient).timed
      cases timed.symm.trans waits
  | converged => cases silent.symm.trans failure

/-- A deletion that failed comes back after a delay, whatever it failed with. -/
theorem deleteFailed_timed {e : OperatorError} :
    ∃ delay, (p.deleteFailed e).requeue = .after delay := by
  unfold deleteFailed
  split
  · exact ⟨_, rfl⟩
  · dsimp only
    split <;> exact ⟨_, rfl⟩

/-- A deletion is never given up. -/
theorem DeleteCourse.not_gaveUp (course : DeleteCourse p t o) (silent : p.errorReason = none) :
    ¬ o.GaveUp reason := by
  rintro ⟨failure, waits⟩
  have failed {e : OperatorError} :
      (p.beginDeletion.deleteFailed e).requeue ≠ .awaitChange := by
    intro waits
    obtain ⟨delay, timed⟩ := deleteFailed_timed (p := p.beginDeletion) (e := e)
    cases timed.symm.trans waits
  cases course with
  | undeleted => exact failed waits
  | unconfirmed => exact failed waits
  | confirmed => cases silent.symm.trans failure
  | overdue => cases waits
  | lingering => cases waits

end Pass

namespace CompletedPass

variable {pass : CompletedPass R} {reason : Reason}

/-- **The step into the failure.**  A pass that gives its record up notes its generation and the
reason, from whatever status it started. -/
theorem notesFailure (gaveUp : pass.outcome.GaveUp reason) :
    pass.outcome.status.NotesFailure pass.subject.generation reason := by
  have course := reconcileOnce_course pass.yields
  cases alive : pass.subject.deletionRequested with
  | true => exact absurd gaveUp ((course.deletion alive).not_gaveUp rfl)
  | false =>
      rcases course.concludes alive with ⟨-, -, rests⟩ | ⟨-, step, q, becomes, concludes⟩
      · have failure := gaveUp.failure
        rw [rests] at failure
        cases failure
      · have notes := concludes.notesFailure becomes.errorReason gaveUp
        rw [becomes.subject] at notes
        exact notes

/-- **The step within the failure.**  A pass over a living record that is blocked rests. -/
theorem rests_of_blocks (alive : pass.subject.deletionRequested = false)
    (blocks : pass.subject.status.Blocks pass.subject.generation) : pass.Rests := by
  rcases (reconcileOnce_course pass.yields).concludes alive with ⟨-, nothing, rests⟩ | ⟨free, -⟩
  · have same := congrArg Outcome.status rests
    have waits := congrArg Outcome.requeue rests
    have step := congrArg Outcome.step rests
    exact ⟨step, nothing, same, waits⟩
  · exact absurd blocks free

/-- **The step out of the failure.**  At another generation nothing blocks. -/
theorem step_ne_blocked {generation : Int}
    (failed : pass.subject.status.failedGeneration = some generation)
    (other : pass.subject.generation ≠ generation) : pass.outcome.step ≠ .blocked := by
  obtain ⟨fingerprint, planned⟩ := (reconcileOnce_course pass.yields).planned
  rw [planned]
  intro blocked
  obtain ⟨-, failedNow, -⟩ := Subject.plan_eq_blocked_iff.mp blocked
  exact other (Option.some.inj (failedNow.symm.trans failed))

end CompletedPass

/-! ## Runs -/

section Runs

variable {start finish : ResourceStatus} {run : List (CompletedPass R)} {pass : CompletedPass R}
  {generation : Int} {reason : Reason}

/-- Passes over a generation that blocks rest, one like the other. -/
theorem RunsFrom.rests (runs : RunsFrom start run finish) (blocks : start.Blocks generation)
    (alive : ∀ pass ∈ run, pass.subject.deletionRequested = false)
    (same : ∀ pass ∈ run, pass.subject.generation = generation) :
    (∀ pass ∈ run, pass.Rests) ∧ finish = start := by
  -- The induction follows the run.  A pass that rests hands on the status that made it rest.
  induction runs with
  | nil => simp
  | @cons pass run finish later ih =>
      rw [List.forall_mem_cons] at alive same
      rw [← same.1] at blocks
      have rests : pass.Rests := CompletedPass.rests_of_blocks alive.1 blocks
      rw [same.1, ← rests.same] at blocks
      obtain ⟨laterRest, last⟩ := ih blocks alive.2 same.2
      refine ⟨?_, last.trans rests.same⟩
      rw [List.forall_mem_cons]
      exact ⟨rests, laterRest⟩

/-- **A record that was given up stays given up until it changes.**  Let a pass, from whatever
status, give its record up for a reason other than a missing dependency.  Then each of the passes
over the same generation that follow it, however many and whatever they would be answered, asks
nothing of anyone, leaves the status as it was and waits for a change.  The first pass over another
generation behind them is free. -/
theorem gaveUp_absorbing (gaveUp : pass.outcome.GaveUp reason) (other : reason ≠ .dependencyMissing)
    (runs : RunsFrom pass.outcome.status run finish)
    (alive : ∀ later ∈ run, later.subject.deletionRequested = false)
    (same : ∀ later ∈ run, later.subject.generation = pass.subject.generation) :
    (∀ later ∈ run, later.Rests) ∧ finish = pass.outcome.status ∧
      ∀ next : CompletedPass R, next.subject.status = finish →
        next.subject.generation ≠ pass.subject.generation → next.outcome.step ≠ .blocked := by
  have notes := CompletedPass.notesFailure gaveUp
  obtain ⟨rests, last⟩ := runs.rests (notes.blocks other) alive same
  refine ⟨rests, last, ?_⟩
  intro next handedOn changed
  have failed : next.subject.status.failedGeneration = some pass.subject.generation := by
    rw [handedOn, last]
    exact notes.failed
  exact CompletedPass.step_ne_blocked failed changed

end Runs

/-! ## A resource of another -/

namespace Refused

/-- A resource of this profile never fits the record that meets it. -/
def profile : Profile Unit := { Steady.profile with matchesExisting _ := false }

/-- Surroundings in which a create meets a resource that is there already. -/
def answer : (c : Call Unit) → c.Answer
  | .create => .error (.alreadyExists "orders")
  | call => Steady.answer call

/-- A pass over a generation, from a status at a second. -/
def pass (generation : Int) (status : ResourceStatus) (second : Int) : CompletedPass Unit :=
  .against answer profile ⟨"PostgreSQL", "orders", generation, false, status⟩ .standard ⟨second, 0⟩

/-- The pass that meets the other resource. -/
def first : CompletedPass Unit := pass 1 .initial 0

/-- A pass a minute later. -/
def second : CompletedPass Unit := pass 1 first.outcome.status 60

/-- A pass a minute after that. -/
def third : CompletedPass Unit := pass 1 second.outcome.status 120

/-- A pass once the record has changed. -/
def changed : CompletedPass Unit := pass 2 third.outcome.status 180

end Refused

/-- A record that may not take over the resource that it met asks for nothing until it changes. -/
theorem gaveUp_absorbing_refused :
    Refused.first.outcome.errorReason = some .adoptionRefused ∧
      Refused.second.asked = [] ∧ Refused.third.asked = [] ∧
      Refused.third.outcome.status = Refused.first.outcome.status ∧
      Refused.changed.outcome.step ≠ .blocked := by
  let first := Refused.first
  let second := Refused.second
  let third := Refused.third
  have gaveUp : first.outcome.GaveUp .adoptionRefused := ⟨rfl, rfl⟩
  have last : RunsFrom third.subject.status [third] third.outcome.status := .cons (.nil _)
  have runs : RunsFrom first.outcome.status [second, third] third.outcome.status := .cons last
  have alive : ∀ later ∈ [second, third], later.subject.deletionRequested = false := by
    simp only [List.forall_mem_cons]
    exact ⟨rfl, rfl, by simp⟩
  have same : ∀ later ∈ [second, third], later.subject.generation = first.subject.generation := by
    simp only [List.forall_mem_cons]
    exact ⟨rfl, rfl, by simp⟩
  obtain ⟨rests, finish, free⟩ := gaveUp_absorbing gaveUp (by decide) runs alive same
  simp only [List.forall_mem_cons] at rests
  obtain ⟨secondRests, thirdRests, -⟩ := rests
  exact ⟨rfl, secondRests.nothing, thirdRests.nothing, finish,
    free Refused.changed rfl (by decide)⟩

end ServiceOperator
