import ServiceOperator.Proofs.Pass.Runs

/-!
# What a status reports of the last attempt

The failure condition is there to say whether the last attempt failed, why, and in which words.  An
exit that fails a pass sets it, and has words for it (`OperatorError.message_ne_empty`).  Most exits
of a pass that did not fail take it back.  Two do not touch it: the one for a resource that is gone,
and the one of a deletion that waits.  What they leave standing is the report of an older attempt.

`Outcome.Reports` lists these three ways, `CompletedPass.reports` says which of them a pass takes,
and `CompletedPass.failing_iff` what can be read off the condition afterwards.

Which passes do not report is said exactly (`CompletedPass.IsTacit`).  A record that goes through
one of them with a report from before shows that the condition cannot be read as one of the last
attempt (`Lapsed`).
-/

namespace ServiceOperator

open Calls (Entry)

theorem OperatorError.message_ne_empty (e : OperatorError) : e.message ≠ "" := by
  unfold OperatorError.message
  split <;> simp

/-- What an outcome reports of the attempt that it ends. -/
inductive Outcome.Reports (o : Outcome) : Prop
  | failure {reason : Reason} {message : String} (failed : o.errorReason = some reason)
      (words : message ≠ "")
      (shown : Condition.Stands o.status.conditions Condition.error "True" reason.text message)
  | success (silent : o.errorReason = none)
      (shown : Condition.Stands o.status.conditions Condition.error "False" Reason.reconciled.text
        "")

/-- An outcome says nothing of the attempt that it ends: the failure condition is the one from
before. -/
structure Outcome.Conceals (before : List Condition) (o : Outcome) : Prop where
  silent : o.errorReason = none
  same : Condition.find? o.status.conditions Condition.error =
    Condition.find? before Condition.error

namespace Pass

variable {R : Type} {p q : Pass R} {t : List (Entry R)} {o : Outcome} {e : OperatorError}
  {message : String}

/-! ## The exits -/

theorem terminal_reports {reason : Reason} (words : message ≠ "") :
    (p.terminal reason message).Reports :=
  .failure rfl words Condition.stands_set

/-- What is waited for takes the report of a failure back, or is given up with one of its own. -/
theorem notReady_reports (silent : p.errorReason = none) : (p.notReady message).Reports := by
  unfold notReady
  split
  · exact terminal_reports (by simp)
  · exact .success silent Condition.stands_set

/-- A failure that may pass is reported in its own words, or in those for the time. -/
theorem failRetryable_reports : (p.failRetryable e).Reports := by
  unfold failRetryable
  split
  · exact terminal_reports (by simp)
  · dsimp only
    split
    · exact .failure rfl e.message_ne_empty Condition.stands_set
    · exact .failure rfl e.message_ne_empty
        (Condition.Stands.set_of_ne ResourceStatus.running_ne_error.symm Condition.stands_set)

/-- A failure in transport is reported in its own words, or in those for one too many. -/
theorem failTransient_reports : (p.failTransient e).Reports := by
  unfold failTransient
  dsimp only
  split
  · exact terminal_reports (by simp)
  · exact .failure rfl e.message_ne_empty Condition.stands_set

/-- Every failure of a living record is reported. -/
theorem fail_reports : (p.fail e).Reports := by
  unfold fail
  split
  · exact terminal_reports e.message_ne_empty
  · exact failRetryable_reports
  · exact failRetryable_reports
  · exact failTransient_reports

/-- Every exit but the one for a resource that is gone reports how the attempt went. -/
theorem Exits.reports (silent : q.errorReason = none) (exits : q.Exits o) : o.Reports := by
  cases exits with
  | notReady => exact notReady_reports silent
  | failed => exact fail_reports
  | converged => exact .success silent Condition.stands_set

theorem deletionTimeout_reports : (p.deletionTimeout message).Reports :=
  .failure rfl (by simp) Condition.stands_set

theorem deleteFailed_reports : (p.deleteFailed e).Reports := by
  unfold deleteFailed
  split
  · exact deletionTimeout_reports
  · dsimp only
    split <;> exact .failure rfl e.message_ne_empty Condition.stands_set

theorem deleteFailed_fails : (p.deleteFailed e).errorReason ≠ none := by
  unfold deleteFailed
  split
  · exact Option.some_ne_none _
  · dsimp only
    split <;> exact Option.some_ne_none _

/-- The other condition has no part in the report. -/
theorem find?_error_setRunning {holds : Bool} {reason : Reason} :
    Condition.find? (q.setRunning holds reason message).status.conditions Condition.error =
      Condition.find? q.status.conditions Condition.error :=
  Condition.find?_set_of_ne ResourceStatus.running_ne_error.symm

/-- The exit for a resource that is gone keeps the failure condition of its pass. -/
theorem externallyDeleted_conceals (silent : q.errorReason = none)
    (same : q.status.conditions = p.status.conditions) :
    q.externallyDeleted.Conceals p.status.conditions where
  silent := silent
  same := find?_error_setRunning.trans (congrArg (Condition.find? · Condition.error) same)

/-! ## The courses -/

/-- A step of a living record conceals its attempt if it finds the resource gone, and else reports
it. -/
theorem LeavesBy.reports (silent : p.errorReason = none) (leaves : p.LeavesBy t o) :
    FoundGone p.step t ∧ o.Conceals p.status.conditions ∨ ¬ FoundGone p.step t ∧ o.Reports := by
  cases leaves with
  | gone becomes found =>
      have silent := becomes.errorReason.trans silent
      exact .inl ⟨found, externallyDeleted_conceals silent becomes.conditions⟩
  | other becomes present exits =>
      exact .inr ⟨present, exits.reports (becomes.errorReason.trans silent)⟩

/-- A deletion is confirmed, or reports why it is not, or waits and conceals its attempt. -/
theorem delete_reports (silent : p.errorReason = none) (course : DeleteCourse p t o) :
    o.removeFinalizer = true ∨ o.Reports ∧ o.errorReason ≠ none ∨
      o.Conceals p.status.conditions := by
  cases course with
  | undeleted => exact .inr (.inl ⟨deleteFailed_reports, deleteFailed_fails⟩)
  | unconfirmed => exact .inr (.inl ⟨deleteFailed_reports, deleteFailed_fails⟩)
  | confirmed => exact .inl rfl
  | overdue => exact .inr (.inl ⟨deletionTimeout_reports, Option.some_ne_none _⟩)
  | lingering =>
      refine .inr (.inr ⟨silent, ?_⟩)
      -- The running condition is set as the deletion begins, and again with the state seen.
      exact find?_error_setRunning.trans find?_error_setRunning

end Pass

/-! ## Whole passes -/

variable {R : Type}

/-- A pass that did not fail says nothing of it: its record is being deleted, or the resource was
found gone. -/
def CompletedPass.IsTacit (pass : CompletedPass R) : Prop :=
  pass.outcome.errorReason = none ∧
    (pass.subject.deletionRequested = true ∨ FoundGone pass.outcome.step pass.asked)

/-- A pass that is neither blocked nor the last one conceals its attempt or reports it. -/
theorem CompletedPass.reports (pass : CompletedPass R) (free : pass.outcome.step ≠ .blocked)
    (held : pass.outcome.removeFinalizer = false) :
    pass.IsTacit ∧ pass.outcome.Conceals pass.subject.status.conditions ∨
      ¬ pass.IsTacit ∧ pass.outcome.Reports := by
  have course := reconcileOnce_course pass.yields
  cases alive : pass.subject.deletionRequested with
  | true =>
      rcases Pass.delete_reports rfl (course.deletion alive) with
        released | ⟨reports, failed⟩ | conceals
      · exact absurd released (Bool.eq_false_iff.mp held)
      · exact .inr ⟨fun tacit => failed tacit.1, reports⟩
      · exact .inl ⟨⟨conceals.silent, .inl alive⟩, conceals⟩
  | false =>
      rcases course.leaves alive with ⟨-, -, blocked⟩ | ⟨-, leaves⟩
      · exact absurd (congrArg Outcome.step blocked) free
      · rcases leaves.reports rfl with ⟨found, conceals⟩ | ⟨present, reports⟩
        · exact .inl ⟨⟨conceals.silent, .inr found⟩, conceals⟩
        · refine .inr ⟨?_, reports⟩
          rintro ⟨-, requested | found⟩
          · exact Bool.false_ne_true (alive.symm.trans requested)
          · exact present found

/-- **What the failure condition shows after a pass.**  A pass that failed shows its reason, and
words for it.  After a pass that did not fail the condition is true exactly if it was before and the
pass does not touch it, as its record is being deleted or the resource was found gone; it is then
the condition from before, with the reason and the words of the older failure. -/
theorem CompletedPass.failing_iff (pass : CompletedPass R) (free : pass.outcome.step ≠ .blocked)
    (held : pass.outcome.removeFinalizer = false) :
    (∀ reason, pass.outcome.errorReason = some reason → ∃ message, message ≠ "" ∧
      Condition.Stands pass.outcome.status.conditions Condition.error "True" reason.text message) ∧
    (pass.outcome.errorReason = none →
      (pass.outcome.status.isFailing = true ↔ pass.subject.status.isFailing = true ∧
        (pass.subject.deletionRequested = true ∨ FoundGone pass.outcome.step pass.asked))) ∧
    (pass.IsTacit → Condition.find? pass.outcome.status.conditions Condition.error =
      Condition.find? pass.subject.status.conditions Condition.error) := by
  rcases pass.reports free held with ⟨tacit, silent, same⟩ | ⟨told, reports⟩
  · have asBefore : pass.outcome.status.isFailing = pass.subject.status.isFailing := by
      rw [ResourceStatus.isFailing, Condition.isTrue, same]
      rfl
    refine ⟨?_, fun _ => ?_, fun _ => same⟩
    · intro reason failed
      exact absurd (silent.symm.trans failed) (Option.some_ne_none reason).symm
    · rw [asBefore]
      exact ⟨fun failing => ⟨failing, tacit.2⟩, And.left⟩
  · refine ⟨?_, ?_, fun tacit => absurd tacit told⟩
    · intro reason failed
      cases reports with
      | failure failed' words shown =>
          obtain rfl := Option.some.inj (failed.symm.trans failed')
          exact ⟨_, words, shown⟩
      | success silent => exact absurd (silent.symm.trans failed) (Option.some_ne_none reason).symm
    · intro silent
      have cleared : ¬ pass.outcome.status.isFailing = true := by
        cases reports with
        | failure failed => exact absurd (silent.symm.trans failed) (Option.some_ne_none _).symm
        | success _ shown =>
            obtain ⟨time, found⟩ := shown
            simp [ResourceStatus.isFailing, Condition.isTrue, found]
      refine iff_of_false cleared ?_
      rintro ⟨-, untouched⟩
      exact told ⟨silent, untouched⟩

/-! ## A resource that cannot be seen and then is gone -/

namespace Lapsed

/-- What can be read off a resource has no part in this. -/
def profile : Profile Unit where
  identity := .name
  requiresReplace := false
  isReady _ := true
  observedState _ := "RUNNING"
  remoteId _ := "orders"
  matchesExisting _ := true
  needsUpdate _ := false

/-- Surroundings in which nothing fails but the look at the resource. -/
def answer (seen : OperatorError) : (c : Call Unit) → c.Answer
  | .sourceFingerprint => .ok none
  | .checkPreconditions => .ok ()
  | .create => .ok "orders"
  | .update _ => .ok ()
  | .get _ => .error seen
  | .delete _ => .ok ()
  | .connectionInfo _ => .ok .empty

/-- A pass from a status in such surroundings. -/
def pass (status : ResourceStatus) (seen : OperatorError) (second : Int) : CompletedPass Unit :=
  .against (answer seen) profile ⟨"PostgreSQL", "orders", 1, false, status⟩ .standard ⟨second, 0⟩

/-- The resource is created and cannot be looked at. -/
def first : CompletedPass Unit := pass .initial (.transport "connection reset") 0

/-- A minute later it is gone. -/
def second : CompletedPass Unit := pass first.outcome.status (.notFound "service orders") 60

end Lapsed

/-- A pass that found the resource gone, and did not fail, still shows the failure of the pass
before it. -/
theorem failing_iff_lapsed :
    Lapsed.second.outcome.errorReason = none ∧
      Lapsed.second.outcome.status.isFailing = true := by
  have silent : Lapsed.second.outcome.errorReason = none := rfl
  have failed : Lapsed.second.subject.status.isFailing = true := by decide +kernel
  have gone : FoundGone Lapsed.second.outcome.step Lapsed.second.asked :=
    .looking (.inl rfl) rfl rfl
  obtain ⟨-, failing, -⟩ := Lapsed.second.failing_iff (by decide) rfl
  exact ⟨silent, (failing silent).mpr ⟨failed, .inr gone⟩⟩

/-- The failure condition is not always the report of the last attempt. -/
theorem not_failing_iff_failed :
    ¬ ∀ pass : CompletedPass Unit, pass.outcome.step ≠ .blocked →
      pass.outcome.removeFinalizer = false →
      (pass.outcome.status.isFailing = true ↔ pass.outcome.errorReason.isSome = true) := by
  intro reports
  have failing : Lapsed.second.outcome.status.isFailing = true := by decide +kernel
  have failed := (reports Lapsed.second (by decide) rfl).mp failing
  cases failed

end ServiceOperator
