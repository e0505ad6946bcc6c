import ServiceOperator.Proofs.Pass.Runs

/-!
# Why a pass fails

A pass that reports a failure has met one of its limits, or has failed with an error
(`Pass.FailsOn`): one that its last call was answered with, or one that it raises itself about the
resource that its last call found.  `Outcome.Blames` says so of an outcome, and every pass has it
(`CompletedPass.blames`), whether its record lives or is being deleted.

So a reason that a pass does not give of its own accord (`Reason.IsOwn`) can be followed back to a
call that was answered with it (`CompletedPass.answered_of_errorReason`).

### Why the last call

A pass stops at the first error that it does not know how to take, so an error that it fails with is
the answer to the last call.  `Pass.FailsOn` fixes that, and it is what makes a cause unique: a
reason in an outcome is compared with one entry of the exchange and not with all of them.  An
absence that the engine takes for an answer is not among the causes, even where it ends the pass.
-/

namespace ServiceOperator

open Calls (Entry)

variable {R : Type}

/-- A pass or an operation took too long, or failed in transport too often. -/
inductive Reason.IsLimit : Reason → Prop
  | timeout : IsLimit .timeout
  | exhausted : IsLimit .transportExhausted
  | deletion : IsLimit .deletionTimeout

/-- A reason that a pass may give although no call was answered with it. -/
inductive Reason.IsOwn : Reason → Prop
  | limit {reason : Reason} (limit : reason.IsLimit) : IsOwn reason
  | adoptionRefused : IsOwn .adoptionRefused
  | retryLater : IsOwn .retryLater

/-- What an outcome behind some calls names as the reason of the failure, if there was one. -/
inductive Outcome.Blames (t : List (Entry R)) (o : Outcome) : Prop
  | nothing (silent : o.errorReason = none)
  | limit {reason : Reason} (limit : reason.IsLimit) (failure : o.errorReason = some reason)
  | error {e : OperatorError} (fails : Pass.FailsOn t e) (failure : o.errorReason = some e.reason)

/-- Calls that were made before do not change what an outcome blames. -/
theorem Outcome.Blames.behind {t : List (Entry R)} {o : Outcome} (earlier : List (Entry R))
    (blames : o.Blames t) : o.Blames (earlier ++ t) := by
  cases blames with
  | nothing silent => exact .nothing silent
  | limit limit failure => exact .limit limit failure
  | error fails failure => exact .error (fails.behind earlier) failure

/-- What is not a pass's own reason comes from the last call. -/
theorem Outcome.Blames.answered {t : List (Entry R)} {o : Outcome} {reason : Reason}
    (blames : o.Blames t) (failure : o.errorReason = some reason) (foreign : ¬ reason.IsOwn) :
    ∃ (call : Call R) (e : OperatorError),
      t.getLast? = some ⟨call, .error e⟩ ∧ e.reason = reason := by
  cases blames with
  | nothing silent => cases silent.symm.trans failure
  | limit limit named =>
      cases named.symm.trans failure
      exact absurd (.limit limit) foreign
  | @error e fails named =>
      obtain rfl : e.reason = reason := Option.some.inj (named.symm.trans failure)
      cases fails with
      | answered last => exact ⟨_, e, last, rfl⟩
      | found last own =>
          rcases own with own | own
          · exact absurd (own ▸ .adoptionRefused) foreign
          · exact absurd (own ▸ .retryLater) foreign

namespace Pass

variable {p : Pass R} {look : Look} {fingerprint : Option String} {t : List (Entry R)}
  {o : Outcome} {e : OperatorError} {message : String}

/-! ## The exits -/

theorem notReady_blames (silent : p.errorReason = none) : (p.notReady message).Blames t := by
  unfold notReady
  split
  · exact .limit .timeout rfl
  · exact .nothing silent

/-- A failure that may pass blames its error, or the time. -/
theorem failRetryable_blames (fails : FailsOn t e) : (p.failRetryable e).Blames t := by
  unfold failRetryable
  split
  · exact .limit .timeout rfl
  · dsimp only
    split <;> exact .error fails rfl

/-- A failure in transport blames its error, or that there were too many. -/
theorem failTransient_blames (fails : FailsOn t e) : (p.failTransient e).Blames t := by
  unfold failTransient
  dsimp only
  split
  · exact .limit .exhausted rfl
  · exact .error fails rfl

/-- A pass that fails blames its error, or the limit that it has met with it. -/
theorem fail_blames (fails : FailsOn t e) : (p.fail e).Blames t := by
  unfold fail
  split
  · exact .error fails rfl
  · exact failRetryable_blames fails
  · exact failRetryable_blames fails
  · exact failTransient_blames fails

/-- A deletion that fails blames its error, or the time. -/
theorem deleteFailed_blames (fails : FailsOn t e) : (p.deleteFailed e).Blames t := by
  unfold deleteFailed
  split
  · exact .limit .deletion rfl
  · dsimp only
    split <;> exact .error fails rfl

/-! ## The courses -/

/-- A look blames a limit or an error, if it fails. -/
theorem look_blames (course : LookCourse p look t o) (silent : p.errorReason = none) :
    o.Blames t := by
  cases course with
  | gone => exact .nothing silent
  | unseen => exact notReady_blames silent
  | unread => exact fail_blames (.answered rfl)
  | corrected => exact notReady_blames silent
  | goneUncorrected => exact .nothing silent
  | uncorrected => exact fail_blames (.answered rfl)
  | waiting => exact notReady_blames silent
  | unconnected => exact fail_blames (.answered rfl)
  | converged => exact .nothing silent

/-- So does a step of a living record. -/
theorem step_blames (course : StepCourse p fingerprint t o) (silent : p.errorReason = none) :
    o.Blames t := by
  cases course with
  | looked step look => exact look_blames look silent
  | unready => exact fail_blames (.answered rfl)
  | uncreated step obtains => exact fail_blames (obtains.failsOn.behind [_])
  | created step obtains look =>
      obtain ⟨mutation, rfl⟩ := obtain_subject obtains
      exact (look_blames look silent).behind (.checked (.ok ()) :: _)
  | goneUnchanged => exact .nothing silent
  | unchanged => exact fail_blames (.answered rfl)
  | changed step look => exact (look_blames look silent).behind [_, _]
  | undeleted => exact fail_blames (.answered rfl)
  | unconfirmed => exact fail_blames (.answered rfl)
  | lingering => exact fail_blames (.found rfl (.inr rfl))
  | unreplaced step accepted absent obtains =>
      exact fail_blames (obtains.failsOn.behind [_, _, _])
  | replaced step accepted absent obtains look =>
      obtain ⟨mutation, rfl⟩ := obtain_subject obtains
      exact (look_blames look silent).behind (_ :: _ :: _ :: _)

theorem DeleteCourse.blames (course : DeleteCourse p t o) (silent : p.errorReason = none) :
    o.Blames t := by
  cases course with
  | undeleted => exact deleteFailed_blames (.answered rfl)
  | unconfirmed => exact deleteFailed_blames (.answered rfl)
  | confirmed => exact .nothing silent
  | overdue => exact .limit .deletion rfl
  | lingering => exact .nothing silent

end Pass

/-- **A pass that fails has met a limit, or an error.** -/
theorem CompletedPass.blames (pass : CompletedPass R) : pass.outcome.Blames pass.asked := by
  obtain ⟨profile, subject, settings, now, asked, o, yields⟩ := pass
  cases reconcileOnce_course yields with
  | deleting requested course => exact course.blames rfl
  | blocked => exact .nothing rfl
  | unresourced alive free begun =>
      subst begun
      dsimp only
      split <;> exact Pass.fail_blames (.answered rfl)
  | lived alive free course => exact (Pass.step_blames course rfl).behind [_]

/-- A pass that fails for a reason which is not its own has failed with its last call. -/
theorem CompletedPass.answered_of_errorReason (pass : CompletedPass R) {reason : Reason}
    (failure : pass.outcome.errorReason = some reason) (foreign : ¬ reason.IsOwn) :
    ∃ (call : Call R) (e : OperatorError),
      pass.asked.getLast? = some ⟨call, .error e⟩ ∧ e.reason = reason :=
  pass.blames.answered failure foreign

end ServiceOperator
