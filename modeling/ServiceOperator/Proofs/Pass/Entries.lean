import ServiceOperator.Proofs.Pass.Runs
import ServiceOperator.Proofs.Status.Patches

/-!
# The entries that a pass leaves behind

A pass makes its status out of the one that it finds.  What it writes is made from little: a
generation that it notes is that of its record, a count is cleared or one higher up to the greatest
number that fits, and a condition is set in place or added.  `ResourceStatus.LeadsTo` says so, and
every pass has it (`CompletedPass.leadsTo`).

So what a pass leaves behind can be stored like what it has found: its numbers fit their words
(`ResourceStatus.LeadsTo.fits`), and each aspect is reported once if it was before.

### What it is for

A status is stored as a document whose numbers have fixed sizes, and a pass that read it would fail
if one of them did not fit.  The generation comes from the record, which Kubernetes keeps in a word,
and the count is stopped by the operator itself; `LeadsTo` says that there is no other source of
numbers.  It forgets everything else about the pass on purpose, so that it is reflexive and
transitive and can be carried over any number of passes.
-/

namespace ServiceOperator

namespace ResourceStatus

variable {generation : Int} {s s' s'' : ResourceStatus} {holds : Bool} {reason : Reason}
  {message stamp : String}

/-- A status leads to another one over a record with a generation. -/
structure LeadsTo (generation : Int) (s s' : ResourceStatus) : Prop where
  observed : ∀ g, s'.observedGeneration = some g → s.observedGeneration = some g ∨ g = generation
  failed : ∀ g, s'.failedGeneration = some g → s.failedGeneration = some g ∨ g = generation
  attempts : s'.failedAttempts = s.failedAttempts ∨ s'.failedAttempts < Word.bound 32
  once : (s.conditions.map Condition.type).Nodup → (s'.conditions.map Condition.type).Nodup

theorem leadsTo_refl (generation : Int) (s : ResourceStatus) : s.LeadsTo generation s :=
  ⟨fun _ => .inl, fun _ => .inl, .inl rfl, fun once => once⟩

/-- What leads to a status in two stages leads to it in one. -/
theorem LeadsTo.trans (first : LeadsTo generation s s') (second : LeadsTo generation s' s'') :
    LeadsTo generation s s'' where
  observed g set := (second.observed g set).elim (first.observed g) .inr
  failed g set := (second.failed g set).elim (first.failed g) .inr
  attempts := second.attempts.elim (fun same => same ▸ first.attempts) .inr
  once once := second.once (first.once once)

theorem leadsTo_setRunning : LeadsTo generation s (s.setRunning holds reason message stamp) :=
  ⟨fun _ => .inl, fun _ => .inl, .inl rfl, Condition.nodup_types_set⟩

theorem leadsTo_setError : LeadsTo generation s (s.setError holds reason message stamp) :=
  ⟨fun _ => .inl, fun _ => .inl, .inl rfl, Condition.nodup_types_set⟩

/-- **A status whose numbers fit leads to one whose numbers fit**, if the generation does. -/
theorem LeadsTo.fits (leads : LeadsTo generation s s') (fits : s.Fits)
    (within : -Word.bound 63 ≤ generation ∧ generation ≤ Word.bound 63 - 1) : s'.Fits where
  observed g set := (leads.observed g set).elim (fits.observed g) fun same => same ▸ within
  failed g set := (leads.failed g set).elim (fits.failed g) fun same => same ▸ within
  attempts := leads.attempts.elim (fun same => same ▸ fits.attempts) fun small => small

end ResourceStatus

namespace Pass

open ResourceStatus (LeadsTo leadsTo_refl leadsTo_setRunning leadsTo_setError)

variable {R : Type} {p q : Pass R} {t : List (Calls.Entry R)} {o : Outcome} {e : OperatorError}
  {generation : Int} {message : String}

/-- A count that starts anew fits. -/
theorem no_failures_fit : 0 < Word.bound 32 := by decide

/-! ## A living record -/

/-- A pass leads to what it has become. -/
theorem Becomes.leadsTo (becomes : p.Becomes q) :
    LeadsTo p.subject.generation p.status q.status := by
  have once : (p.status.conditions.map Condition.type).Nodup →
      (q.status.conditions.map Condition.type).Nodup := by
    rw [becomes.conditions]
    exact id
  cases becomes.applied with
  | kept id observed failed attempts =>
      refine ⟨?_, ?_, .inl attempts, once⟩
      · rw [observed]
        exact fun _ => .inl
      · rw [failed]
        exact fun _ => .inl
  | accepted known observed free patient =>
      refine ⟨?_, ?_, ?_, once⟩
      · rw [observed]
        exact fun _ set => .inr (Option.some.inj set).symm
      · rw [free]
        exact fun _ => nofun
      · rw [patient]
        exact .inr no_failures_fit

/-- A record that is given up notes its own generation as failed, and starts its count anew. -/
theorem terminal_leadsTo {reason : Reason} :
    LeadsTo p.subject.generation p.status (p.terminal reason message).status := by
  have cleared : LeadsTo p.subject.generation p.status { p.status with
      failedGeneration := some p.subject.generation
      operationStartedAt := none
      failedAttempts := 0 } :=
    ⟨fun _ => .inl, fun _ set => .inr (Option.some.inj set).symm, .inr no_failures_fit, id⟩
  exact (cleared.trans leadsTo_setRunning).trans leadsTo_setError

/-- A resource that is waited for has its conditions set, and nothing is noted unless the record
is given up. -/
theorem notReady_leadsTo :
    LeadsTo p.subject.generation p.status (p.notReady message).status := by
  unfold notReady
  split
  · exact terminal_leadsTo
  · exact leadsTo_setRunning.trans leadsTo_setError

/-- A resource that is gone takes entries away and adds none. -/
theorem externallyDeleted_leadsTo :
    LeadsTo p.subject.generation p.status p.externallyDeleted.status := by
  have cleared : LeadsTo p.subject.generation p.status { p.status with
      id := none
      observedGeneration := none
      state := none
      operationStartedAt := none } :=
    ⟨fun _ => nofun, fun _ => .inl, .inl rfl, id⟩
  exact cleared.trans leadsTo_setRunning

/-- A failure that may pass sets conditions, and notes nothing unless the record is given up. -/
theorem failRetryable_leadsTo :
    LeadsTo p.subject.generation p.status (p.failRetryable e).status := by
  unfold failRetryable
  split
  · exact terminal_leadsTo
  · dsimp only
    split
    · exact leadsTo_setError
    · exact leadsTo_setError.trans leadsTo_setRunning

/-- The count of the failures stops at the greatest number that fits. -/
theorem countFailure_leadsTo : LeadsTo generation p.status p.countFailure.status := by
  have capped : p.countFailure.status.failedAttempts ≤ Word.bound 32 - 1 := Nat.min_le_right ..
  exact ⟨fun _ => .inl, fun _ => .inl, .inr (Nat.lt_of_le_pred no_failures_fit capped), id⟩

/-- A failure in transport counts one higher, or gives the record up. -/
theorem failTransient_leadsTo :
    LeadsTo p.subject.generation p.status (p.failTransient e).status := by
  have givenUp {reason : Reason} {message : String} :
      LeadsTo p.subject.generation p.countFailure.status
        (p.countFailure.terminal reason message).status :=
    terminal_leadsTo (p := p.countFailure)
  unfold failTransient
  dsimp only
  split
  · exact countFailure_leadsTo.trans givenUp
  · exact countFailure_leadsTo.trans leadsTo_setError

/-- A resource that has converged clears the failed generation and the count. -/
theorem converged_leadsTo {info : ConnectionInfo} {state : String} :
    LeadsTo p.subject.generation p.status (p.converged info state).status := by
  have settled : LeadsTo p.subject.generation p.status { p.status with
      operationStartedAt := none
      failedAttempts := 0
      failedGeneration := none } :=
    ⟨fun _ => .inl, fun _ => nofun, .inr no_failures_fit, id⟩
  exact (settled.trans leadsTo_setRunning).trans leadsTo_setError

/-- Every conclusion leads from the status of its pass to the one that it leaves. -/
theorem Concludes.leadsTo (concludes : q.Concludes t o) :
    LeadsTo q.subject.generation q.status o.status := by
  cases concludes with
  | givenUp => exact terminal_leadsTo
  | waiting => exact notReady_leadsTo
  | gone => exact externallyDeleted_leadsTo
  | retried => exact failRetryable_leadsTo
  | delayed => exact failTransient_leadsTo
  | converged => exact converged_leadsTo

/-! ## A deletion -/

theorem beginDeletion_leadsTo : LeadsTo generation p.status p.beginDeletion.status := by
  have begun : LeadsTo generation p.status { p.status with
      deletionStartedAt := some (p.status.deletionStartedAt.getD p.stamp) } :=
    ⟨fun _ => .inl, fun _ => .inl, .inl rfl, id⟩
  exact begun.trans leadsTo_setRunning

/-- A deletion that fails counts at most one higher. -/
theorem deleteFailed_leadsTo : LeadsTo generation p.status (p.deleteFailed e).status := by
  have reported {message : String} {reason : Reason} :
      LeadsTo generation p.status (p.setError true reason message).status := leadsTo_setError
  unfold deleteFailed
  split
  · exact reported
  · dsimp only
    split
    · exact reported.trans countFailure_leadsTo
    · exact reported
    · exact reported
    · exact reported

/-- So does a deletion, whichever way it goes. -/
theorem DeleteCourse.leadsTo (course : DeleteCourse p t o) :
    LeadsTo generation p.status o.status := by
  have saw {state : String} :
      LeadsTo generation p.status (p.beginDeletion.sawState state).status :=
    beginDeletion_leadsTo.trans ⟨fun _ => .inl, fun _ => .inl, .inl rfl, id⟩
  cases course with
  | undeleted => exact beginDeletion_leadsTo.trans deleteFailed_leadsTo
  | unconfirmed => exact beginDeletion_leadsTo.trans deleteFailed_leadsTo
  | confirmed => exact beginDeletion_leadsTo
  | overdue => exact saw.trans leadsTo_setError
  | lingering => exact saw.trans leadsTo_setRunning

end Pass

/-- **The step law.**  Whatever its record and its surroundings, the status that a pass has found
leads to the one that it leaves. -/
theorem CompletedPass.leadsTo {R : Type} (pass : CompletedPass R) :
    pass.subject.status.LeadsTo pass.subject.generation pass.outcome.status := by
  have course := reconcileOnce_course pass.yields
  cases alive : pass.subject.deletionRequested with
  | true => exact (course.deletion alive).leadsTo
  | false =>
      rcases course.concludes alive with ⟨-, -, rests⟩ | ⟨-, step, q, becomes, concludes⟩
      · rw [rests]
        exact ResourceStatus.leadsTo_refl ..
      · have concludes := concludes.leadsTo
        rw [becomes.subject] at concludes
        exact becomes.leadsTo.trans concludes

end ServiceOperator
