import ServiceOperator.Proofs.Pass.Conclusions
import ServiceOperator.Proofs.Pass.Convergence

/-!
# What it means that a resource is running

Others connect to a resource, and depend on it, because the status of its record says that it runs.
`isRunning_iff` says what stands behind those words after a pass.

* The pass has read the resource, found it ready and read how to connect to it (`FoundReady`).  Only
  then does it return connection info, and only what it was answered (`infos_eq`).
* Or an earlier pass has said so, and this one has learned nothing to the contrary: it was blocked,
  or it failed with an error after which it comes back by itself (`FailedInPassing`).

Every other way for a pass to end takes the words back.

### Why there are three verdicts

`Verdict` has one constructor for each thing that can become of the words: they are said, they are
taken back, or they are left alone.  The conclusions of a pass (`Pass.Concludes`) are sorted into
these three, and the law follows by reading the condition in each.  What makes it an equivalence is
that connection info is returned if and only if the resource was found ready (`FoundReady.returned`,
`not_foundReady`).
-/

namespace ServiceOperator

open Calls (Entry)

variable {R : Type}

/-- The connection info that a call was answered with. -/
def Calls.Entry.info? : Entry R → Option ConnectionInfo
  | ⟨.connectionInfo _, .ok info⟩ => some info
  | _ => none

/-- A pass over a generation read the resource, found it ready and read how to connect to it, and
its status names a resource that the generation is applied to. -/
structure FoundReady (profile : Profile R) (generation : Int) (asked : List (Entry R))
    (s : ResourceStatus) (info : ConnectionInfo) : Prop where
  connected : ∃ id remote, .got id (.ok remote) ∈ asked ∧ profile.isReady remote = true ∧
    .connected remote (.ok info) ∈ asked
  known : s.id.isSome = true
  observed : s.observedGeneration = some generation

/-- A pass failed with an error that no change of the record has to mend: it reports the error and
comes back after a delay. -/
structure FailedInPassing (asked : List (Entry R)) (o : Outcome) (e : OperatorError) : Prop where
  cause : Pass.FailsOn asked e
  passing : e.errorClass ≠ .terminal
  reported : Condition.Stands o.status.conditions Condition.error "True" e.reason.text e.message
  reason : o.errorReason = some e.reason
  timed : ∃ delay, o.requeue = .after delay

namespace Pass

variable {p q : Pass R} {look : Look} {fingerprint : Option String} {t : List (Entry R)}
  {o : Outcome} {e : OperatorError}

/-! ## Connection info -/

/-- Nothing is returned where nothing was answered. -/
theorem Carries.infos (carries : p.Carries o) (silent : p.connectionInfo = none) :
    o.connectionInfo.toList = [] := by
  rw [carries.connectionInfo, silent]
  rfl

/-- A look returns the connection info that it was answered with, and nothing else. -/
theorem look_infos (silent : p.connectionInfo = none) (course : LookCourse p look t o) :
    t.filterMap Entry.info? = o.connectionInfo.toList := by
  cases course with
  | gone => exact (externallyDeleted_carries.infos silent).symm
  | unseen => exact (notReady_carries.infos silent).symm
  | unread => exact (fail_carries.infos silent).symm
  | corrected =>
      exact (notReady_carries.infos (p := (p.sawState _).beginOperation.mark _) silent).symm
  | goneUncorrected =>
      exact (externallyDeleted_carries.infos (p := (p.sawState _).beginOperation) silent).symm
  | uncorrected => exact (fail_carries.infos (p := (p.sawState _).beginOperation) silent).symm
  | waiting => exact (notReady_carries.infos (p := p.sawState _) silent).symm
  | unconnected => exact (fail_carries.infos (p := p.sawState _) silent).symm
  | converged => rfl

theorem obtain_infos {result : Except OperatorError (String × Pass R)}
    (course : ObtainCourse p t result) : t.filterMap Entry.info? = [] := by
  cases course <;> rfl

/-- A look at a resource that was just accepted. -/
theorem accepted_infos {id : String} {mutation : Option Mutation}
    (silent : p.connectionInfo = none)
    (course : LookCourse (({ p.beginOperation with mutation := mutation }).accept id fingerprint)
      .afterMutation t o) : t.filterMap Entry.info? = o.connectionInfo.toList := by
  refine look_infos ?_ course
  exact silent

/-- A look at a resource that an attempt came by. -/
theorem obtained_infos {first second : List (Entry R)} {id : String} {mutation : Option Mutation}
    {result : Except OperatorError (String × Pass R)} (silent : p.connectionInfo = none)
    (obtains : ObtainCourse p.beginOperation first result)
    (course : LookCourse (({ p.beginOperation with mutation := mutation }).accept id fingerprint)
      .afterMutation second o) :
    (first ++ second).filterMap Entry.info? = o.connectionInfo.toList := by
  rw [List.filterMap_append, obtain_infos obtains, List.nil_append]
  exact accepted_infos silent course

/-- **A step returns the connection info that it was answered with**, and none of its own. -/
theorem step_infos (silent : p.connectionInfo = none) (course : StepCourse p fingerprint t o) :
    t.filterMap Entry.info? = o.connectionInfo.toList := by
  have failing (e : OperatorError) : (p.beginOperation.fail e).connectionInfo.toList = [] :=
    fail_carries.infos (p := p.beginOperation) silent
  cases course with
  | looked step look => exact look_infos silent look
  | unready => exact (failing _).symm
  | uncreated step obtains => exact (obtain_infos obtains).trans (failing _).symm
  | created step obtains look =>
      obtain ⟨mutation, rfl⟩ := obtain_subject obtains
      have infos := obtained_infos silent obtains look
      exact infos
  | goneUnchanged =>
      exact (externallyDeleted_carries.infos (p := p.beginOperation) silent).symm
  | unchanged => exact (failing _).symm
  | changed step look =>
      have infos := accepted_infos silent look
      exact infos
  | undeleted => exact (failing _).symm
  | unconfirmed => exact (failing _).symm
  | lingering => exact (failing _).symm
  | unreplaced step accepted absent obtains => exact (obtain_infos obtains).trans (failing _).symm
  | replaced step accepted absent obtains look =>
      obtain ⟨mutation, rfl⟩ := obtain_subject obtains
      have infos := obtained_infos silent obtains look
      exact infos

/-- A deletion takes back that the resource runs before it does anything else. -/
theorem delete_isRunning (course : DeleteCourse p t o) : o.status.isRunning = false := by
  have begun : p.beginDeletion.status.isRunning = false := ResourceStatus.isRunning_setRunning
  have failed {e : OperatorError} : (p.beginDeletion.deleteFailed e).status.isRunning = false := by
    have reported {s : ResourceStatus} {reason : Reason} {message stamp : String}
        (before : s.isRunning = false) :
        (s.setError true reason message stamp).isRunning = false :=
      ResourceStatus.isRunning_setError.trans before
    unfold deleteFailed
    split
    · exact reported begun
    · dsimp only
      split <;> exact reported begun
  cases course with
  | undeleted => exact failed
  | unconfirmed => exact failed
  | confirmed => exact begun
  | overdue => exact ResourceStatus.isRunning_setError.trans begun
  | lingering => exact ResourceStatus.isRunning_setRunning

end Pass

/-! ## What a pass says of its resource -/

section Passes

variable {profile : Profile R} {subject : Subject} {settings : Settings} {now : Instant}
  {t : List (Entry R)} {o : Outcome}

/-- A pass returns the connection info that it was answered with. -/
theorem infos_eq (course : Pass.ReconcileCourse profile subject settings now t o) :
    t.filterMap Entry.info? = o.connectionInfo.toList := by
  cases course with
  | deleting requested course =>
      rw [(Pass.delete_keeps course).2]
      obtain ⟨answer, rfl | ⟨found, rfl⟩⟩ := course.calls <;> rfl
  | blocked => rfl
  | unresourced alive free begun =>
      subst begun
      split
      · exact (Pass.fail_carries.infos rfl).symm
      · exact (Pass.fail_carries.infos rfl).symm
  | lived alive free course =>
      have infos := Pass.step_infos rfl course
      exact infos

/-- A resource that was found ready is one that the pass returns how to connect to. -/
theorem FoundReady.returned {generation : Int} {s : ResourceStatus} {info : ConnectionInfo}
    (found : FoundReady profile generation t s info)
    (course : Pass.ReconcileCourse profile subject settings now t o) :
    o.connectionInfo = some info := by
  obtain ⟨id, remote, -, -, connected⟩ := found.connected
  have answered : info ∈ t.filterMap Entry.info? := List.mem_filterMap.mpr ⟨_, connected, rfl⟩
  rw [infos_eq course] at answered
  exact Option.mem_toList.mp answered

/-- A pass that returns no connection info has not found its resource ready. -/
theorem not_foundReady {generation : Int} {s : ResourceStatus} (nothing : o.connectionInfo = none)
    (course : Pass.ReconcileCourse profile subject settings now t o) :
    ¬ ∃ info, FoundReady profile generation t s info := by
  rintro ⟨info, found⟩
  cases nothing.symm.trans (found.returned course)

/-- What a pass says of its resource: it is ready, it has not converged, or what was said before. -/
inductive Verdict (profile : Profile R) (subject : Subject) (t : List (Entry R)) (o : Outcome) :
    Prop
  | ready {info : ConnectionInfo} (returned : o.connectionInfo = some info)
      (found : FoundReady profile subject.generation t o.status info)
      (running : o.status.isRunning = true)
      (succeeded : Condition.Stands o.status.conditions Condition.error "False"
        Reason.reconciled.text "")
      (idle : o.status.operationStartedAt = none) (free : o.status.failedGeneration = none)
      (patient : o.status.failedAttempts = 0)
  | denied (nothing : o.connectionInfo = none) (running : o.status.isRunning = false)
      (lasting : o.step = .delete ∨ o.step ≠ .blocked ∧ ∀ e, ¬ FailedInPassing t o e)
  | kept (nothing : o.connectionInfo = none)
      (running : o.status.isRunning = subject.status.isRunning) (alive : o.step ≠ .delete)
      (passing : o.step = .blocked ∨ ∃ e, FailedInPassing t o e)

/-- A pass that takes the exit of such a failure, with the error that ended its calls, has failed
in passing. -/
theorem Pass.FailsInPassing.failed {p : Pass R} {e : OperatorError}
    (fails : p.FailsInPassing e o) (cause : Pass.FailsOn t e) (passing : e.errorClass ≠ .terminal) :
    FailedInPassing t o e :=
  ⟨cause, passing, fails.reported, fails.reason, fails.timed⟩

/-- A pass that concludes, having become what it is from a pass that said nothing yet. -/
theorem Pass.Concludes.verdict {p q : Pass R} (concludes : q.Concludes t o) (becomes : p.Becomes q)
    (silent : p.errorReason = none) (nothing : p.connectionInfo = none)
    (alive : o.step ≠ .delete) (free : o.step ≠ .blocked) :
    Verdict p.profile { p.subject with status := p.status } t o := by
  have silent : q.errorReason = none := becomes.errorReason.trans silent
  have nothing : q.connectionInfo = none := becomes.connectionInfo.trans nothing
  -- A pass that reports no error has not failed.
  have unfailed (noError : o.errorReason = none) : ∀ e, ¬ FailedInPassing t o e := by
    intro e failed
    cases noError.symm.trans failed.reason
  cases concludes with
  | givenUp =>
      refine .denied nothing terminal_isRunning (.inr ⟨free, ?_⟩)
      rintro e ⟨-, -, -, -, delay, timed⟩
      cases timed
  | waiting inTime =>
      refine .denied (notReady_carries.connectionInfo.trans nothing) notReady_isRunning
        (.inr ⟨free, unfailed ?_⟩)
      rw [notReady, if_neg (Bool.eq_false_iff.mp inTime)]
      exact silent
  | gone => exact .denied nothing externallyDeleted_isRunning (.inr ⟨free, unfailed silent⟩)
  | @retried e cause passing inTime =>
      have fails := failRetryable_inPassing (e := e) inTime
      have lasting : e.errorClass ≠ .terminal := by
        rcases passing with passing | passing <;> rw [passing] <;> decide
      exact .kept (failRetryable_carries.connectionInfo.trans nothing)
        (fails.running.trans becomes.isRunning) alive (.inr ⟨_, fails.failed cause lasting⟩)
  | @delayed e cause passing patient =>
      have fails := failTransient_inPassing (e := e) patient
      have lasting : e.errorClass ≠ .terminal := by
        rw [passing]
        decide
      exact .kept (failTransient_carries.connectionInfo.trans nothing)
        (fails.running.trans becomes.isRunning) alive (.inr ⟨_, fails.failed cause lasting⟩)
  | @converged id remote info state got ready connected known observed =>
      have found :
          FoundReady p.profile p.subject.generation t (q.converged info state).status info :=
        ⟨⟨id, remote, got, becomes.profile ▸ ready, connected⟩, known, becomes.subject ▸ observed⟩
      exact .ready rfl found converged_isRunning Condition.stands_set rfl rfl rfl

/-- **Every pass comes to one of the three verdicts.** -/
theorem Pass.ReconcileCourse.verdict
    (course : ReconcileCourse profile subject settings now t o) : Verdict profile subject t o := by
  cases alive : subject.deletionRequested with
  | true =>
      have deletion := course.deletion alive
      obtain ⟨step, unconnected⟩ := delete_keeps deletion
      exact .denied unconnected (delete_isRunning deletion) (.inl step)
  | false =>
      obtain ⟨notDelete, -⟩ := course.living alive
      rcases course.concludes alive with ⟨blocks, rfl, rfl⟩ | ⟨free, step, q, becomes, concludes⟩
      · exact .kept rfl rfl notDelete (.inl rfl)
      · have notBlocked : o.step ≠ .blocked := by
          obtain ⟨fingerprint, planned⟩ := course.planned
          rw [planned]
          intro blocked
          exact free (Subject.plan_eq_blocked_iff.mp blocked).2
        exact concludes.verdict becomes rfl rfl notDelete notBlocked

/-- **What it means that a resource is running.**  After a pass, whatever the status that it started
from, the resource is reported to run if and only if

* the pass read it, found it ready and read how to connect to it, and the generation of the record
  is applied to it, or
* it was reported to run before, the pass does not delete, and the pass was blocked or failed with
  an error after which it comes back by itself.

The pass returns connection info in the first case and in no other, and it is the info that it was
answered with.  In that case no failure is reported, and nothing is left of an operation under way
or of earlier failures. -/
theorem isRunning_iff (yields : (reconcileOnce profile subject settings now).Yields t o) :
    (∀ info, o.connectionInfo = some info ↔
      FoundReady profile subject.generation t o.status info) ∧
    (o.status.isRunning = true ↔
      (∃ info, FoundReady profile subject.generation t o.status info) ∨
      subject.status.isRunning = true ∧ o.step ≠ .delete ∧
        (o.step = .blocked ∨ ∃ e, FailedInPassing t o e)) ∧
    ((∃ info, FoundReady profile subject.generation t o.status info) →
      Condition.Stands o.status.conditions Condition.error "False" Reason.reconciled.text "" ∧
        o.status.operationStartedAt = none ∧ o.status.failedGeneration = none ∧
        o.status.failedAttempts = 0) := by
  have course := reconcileOnce_course yields
  have returned {info} (found : FoundReady profile subject.generation t o.status info) :
      o.connectionInfo = some info := found.returned course
  -- The verdicts in turn: it runs, it does not, or it is left at what was said before.
  cases course.verdict with
  | @ready info returns found running succeeded idle free patient =>
      refine ⟨fun other => ⟨?_, returned⟩, iff_of_true running (.inl ⟨info, found⟩), fun _ =>
        ⟨succeeded, idle, free, patient⟩⟩
      intro returnsOther
      cases returns.symm.trans returnsOther
      exact found
  | denied nothing running lasting =>
      have unfound : ¬ ∃ info, FoundReady profile subject.generation t o.status info :=
        not_foundReady nothing course
      refine ⟨fun info => ⟨?_, returned⟩, iff_of_false ?_ ?_, fun found => absurd found unfound⟩
      · intro returns
        cases nothing.symm.trans returns
      · simp [running]
      · rintro (found | ⟨-, alive, blocked | ⟨e, failed⟩⟩)
        · exact unfound found
        · exact lasting.elim alive fun lasting => lasting.1 blocked
        · exact lasting.elim alive fun lasting => lasting.2 e failed
  | kept nothing running alive passing =>
      have unfound : ¬ ∃ info, FoundReady profile subject.generation t o.status info :=
        not_foundReady nothing course
      refine ⟨fun info => ⟨?_, returned⟩, ?_, fun found => absurd found unfound⟩
      · intro returns
        cases nothing.symm.trans returns
      · rw [running]
        exact ⟨fun ran => .inr ⟨ran, alive, passing⟩, fun cases => (cases.resolve_left unfound).1⟩

end Passes

/-! ## A control plane that is not there for a while -/

namespace Interrupted

/-- Surroundings in which the resource cannot be read. -/
def answer : (c : Call Unit) → c.Answer
  | .get _ => .error (.retryLater 503 "busy")
  | call => Steady.answer call

/-- A minute after its resource was created, the record meets a control plane that is busy. -/
def pass : CompletedPass Unit :=
  .against answer Steady.profile ⟨"PostgreSQL", "orders", 1, false, Steady.first.outcome.status⟩
    .standard ⟨60, 0⟩

end Interrupted

/-- The pass that created the resource found it ready.  The pass that could not read it says on that
the resource runs, and it says so only because the failure will pass. -/
theorem isRunning_iff_interrupted :
    FoundReady Steady.profile 1 Steady.first.asked Steady.first.outcome.status .empty ∧
      Interrupted.pass.outcome.status.isRunning = true ∧
      ∃ e, FailedInPassing Interrupted.pass.asked Interrupted.pass.outcome e := by
  obtain ⟨connected, -⟩ := isRunning_iff Steady.first.yields
  obtain ⟨unconnected, runs, -⟩ := isRunning_iff Interrupted.pass.yields
  have running : Interrupted.pass.outcome.status.isRunning = true := rfl
  refine ⟨(connected .empty).mp rfl, running, ?_⟩
  rcases runs.mp running with ⟨info, found⟩ | ⟨-, -, blocked | failed⟩
  · cases (unconnected info).mpr found
  · cases blocked
  · exact failed

end ServiceOperator
