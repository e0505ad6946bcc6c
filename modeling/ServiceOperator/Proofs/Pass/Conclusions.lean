import ServiceOperator.Proofs.Pass.Outcomes

/-!
# How a pass over a living record concludes

Between its start and its exit a pass may do many things to the resource and few to its status: it
touches no condition, and what the status says of the resource stays as it is or is written by
`accept`.  `Pass.Becomes` is that frame.  The exit then writes the conditions, and `Pass.Concludes`
lists the exits, one constructor for each way out, with what the calls of the pass must have been
answered for it to be taken.

`Pass.ReconcileCourse.concludes` puts the two together: whatever the step, a pass over a living
record is blocked, or becomes a pass that concludes.  A law of what passes leave behind is proved by
one case for each conclusion, and never by one for each course.

### What a law costs

A pass has many courses and few conclusions.  The courses differ in the calls, and a law about the
calls has to go through them (`Proofs.Pass.Courses`); but a law about the status that is left behind
has one case for each of the six conclusions, one for what a pass may become before it (`Becomes`),
and none for the steps.  The laws of consistency, of the books, of the entries and of the requeues
are all proved so.
-/

namespace ServiceOperator

open Calls (Entry)

namespace Pass

variable {R : Type} {p q r : Pass R} {look : Look} {fingerprint : Option String}
  {t : List (Entry R)} {o : Outcome} {e : OperatorError} {message : String}

/-! ## Under way -/

/-- What a status says of the resource and of the failures so far stays as it is, or a resource has
been accepted at a generation. -/
inductive Applied (generation : Int) (s s' : ResourceStatus) : Prop
  | kept (id : s'.id = s.id) (observed : s'.observedGeneration = s.observedGeneration)
      (failed : s'.failedGeneration = s.failedGeneration)
      (attempts : s'.failedAttempts = s.failedAttempts)
  | accepted (known : s'.id.isSome = true) (observed : s'.observedGeneration = some generation)
      (free : s'.failedGeneration = none) (patient : s'.failedAttempts = 0)

/-- What becomes of a status in two stages is what may become of it in one. -/
theorem Applied.trans {generation : Int} {s s' s'' : ResourceStatus}
    (first : Applied generation s s') (second : Applied generation s' s'') :
    Applied generation s s'' := by
  cases second with
  | accepted known observed free patient => exact .accepted known observed free patient
  | kept id observed failed attempts =>
      cases first with
      | kept id' observed' failed' attempts' =>
          exact .kept (id.trans id') (observed.trans observed') (failed.trans failed')
            (attempts.trans attempts')
      | accepted known observed' free patient =>
          exact .accepted (id ▸ known) (observed.trans observed') (failed.trans free)
            (attempts.trans patient)

/-- What a pass can have become by the time of its exit. -/
structure Becomes (p q : Pass R) : Prop where
  profile : q.profile = p.profile
  subject : q.subject = p.subject
  settings : q.settings = p.settings
  now : q.now = p.now
  step : q.step = p.step
  connectionInfo : q.connectionInfo = p.connectionInfo
  errorReason : q.errorReason = p.errorReason
  conditions : q.status.conditions = p.status.conditions
  applied : Applied p.subject.generation p.status q.status

/-- A pass may become another one in several stages. -/
theorem Becomes.trans (first : p.Becomes q) (second : q.Becomes r) : p.Becomes r where
  profile := second.profile.trans first.profile
  subject := second.subject.trans first.subject
  settings := second.settings.trans first.settings
  now := second.now.trans first.now
  step := second.step.trans first.step
  connectionInfo := second.connectionInfo.trans first.connectionInfo
  errorReason := second.errorReason.trans first.errorReason
  conditions := second.conditions.trans first.conditions
  applied := first.applied.trans (first.subject ▸ second.applied)

theorem Becomes.refl (p : Pass R) : p.Becomes p :=
  ⟨rfl, rfl, rfl, rfl, rfl, rfl, rfl, rfl, .kept rfl rfl rfl rfl⟩

theorem becomes_beginOperation : p.Becomes p.beginOperation :=
  ⟨rfl, rfl, rfl, rfl, rfl, rfl, rfl, rfl, .kept rfl rfl rfl rfl⟩

theorem becomes_mark {mutation : Mutation} : p.Becomes (p.mark mutation) :=
  ⟨rfl, rfl, rfl, rfl, rfl, rfl, rfl, rfl, .kept rfl rfl rfl rfl⟩

theorem becomes_sawState {state : String} : p.Becomes (p.sawState state) :=
  ⟨rfl, rfl, rfl, rfl, rfl, rfl, rfl, rfl, .kept rfl rfl rfl rfl⟩

theorem becomes_accept {mutation : Option Mutation} {id : String} :
    p.Becomes (({ p.beginOperation with mutation := mutation }).accept id fingerprint) :=
  ⟨rfl, rfl, rfl, rfl, rfl, rfl, rfl, rfl, .accepted rfl rfl rfl rfl⟩

/-! ## The exits -/

/-- The error that a pass fails with.  It is the answer to the last call, or the pass itself takes
exception to the resource that the last call found: it does not fit, or it should be gone. -/
inductive FailsOn (t : List (Entry R)) (e : OperatorError) : Prop
  | answered {call : Call R} (last : t.getLast? = some ⟨call, .error e⟩)
  | found {id : Option String} {remote : R} (last : t.getLast? = some (.got id (.ok remote)))
      (own : e.reason = .adoptionRefused ∨ e.reason = .retryLater)

/-- Calls that were made before do not change what a pass fails with. -/
theorem FailsOn.behind (earlier : List (Entry R)) (fails : FailsOn t e) :
    FailsOn (earlier ++ t) e := by
  have last {entry : Entry R} (last : t.getLast? = some entry) :
      (earlier ++ t).getLast? = some entry := by
    rw [List.getLast?_append, last]
    rfl
  cases fails with
  | answered final => exact .answered (last final)
  | found final own => exact .found (last final) own

/-- How a pass over a living record concludes. -/
inductive Concludes (q : Pass R) (t : List (Entry R)) : Outcome → Prop
  /-- The record waits for a change. -/
  | givenUp {reason : Reason} {message : String} : Concludes q t (q.terminal reason message)
  /-- The resource has not converged yet. -/
  | waiting {message : String} (inTime : q.creationTimedOut = false) :
      Concludes q t (q.notReady message)
  | gone : Concludes q t q.externallyDeleted
  /-- The pass failed, and comes back after the poll interval. -/
  | retried {e : OperatorError} (fails : FailsOn t e)
      (passing : e.errorClass = .retryable ∨ e.errorClass = .notFound)
      (inTime : q.creationTimedOut = false) : Concludes q t (q.failRetryable e)
  /-- The pass failed in transport, and comes back after a delay that grows. -/
  | delayed {e : OperatorError} (fails : FailsOn t e) (passing : e.errorClass = .transient)
      (patient : q.countFailure.status.failedAttempts < q.settings.maxTransientFailures) :
      Concludes q t (q.failTransient e)
  | converged {id : Option String} {remote : R} {info : ConnectionInfo} {state : String}
      (got : .got id (.ok remote) ∈ t) (ready : q.profile.isReady remote = true)
      (connected : .connected remote (.ok info) ∈ t) (known : q.status.id.isSome = true)
      (observed : q.status.observedGeneration = some q.subject.generation) :
      Concludes q t (q.converged info state)

/-- Nor do they change how it concludes. -/
theorem Concludes.behind (earlier : List (Entry R)) (concludes : q.Concludes t o) :
    q.Concludes (earlier ++ t) o := by
  cases concludes with
  | givenUp => exact .givenUp
  | waiting inTime => exact .waiting inTime
  | gone => exact .gone
  | retried fails passing inTime => exact .retried (fails.behind earlier) passing inTime
  | delayed fails passing patient => exact .delayed (fails.behind earlier) passing patient
  | converged got ready connected known observed =>
      exact .converged (List.mem_append_right _ got) ready (List.mem_append_right _ connected)
        known observed

/-- A resource that is not ready is waited for, or the record is given up for the time. -/
theorem notReady_concludes : q.Concludes t (q.notReady message) := by
  cases timedOut : q.creationTimedOut with
  | true =>
      rw [notReady, if_pos timedOut]
      exact .givenUp
  | false => exact .waiting timedOut

/-- A failure that may pass is tried again, or the record is given up for the time. -/
theorem failRetryable_concludes (fails : FailsOn t e)
    (passing : e.errorClass = .retryable ∨ e.errorClass = .notFound) :
    q.Concludes t (q.failRetryable e) := by
  cases timedOut : q.creationTimedOut with
  | true =>
      rw [failRetryable, if_pos timedOut]
      exact .givenUp
  | false => exact .retried fails passing timedOut

/-- A failure in transport that is one too many gives the record up, and with it the count. -/
theorem failTransient_concludes (fails : FailsOn t e) (passing : e.errorClass = .transient) :
    q.Concludes t (q.failTransient e) := by
  by_cases patient : q.countFailure.status.failedAttempts < q.settings.maxTransientFailures
  · exact .delayed fails passing patient
  · have exhausted : q.countFailure.settings.maxTransientFailures ≤
        q.countFailure.status.failedAttempts := Nat.not_lt.mp patient
    rw [failTransient, if_pos exhausted]
    exact .givenUp

/-- A failure concludes a pass by its class. -/
theorem fail_concludes (fails : FailsOn t e) : q.Concludes t (q.fail e) := by
  unfold fail
  split
  case h_1 => exact .givenUp
  case h_2 retryable => exact failRetryable_concludes fails (.inl retryable)
  case h_3 absent => exact failRetryable_concludes fails (.inr absent)
  case h_4 transient => exact failTransient_concludes fails transient

/-! ## The courses -/

/-- A look at a resource to which the present generation is applied. -/
theorem look_concludes (course : LookCourse p look t o) (known : p.status.id.isSome = true)
    (observed : p.status.observedGeneration = some p.subject.generation) :
    ∃ q, p.Becomes q ∧ q.Concludes t o := by
  have corrects {state : String} : p.Becomes (p.sawState state).beginOperation :=
    becomes_sawState.trans becomes_beginOperation
  cases course with
  | gone => exact ⟨p, .refl p, .gone⟩
  | unseen => exact ⟨p, .refl p, notReady_concludes⟩
  | unread => exact ⟨p, .refl p, fail_concludes (.answered rfl)⟩
  | corrected => exact ⟨_, corrects.trans becomes_mark, notReady_concludes⟩
  | goneUncorrected => exact ⟨_, corrects, .gone⟩
  | uncorrected => exact ⟨_, corrects, fail_concludes (.answered rfl)⟩
  | waiting => exact ⟨_, becomes_sawState, notReady_concludes⟩
  | unconnected => exact ⟨_, becomes_sawState, fail_concludes (.answered rfl)⟩
  | converged steady ready =>
      refine ⟨_, becomes_sawState, .converged (List.mem_cons_self ..) ready ?_ known observed⟩
      exact List.mem_cons_of_mem _ (List.mem_cons_self ..)

/-- An attempt that comes by nothing fails with the answer to its last call, or takes exception
to what it met. -/
theorem ObtainCourse.failsOn (course : ObtainCourse p t (.error e)) : FailsOn t e := by
  cases course with
  | refused => exact .answered rfl
  | unread => exact .answered rfl
  | foreign => exact .found rfl (.inl rfl)
  | unconformed => exact .answered rfl

/-- A look at a resource that was just accepted. -/
theorem accepted_concludes {id : String} {mutation : Option Mutation} (earlier : List (Entry R))
    (course : LookCourse (({ p.beginOperation with mutation := mutation }).accept id fingerprint)
      .afterMutation t o) : ∃ q, p.Becomes q ∧ q.Concludes (earlier ++ t) o := by
  obtain ⟨q, becomes, concludes⟩ := look_concludes course rfl rfl
  exact ⟨q, becomes_accept.trans becomes, concludes.behind earlier⟩

/-- A step of a living record concludes.  One that rests has to be planned for a resource to which
the present generation is applied. -/
theorem step_concludes (course : StepCourse p fingerprint t o)
    (planned : p.step = .awaitReady ∨ p.step = .observe →
      p.status.id.isSome = true ∧ p.status.observedGeneration = some p.subject.generation) :
    ∃ q, p.Becomes q ∧ q.Concludes t o := by
  have failing {e : OperatorError} (fails : FailsOn t e) :
      ∃ q, p.Becomes q ∧ q.Concludes t (p.beginOperation.fail e) :=
    ⟨_, becomes_beginOperation, fail_concludes fails⟩
  cases course with
  | looked step look =>
      obtain ⟨known, observed⟩ := planned step
      exact look_concludes look known observed
  | unready => exact failing (.answered rfl)
  | uncreated step obtains => exact failing (obtains.failsOn.behind [_])
  | created step obtains look =>
      obtain ⟨mutation, rfl⟩ := obtain_subject obtains
      exact accepted_concludes (.checked (.ok ()) :: _) look
  | goneUnchanged => exact ⟨_, becomes_beginOperation, .gone⟩
  | unchanged => exact failing (.answered rfl)
  | changed step look => exact accepted_concludes [_, _] look
  | undeleted => exact failing (.answered rfl)
  | unconfirmed => exact failing (.answered rfl)
  | lingering => exact failing (.found rfl (.inr rfl))
  | unreplaced step accepted absent obtains =>
      exact failing (obtains.failsOn.behind [_, _, _])
  | replaced step accepted absent obtains look =>
      obtain ⟨mutation, rfl⟩ := obtain_subject obtains
      exact accepted_concludes (_ :: _ :: _ :: _) look

variable {profile : Profile R} {subject : Subject} {settings : Settings} {now : Instant}

/-- **A pass over a living record is blocked, or concludes.** -/
theorem ReconcileCourse.concludes (course : ReconcileCourse profile subject settings now t o)
    (alive : subject.deletionRequested = false) :
    (subject.status.Blocks subject.generation ∧ t = [] ∧
      o = (start profile subject settings now .blocked).finish .awaitChange) ∨
    ¬ subject.status.Blocks subject.generation ∧ ∃ step q,
      (start profile subject settings now step).Becomes q ∧ q.Concludes t o := by
  cases course with
  | deleting requested => simp [requested] at alive
  | blocked _ blocks => exact .inl ⟨blocks, rfl, rfl⟩
  | unresourced _ free begun =>
      subst begun
      refine .inr ⟨free, subject.plan none profile.requiresReplace, ?_⟩
      split
      · exact ⟨_, becomes_beginOperation, fail_concludes (.answered rfl)⟩
      · exact ⟨_, .refl _, fail_concludes (.answered rfl)⟩
  | lived _ free course =>
      obtain ⟨q, becomes, concludes⟩ := step_concludes course fun rests =>
        let ⟨known, observed, _⟩ := plan_rests rests
        ⟨known, observed⟩
      exact .inr ⟨free, _, q, becomes, concludes.behind [_]⟩

/-! ## What a conclusion says of the resource and of the attempt -/

theorem Becomes.isRunning (becomes : p.Becomes q) : q.status.isRunning = p.status.isRunning :=
  congrArg (Condition.isTrue · Condition.running) becomes.conditions

theorem terminal_isRunning {reason : Reason} :
    (p.terminal reason message).status.isRunning = false :=
  ResourceStatus.isRunning_setError.trans ResourceStatus.isRunning_setRunning

theorem notReady_isRunning : (p.notReady message).status.isRunning = false := by
  unfold notReady
  split
  · exact terminal_isRunning
  · exact ResourceStatus.isRunning_setError.trans ResourceStatus.isRunning_setRunning

theorem externallyDeleted_isRunning : p.externallyDeleted.status.isRunning = false :=
  ResourceStatus.isRunning_setRunning

theorem converged_isRunning {info : ConnectionInfo} {state : String} :
    (p.converged info state).status.isRunning = true :=
  ResourceStatus.isRunning_setError.trans ResourceStatus.isRunning_setRunning

/-- An outcome of a pass that failed with an error and comes back by itself: it says nothing new of
the resource. -/
structure FailsInPassing (p : Pass R) (e : OperatorError) (o : Outcome) : Prop where
  running : o.status.isRunning = p.status.isRunning
  reported : Condition.Stands o.status.conditions Condition.error "True" e.reason.text e.message
  reason : o.errorReason = some e.reason
  timed : ∃ delay, o.requeue = .after delay

/-- A resource that had not converged is reported as not converged again, for the new reason. -/
theorem failRetryable_inPassing (inTime : p.creationTimedOut = false) :
    p.FailsInPassing e (p.failRetryable e) := by
  have unchanged : (p.setError true e.reason e.message).status.isRunning = p.status.isRunning :=
    ResourceStatus.isRunning_setError
  rw [failRetryable, if_neg (Bool.eq_false_iff.mp inTime)]
  dsimp only
  split
  case isTrue => exact ⟨unchanged, Condition.stands_set, rfl, _, rfl⟩
  case isFalse unconverged =>
      have unconverged := unchanged.symm.trans (Bool.eq_false_iff.mpr unconverged)
      refine ⟨ResourceStatus.isRunning_setRunning.trans unconverged.symm, ?_, rfl, _, rfl⟩
      exact Condition.Stands.set_of_ne ResourceStatus.running_ne_error.symm Condition.stands_set

/-- A failure in transport says nothing new of the resource, as long as there were not too many. -/
theorem failTransient_inPassing
    (patient : p.countFailure.status.failedAttempts < p.settings.maxTransientFailures) :
    p.FailsInPassing e (p.failTransient e) := by
  have bearable : ¬ p.countFailure.settings.maxTransientFailures ≤
      p.countFailure.status.failedAttempts := Nat.not_le.mpr patient
  rw [failTransient, if_neg bearable]
  exact ⟨ResourceStatus.isRunning_setError, Condition.stands_set, rfl, _, rfl⟩

end Pass

end ServiceOperator
