import ServiceOperator.Proofs.Pass.Courses

/-!
# What the exits of a pass leave behind

Every course of a pass ends in one of its exits, so a law about what a pass leaves behind is a law
about them.  There are four of these laws.

* `Pass.Carries`: an exit hands on the step, the release of the finalizer and, unless it is
  `converged`, the connection info of its pass.  No exit makes up any of them.
* `Ending`: what an exit says about the generation.  It gives the generation up, or lets the record
  come back and reports something else than a missing dependency.  `externallyDeleted` is the one
  exit that is no `Ending`: it leaves the failure condition of the last pass standing.
* `Settled`: the status that `converged` leaves behind.
* `Pass.Retains`: an exit retains which resource the record has and what is applied to it.
  `externallyDeleted` is the one exit that forgets them.

Two exits first ask whether something takes too long; `Pass.exceeds_iff` says when it does.
-/

namespace ServiceOperator

/-- Only an error that waits for a new generation reports a missing dependency. -/
theorem OperatorError.terminal_of_reason {e : OperatorError}
    (missing : e.reason = .dependencyMissing) : e.errorClass = .terminal := by
  cases e <;> first | rfl | cases missing

namespace Pass

variable {R : Type} {p : Pass R} {e : OperatorError} {message : String}

/-! ## What is handed on -/

/-- An outcome has the step, the release of the finalizer and the connection info of a pass. -/
structure Carries (p : Pass R) (o : Outcome) : Prop where
  step : o.step = p.step
  removeFinalizer : o.removeFinalizer = p.removeFinalizer
  connectionInfo : o.connectionInfo = p.connectionInfo

/-- What a pass hands on, one that differs in nothing but its status hands on as well. -/
theorem Carries.of_same {q : Pass R} {o : Outcome} (carries : q.Carries o)
    (step : q.step = p.step) (removeFinalizer : q.removeFinalizer = p.removeFinalizer)
    (connectionInfo : q.connectionInfo = p.connectionInfo) : p.Carries o where
  step := carries.step.trans step
  removeFinalizer := carries.removeFinalizer.trans removeFinalizer
  connectionInfo := carries.connectionInfo.trans connectionInfo

theorem terminal_carries {reason : Reason} : p.Carries (p.terminal reason message) :=
  ⟨rfl, rfl, rfl⟩

/-- A resource that is waited for hands on what its pass holds, also where the record is given
up. -/
theorem notReady_carries : p.Carries (p.notReady message) := by
  unfold notReady
  split
  · exact terminal_carries
  · exact ⟨rfl, rfl, rfl⟩

theorem externallyDeleted_carries : p.Carries p.externallyDeleted := ⟨rfl, rfl, rfl⟩

theorem failRetryable_carries : p.Carries (p.failRetryable e) := by
  unfold failRetryable
  split
  · exact terminal_carries
  · dsimp only
    split <;> exact ⟨rfl, rfl, rfl⟩

theorem failTransient_carries : p.Carries (p.failTransient e) := by
  unfold failTransient
  dsimp only
  split <;> exact ⟨rfl, rfl, rfl⟩

/-- Every failure of a living record hands on what its pass holds. -/
theorem fail_carries : p.Carries (p.fail e) := by
  unfold fail
  split
  · exact terminal_carries
  · exact failRetryable_carries
  · exact failRetryable_carries
  · exact failTransient_carries

theorem deletionTimeout_carries : p.Carries (p.deletionTimeout message) := ⟨rfl, rfl, rfl⟩

theorem deleteFailed_carries : p.Carries (p.deleteFailed e) := by
  unfold deleteFailed
  split
  · exact deletionTimeout_carries
  · dsimp only
    split <;> exact ⟨rfl, rfl, rfl⟩

end Pass

/-! ## What is said about the generation -/

/-- What the exits of a living record say about its generation, `failed` being the generation that
had failed before. -/
inductive Ending (generation : Int) (failed : Option Int) (o : Outcome) : Prop
  | givenUp {reason : Reason} (given : o.status.failedGeneration = some generation)
      (reported : o.status.errorReason? = some reason.text) (failure : o.errorReason = some reason)
      (waits : o.requeue = .awaitChange)
  | goesOn (kept : o.status.failedGeneration = failed ∨ o.status.failedGeneration = none)
      (reported : o.status.errorReason? ≠ some Reason.dependencyMissing.text)
      (failure : o.errorReason ≠ some .dependencyMissing)

namespace Pass

variable {R : Type} {p : Pass R} {e : OperatorError} {message : String}

/-- What an exit of a pass says about the generation of its record. -/
abbrev Ends (p : Pass R) (o : Outcome) : Prop :=
  Ending p.subject.generation p.status.failedGeneration o

theorem terminal_ends {reason : Reason} : p.Ends (p.terminal reason message) :=
  .givenUp rfl ResourceStatus.errorReason?_setError rfl rfl

/-- A reason that is set and is not a missing dependency. -/
theorem reported_other {s : ResourceStatus} {reason : Reason}
    (set : s.errorReason? = some reason.text) (other : reason ≠ .dependencyMissing) :
    s.errorReason? ≠ some Reason.dependencyMissing.text := by
  rw [set]
  intro same
  exact other (Reason.text_injective (Option.some.inj same))

/-- A resource that is waited for lets the record come back, or gives it up for the time. -/
theorem notReady_ends (silent : p.errorReason = none) : p.Ends (p.notReady message) := by
  unfold notReady
  split
  · exact terminal_ends
  · refine .goesOn (.inl rfl) (reported_other ResourceStatus.errorReason?_setError (by decide)) ?_
    change p.errorReason ≠ _
    simp [silent]

/-- A failure that may pass lets the record come back, if it is not for want of a dependency. -/
theorem failRetryable_ends (other : e.reason ≠ .dependencyMissing) :
    p.Ends (p.failRetryable e) := by
  have failure : some e.reason ≠ some Reason.dependencyMissing := by simpa using other
  unfold failRetryable
  split
  · exact terminal_ends
  · dsimp only
    split
    · exact .goesOn (.inl rfl) (reported_other ResourceStatus.errorReason?_setError other) failure
    · refine .goesOn (.inl rfl) (reported_other ?_ other) failure
      exact ResourceStatus.errorReason?_setRunning.trans ResourceStatus.errorReason?_setError

/-- A failure in transport lets the record come back, or was one too many. -/
theorem failTransient_ends (other : e.reason ≠ .dependencyMissing) :
    p.Ends (p.failTransient e) := by
  have failure : some e.reason ≠ some Reason.dependencyMissing := by simpa using other
  unfold failTransient
  dsimp only
  split
  · exact terminal_ends
  · exact .goesOn (.inl rfl) (reported_other ResourceStatus.errorReason?_setError other) failure

/-- Every failure gives the record up or lets it come back, with its own reason. -/
theorem fail_ends : p.Ends (p.fail e) := by
  have other (passing : e.errorClass ≠ .terminal) : e.reason ≠ .dependencyMissing :=
    fun missing => passing (OperatorError.terminal_of_reason missing)
  unfold fail
  split
  case h_1 => exact terminal_ends
  case h_2 retryable => exact failRetryable_ends (other (by simp [retryable]))
  case h_3 absent => exact failRetryable_ends (other (by simp [absent]))
  case h_4 transient => exact failTransient_ends (other (by simp [transient]))

/-- A resource that has converged lets the record come back, and reports no failure. -/
theorem converged_ends {info : ConnectionInfo} {state : String} (silent : p.errorReason = none) :
    p.Ends (p.converged info state) := by
  refine .goesOn (.inr rfl) (reported_other ResourceStatus.errorReason?_setError (by decide)) ?_
  change p.errorReason ≠ _
  simp [silent]

/-- The one exit that leaves the failure condition of the last pass standing. -/
theorem externallyDeleted_errorReason? :
    p.externallyDeleted.status.errorReason? = p.status.errorReason? :=
  ResourceStatus.errorReason?_setRunning

end Pass

/-! ## What convergence leaves behind -/

/-- The status of a record whose resource has converged in a state, with the present generation
applied to it. -/
structure Settled (generation : Int) (state : String) (s : ResourceStatus) : Prop where
  running : Condition.Stands s.conditions Condition.running "True" Reason.running.text
    ("external state is " ++ state)
  error : Condition.Stands s.conditions Condition.error "False" Reason.reconciled.text ""
  state : s.state = some state
  known : s.id.isSome = true
  observed : s.observedGeneration = some generation
  free : s.failedGeneration = none
  idle : s.operationStartedAt = none
  patient : s.failedAttempts = 0

namespace Pass

variable {R : Type} {p : Pass R} {info : ConnectionInfo} {state : String}

/-- A pass that converges with the present generation applied leaves a settled status. -/
theorem converged_settled (known : p.status.id.isSome = true)
    (observed : p.status.observedGeneration = some p.subject.generation) :
    Settled p.subject.generation state ((p.sawState state).converged info state).status where
  running := Condition.Stands.set_of_ne ResourceStatus.running_ne_error Condition.stands_set
  error := Condition.stands_set
  state := rfl
  known := known
  observed := observed
  free := rfl
  idle := rfl
  patient := rfl

/-- **Convergence is a fixed point.**  A pass that starts from a settled status and finds the
resource converged in the same state leaves the status as it was, whatever the time. -/
theorem converged_status_of_settled {generation : Int}
    (settled : Settled generation state p.status) :
    ((p.sawState state).converged info state).status = p.status := by
  let conditions := Condition.set Condition.error "False" Reason.reconciled.text "" p.stamp
    (Condition.set Condition.running "True" Reason.running.text ("external state is " ++ state)
      p.stamp p.status.conditions)
  have same : conditions = p.status.conditions := by
    change Condition.set _ _ _ _ _ (Condition.set _ _ _ _ _ _) = _
    rw [settled.running.set_eq, settled.error.set_eq]
  change { p.status with
    conditions := conditions
    state := some state
    operationStartedAt := none
    failedAttempts := 0
    failedGeneration := none } = p.status
  -- With the conditions out of the way, the fields that are written hold what is written.
  rw [same]
  obtain ⟨-, -, sameState, -, -, free, idle, patient⟩ := settled
  generalize p.status = s at sameState free idle patient ⊢
  cases s
  cases sameState
  cases free
  cases idle
  cases patient
  rfl

end Pass

/-! ## What is retained of the resource -/

namespace Pass

variable {R : Type} {p : Pass R} {e : OperatorError} {message : String}

/-- An outcome has the resource of a pass, with the same generation and the same source secret
applied to it. -/
structure Retains (p : Pass R) (o : Outcome) : Prop where
  id : o.status.id = p.status.id
  observedGeneration : o.status.observedGeneration = p.status.observedGeneration
  sourceFingerprint : o.status.sourceFingerprint = p.status.sourceFingerprint

/-- What a pass retains, one with the same resource retains as well. -/
theorem Retains.of_same {q : Pass R} {o : Outcome} (retains : q.Retains o)
    (id : q.status.id = p.status.id)
    (observedGeneration : q.status.observedGeneration = p.status.observedGeneration)
    (sourceFingerprint : q.status.sourceFingerprint = p.status.sourceFingerprint) :
    p.Retains o where
  id := retains.id.trans id
  observedGeneration := retains.observedGeneration.trans observedGeneration
  sourceFingerprint := retains.sourceFingerprint.trans sourceFingerprint

theorem terminal_retains {reason : Reason} : p.Retains (p.terminal reason message) :=
  ⟨rfl, rfl, rfl⟩

theorem notReady_retains : p.Retains (p.notReady message) := by
  unfold notReady
  split
  · exact terminal_retains
  · exact ⟨rfl, rfl, rfl⟩

theorem failRetryable_retains : p.Retains (p.failRetryable e) := by
  unfold failRetryable
  split
  · exact terminal_retains
  · dsimp only
    split <;> exact ⟨rfl, rfl, rfl⟩

theorem failTransient_retains : p.Retains (p.failTransient e) := by
  unfold failTransient
  dsimp only
  split <;> exact ⟨rfl, rfl, rfl⟩

/-- No failure forgets the resource. -/
theorem fail_retains : p.Retains (p.fail e) := by
  unfold fail
  split
  · exact terminal_retains
  · exact failRetryable_retains
  · exact failRetryable_retains
  · exact failTransient_retains

theorem converged_retains {info : ConnectionInfo} {state : String} :
    p.Retains (p.converged info state) :=
  ⟨rfl, rfl, rfl⟩

/-! ## What takes too long -/

/-- More time than a limit has passed since a stamp exactly if the stamp denotes an instant that
lies further back than the limit. -/
theorem exceeds_iff (noted : Option String) (limit : Duration) (p : Pass R) :
    p.exceeds noted limit = true ↔ ∃ start, noted.bind Instant.parse? = some start ∧
      (limit.nanos : Int) < p.now.nanosSince start := by
  rw [exceeds, elapsedSince?]
  cases noted.bind Instant.parse? with
  | none => simp
  | some start =>
      rw [Option.bind_some, Instant.elapsedSince?]
      by_cases passed : 0 ≤ p.now.nanosSince start
      · simp only [if_pos passed, decide_eq_true_eq, Option.some.injEq, exists_eq_left']
        change limit.nanos < (p.now.nanosSince start).toNat ↔ _
        omega
      · simp only [if_neg passed, Bool.false_eq_true, false_iff, Option.some.injEq, exists_eq_left']
        omega

end Pass

end ServiceOperator
