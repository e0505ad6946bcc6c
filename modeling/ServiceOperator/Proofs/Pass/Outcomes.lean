import ServiceOperator.Proofs.Pass.Exits

/-!
# What a pass leaves behind

Here the laws of the exits are carried over to the courses of a pass, one case for each course.

* A pass releases the finalizer on one course only, that of a confirmed deletion
  (`removeFinalizer_iff`).
* A pass returns connection info on one exit only, `converged`.  Whichever of the five steps leads
  there, the present generation and source secret are applied by then (`Pass.Reaches`), so that
  what is left behind is settled (`settled_of_connectionInfo`).
* A pass takes the step that is planned (`Pass.ReconcileCourse.planned`), and one that changes the
  resource fails before it does so, or has found its preconditions to hold
  (`Pass.ReconcileCourse.changing`).

The case splits over courses are here, so that the modules behind this one can start from what an
outcome has.  `Pass.Reaches` is the form in which convergence is handed on: some later stage of the
pass, of which it is known what has been applied, has taken the exit `converged`.
-/

namespace ServiceOperator

open Calls (Entry DeleteAccepted)

namespace Pass

variable {R : Type} {p : Pass R} {look : Look} {fingerprint : Option String}
  {t : List (Entry R)} {o : Outcome}

/-! ## The courses of a living record -/

/-- An outcome that ends in convergence, behind a pass that holds a resource with the present
generation and the present source secret applied to it. -/
inductive Reaches (p : Pass R) (fingerprint : Option String) : Outcome → Prop
  | intro {q : Pass R} {state : String} {info : ConnectionInfo} (step : q.step = p.step)
      (removeFinalizer : q.removeFinalizer = p.removeFinalizer) (subject : q.subject = p.subject)
      (known : q.status.id.isSome = true)
      (observed : q.status.observedGeneration = some p.subject.generation)
      (resourced : fingerprint.isSome = true → fingerprint = q.status.sourceFingerprint) :
      Reaches p fingerprint ((q.sawState state).converged info state)

theorem Reaches.step (reaches : p.Reaches fingerprint o) : o.step = p.step := by
  cases reaches with
  | intro step => exact step

theorem Reaches.removeFinalizer (reaches : p.Reaches fingerprint o) :
    o.removeFinalizer = p.removeFinalizer := by
  cases reaches with
  | intro step removeFinalizer => exact removeFinalizer

/-- A look converges, or hands on what its pass holds. -/
theorem look_carries (course : LookCourse p look t o) :
    p.Carries o ∨ ∃ state info, o = (p.sawState state).converged info state := by
  cases course with
  | gone => exact .inl externallyDeleted_carries
  | unseen => exact .inl notReady_carries
  | unread => exact .inl fail_carries
  | corrected => exact .inl (notReady_carries.of_same rfl rfl rfl)
  | goneUncorrected => exact .inl (externallyDeleted_carries.of_same rfl rfl rfl)
  | uncorrected => exact .inl (fail_carries.of_same rfl rfl rfl)
  | waiting => exact .inl (notReady_carries.of_same rfl rfl rfl)
  | unconnected => exact .inl (fail_carries.of_same rfl rfl rfl)
  | converged => exact .inr ⟨_, _, rfl⟩

/-- A pass that comes by a resource changes at most what it says that it did. -/
theorem obtain_subject {id : String} {q : Pass R} (course : ObtainCourse p t (.ok (id, q))) :
    ∃ mutation, q = { p with mutation := mutation } := by
  cases course with
  | created => exact ⟨_, rfl⟩
  | adopted => exact ⟨_, rfl⟩
  | conformed => exact ⟨_, rfl⟩

/-- A look at a resource that was just accepted converges with everything applied, or hands on what
the pass holds. -/
theorem accepted_carries {id : String} {mutation : Option Mutation}
    (course : LookCourse (({ p.beginOperation with mutation := mutation }).accept id fingerprint)
      .afterMutation t o) :
    p.Carries o ∨ p.Reaches fingerprint o := by
  rcases look_carries course with carries | ⟨state, info, rfl⟩
  · exact .inl (carries.of_same rfl rfl rfl)
  · exact .inr (.intro rfl rfl rfl rfl rfl fun _ => rfl)

/-- A step of a living record converges with everything applied, or hands on what its pass holds.
A pass that rests has to be planned for a resource to which everything is applied. -/
theorem step_carries (course : StepCourse p fingerprint t o)
    (planned : p.step = .awaitReady ∨ p.step = .observe →
      p.status.id.isSome = true ∧ p.status.observedGeneration = some p.subject.generation ∧
        (fingerprint.isSome = true → fingerprint = p.status.sourceFingerprint)) :
    p.Carries o ∨ p.Reaches fingerprint o := by
  have failing (e : OperatorError) : p.Carries (p.beginOperation.fail e) :=
    fail_carries.of_same rfl rfl rfl
  cases course with
  | looked step look =>
      rcases look_carries look with carries | ⟨state, info, rfl⟩
      · exact .inl carries
      · obtain ⟨known, observed, resourced⟩ := planned step
        exact .inr (.intro rfl rfl rfl known observed resourced)
  | unready => exact .inl (failing _)
  | uncreated => exact .inl (failing _)
  | created step obtained look =>
      obtain ⟨mutation, rfl⟩ := obtain_subject obtained
      exact accepted_carries look
  | goneUnchanged => exact .inl (externallyDeleted_carries.of_same rfl rfl rfl)
  | unchanged => exact .inl (failing _)
  | changed step look => exact accepted_carries look
  | undeleted => exact .inl (failing _)
  | unconfirmed => exact .inl (failing _)
  | lingering => exact .inl (failing _)
  | unreplaced => exact .inl (failing _)
  | replaced step accepted absent obtained look =>
      obtain ⟨mutation, rfl⟩ := obtain_subject obtained
      exact accepted_carries look

/-! ## The course of a deletion -/

/-- A deletion keeps to its step and returns no connection info. -/
theorem delete_keeps (course : DeleteCourse p t o) :
    o.step = p.step ∧ o.connectionInfo = p.connectionInfo := by
  cases course with
  | undeleted => exact ⟨deleteFailed_carries.step, deleteFailed_carries.connectionInfo⟩
  | unconfirmed => exact ⟨deleteFailed_carries.step, deleteFailed_carries.connectionInfo⟩
  | confirmed => exact ⟨rfl, rfl⟩
  | overdue => exact ⟨rfl, rfl⟩
  | lingering => exact ⟨rfl, rfl⟩

/-- A deletion releases the finalizer exactly when the resource is seen to be gone. -/
theorem delete_removeFinalizer_iff (held : p.removeFinalizer = false)
    (course : DeleteCourse p t o) :
    o.removeFinalizer = true ↔ ∃ answer e,
      t = [.deleted p.status.id answer, .got p.status.id (.error e)] ∧
        DeleteAccepted answer ∧ e.isNotFound = true := by
  have held : p.beginDeletion.removeFinalizer = false := held
  -- Two courses end in a get that fails; they differ in whether the error is an absence.
  cases course with
  | undeleted present =>
      rw [deleteFailed_carries.removeFinalizer, held]
      simp
  | unconfirmed accepted present =>
      rw [deleteFailed_carries.removeFinalizer, held]
      refine iff_of_false Bool.false_ne_true ?_
      rintro ⟨answer, e, same, -, absent⟩
      cases same
      simp [present] at absent
  | confirmed accepted absent =>
      exact iff_of_true rfl ⟨_, _, rfl, accepted, absent⟩
  | overdue accepted late =>
      refine iff_of_false (Bool.eq_false_iff.mp held) ?_
      rintro ⟨answer, e, same, -, absent⟩
      cases same
  | lingering accepted early =>
      refine iff_of_false (Bool.eq_false_iff.mp held) ?_
      rintro ⟨answer, e, same, -, absent⟩
      cases same

end Pass

/-! ## Whole passes -/

variable {R : Type} {profile : Profile R} {subject : Subject} {settings : Settings}
  {now : Instant} {t : List (Entry R)} {o : Outcome}

/-- A pass takes the step that is planned, without a source secret or with the one that it finds. -/
theorem Pass.ReconcileCourse.planned (course : ReconcileCourse profile subject settings now t o) :
    ∃ fingerprint, o.step = subject.plan fingerprint profile.requiresReplace := by
  cases course with
  | deleting requested course =>
      refine ⟨none, ?_⟩
      rw [(delete_keeps course).1, Subject.plan_eq_delete_iff.mpr requested]
      rfl
  | blocked alive blocks =>
      refine ⟨none, ?_⟩
      rw [Subject.plan_eq_blocked_iff.mpr ⟨alive, blocks⟩]
      rfl
  | unresourced alive free begun =>
      subst begun
      refine ⟨none, ?_⟩
      split <;> exact fail_carries.step
  | lived alive free course =>
      exact ⟨_, (step_carries course plan_rests).elim Carries.step Reaches.step⟩

/-- A pass over a record that lives on takes another step than the one that deletes, releases
nothing, and returns connection info only when it converges with everything applied. -/
theorem Pass.ReconcileCourse.living (course : ReconcileCourse profile subject settings now t o)
    (alive : subject.deletionRequested = false) :
    o.step ≠ .delete ∧ o.removeFinalizer = false ∧
      (o.connectionInfo = none ∨ ∃ fingerprint rest step,
        t = .fingerprinted (.ok fingerprint) :: rest ∧
          (start profile subject settings now step).Reaches fingerprint o) := by
  have notDelete : o.step ≠ .delete := by
    obtain ⟨fingerprint, planned⟩ := course.planned
    rw [planned]
    intro deletes
    simp [Subject.plan_eq_delete_iff.mp deletes] at alive
  refine ⟨notDelete, ?_⟩
  cases course with
  | deleting requested => simp [requested] at alive
  | blocked => exact ⟨rfl, .inl rfl⟩
  | unresourced alive free begun =>
      subst begun
      split <;> exact ⟨fail_carries.removeFinalizer, .inl fail_carries.connectionInfo⟩
  | @lived fingerprint rest o alive free course =>
      rcases step_carries course plan_rests with carries | reaches
      · exact ⟨carries.removeFinalizer, .inl carries.connectionInfo⟩
      · exact ⟨reaches.removeFinalizer, .inr ⟨fingerprint, rest, _, rfl, reaches⟩⟩

/-- A pass that changes the resource reads the source secret and asks for the preconditions before
it does anything else, and fails where one of them fails. -/
theorem Pass.ReconcileCourse.changing (course : ReconcileCourse profile subject settings now t o)
    (changes : o.step.isMutation = true) :
    (∃ e, o = (start profile subject settings now o.step).beginOperation.fail e ∧
      (t = [.fingerprinted (.error e)] ∨
        ∃ fingerprint, t = [.fingerprinted (.ok fingerprint), .checked (.error e)])) ∨
    ∃ fingerprint rest, t = .fingerprinted (.ok fingerprint) :: .checked (.ok ()) :: rest := by
  cases course with
  | deleting requested course =>
      have deletes : o.step = .delete := (delete_keeps course).1
      simp [deletes, Step.isMutation] at changes
  | blocked => cases changes
  | @unresourced p e alive free begun =>
      have kept : ((if p.step.isMutation then p.beginOperation else p).fail e).step = p.step := by
        split <;> exact fail_carries.step
      rw [kept] at changes ⊢
      subst begun
      rw [if_pos changes]
      exact .inl ⟨e, rfl, .inl rfl⟩
  | lived alive free course =>
      have kept := (step_carries course plan_rests).elim Carries.step Reaches.step
      rw [kept] at changes ⊢
      rcases course.checks changes with ⟨e, rfl, rfl⟩ | ⟨rest, rfl⟩
      · exact .inl ⟨e, rfl, .inr ⟨_, rfl⟩⟩
      · exact .inr ⟨_, rest, rfl⟩

/-- **The finalizer is released only on confirmed absence.**  A pass releases it if and only if it
deletes, the delete is accepted or met nothing, and the get that follows finds nothing. -/
theorem removeFinalizer_iff (yields : (reconcileOnce profile subject settings now).Yields t o) :
    o.removeFinalizer = true ↔ o.step = .delete ∧ ∃ answer e,
      t = [.deleted subject.status.id answer, .got subject.status.id (.error e)] ∧
        DeleteAccepted answer ∧ e.isNotFound = true := by
  have course := reconcileOnce_course yields
  cases alive : subject.deletionRequested with
  | false =>
      obtain ⟨notDelete, kept, -⟩ := course.living alive
      simp [notDelete, kept]
  | true =>
      have deletion := course.deletion alive
      have deletes : o.step = .delete := (Pass.delete_keeps deletion).1
      rw [Pass.delete_removeFinalizer_iff rfl deletion]
      simp only [deletes, true_and]
      rfl

end ServiceOperator
