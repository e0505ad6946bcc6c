import ServiceOperator.Proofs.Pass.Plan
import ServiceOperator.Proofs.Program.Yields

/-!
# The courses of a pass

A pass makes a handful of calls, and every answer may end it.  The relations of this module list the
courses that a pass can take: the calls that it has made with their answers, and the outcome that it
ends in, one constructor for each exit.  They are stated without the program, so that a law of the
pass is proved by one case for each course and never by opening `reconcileOnce` again.

* `LookCourse` is a look at the resource, `ObtainCourse` an attempt to come by one, `StepCourse` a
  step of a record that lives on, `DeleteCourse` the step that deletes.
* `ReconcileCourse` is a whole pass, and `reconcileOnce_course` says that a pass takes no other.

The outcomes are written with the exits of `Pass`; what an exit does to the status is a matter of
`Proofs.Pass.Exits`.

### Why relations

The engine is a program with questions to an adapter, and `Program.Yields` says which answers lead
it where.  To prove something of it directly is to take the program apart at every question, with
the same case splits each time.  A relation is the result of doing so once: its constructors have
the answers that lead to them as arguments, so that `cases` on a course is the case split.  Only one
direction is proved: every pass takes a course of the list.  That each course of the list is taken
by some pass is nothing that a law about all of them needs.
-/

namespace ServiceOperator

namespace Calls

/-- A call with its answer. -/
abbrev Entry (R : Type) := Sigma (Call.Answer (R := R))

namespace Entry

variable {R : Type}

/-- The fingerprint of the source secret, asked for. -/
abbrev fingerprinted (answer : Except OperatorError (Option String)) : Entry R :=
  ⟨.sourceFingerprint, answer⟩

/-- The preconditions, asked for. -/
abbrev checked (answer : Except OperatorError Unit) : Entry R := ⟨.checkPreconditions, answer⟩

/-- A create. -/
abbrev created (answer : Except OperatorError String) : Entry R := ⟨.create, answer⟩

/-- An update. -/
abbrev updated (id : String) (answer : Except OperatorError Unit) : Entry R := ⟨.update id, answer⟩

/-- A get. -/
abbrev got (id : Option String) (answer : Except OperatorError R) : Entry R := ⟨.get id, answer⟩

/-- A delete. -/
abbrev deleted (id : Option String) (answer : Except OperatorError Unit) : Entry R :=
  ⟨.delete id, answer⟩

/-- The connection info of a resource, asked for. -/
abbrev connected (remote : R) (answer : Except OperatorError ConnectionInfo) : Entry R :=
  ⟨.connectionInfo remote, answer⟩

end Entry

/-- The answer to a delete does not stand in the way: the resource is deleted, or was absent. -/
def DeleteAccepted (answer : Except OperatorError Unit) : Prop :=
  ∀ e, answer = .error e → e.isNotFound = true

@[simp] theorem deleteAccepted_ok : DeleteAccepted (.ok ()) := by
  intro e h
  cases h

@[simp] theorem deleteAccepted_error {e : OperatorError} :
    DeleteAccepted (.error e) ↔ e.isNotFound = true := by
  simp [DeleteAccepted]

end Calls

namespace Pass

open Calls (Entry DeleteAccepted)

variable {R : Type}

/-- The pass once it has seen the resource in a state. -/
def sawState (p : Pass R) (state : String) : Pass R :=
  { p with status := { p.status with state := some state } }

/-- The pass once it has begun to delete. -/
def beginDeletion (p : Pass R) : Pass R :=
  { p with status := { p.status with
      deletionStartedAt := some (p.status.deletionStartedAt.getD p.stamp) } }.setRunning
    false .deleting "deleting external resource"

/-- The error of a create that met a resource which does not fit. -/
def adoptionRefusal (p : Pass R) (remote : R) : OperatorError :=
  .adoptionRefused p.subject.describe ("an existing resource in state " ++
    p.profile.observedState remote ++ " does not match the declared spec")

/-- The error of a replacement whose old resource is still there. -/
def oldResourceError (p : Pass R) : OperatorError :=
  .retryLater 409 ("previous " ++ p.subject.kind ++ " " ++ p.status.id.getD "" ++
    " is still being deleted")

/-! ## Looking at the resource -/

/-- How a look at the resource goes. -/
inductive LookCourse (p : Pass R) (look : Look) : List (Entry R) → Outcome → Prop
  /-- A resource that was there before is gone. -/
  | gone {e : OperatorError} (absent : e.isNotFound = true) (rest : look = .atRest) :
      LookCourse p look [.got p.status.id (.error e)] p.externallyDeleted
  /-- A resource that was just changed does not show yet. -/
  | unseen {e : OperatorError} (absent : e.isNotFound = true) (fresh : look = .afterMutation) :
      LookCourse p look [.got p.status.id (.error e)]
        (p.notReady "waiting for the external resource to appear")
  | unread {e : OperatorError} (present : e.isNotFound = false) :
      LookCourse p look [.got p.status.id (.error e)] (p.fail e)
  | corrected {remote : R} (rest : look = .atRest) (drifted : p.profile.needsUpdate remote = true) :
      LookCourse p look
        [.got p.status.id (.ok remote), .updated (p.status.id.getD "") (.ok ())]
        (((p.sawState (p.profile.observedState remote)).beginOperation.mark .updated).notReady
          "correcting drift of the external resource")
  | goneUncorrected {remote : R} {e : OperatorError} (rest : look = .atRest)
      (drifted : p.profile.needsUpdate remote = true) (absent : e.isNotFound = true) :
      LookCourse p look
        [.got p.status.id (.ok remote), .updated (p.status.id.getD "") (.error e)]
        (p.sawState (p.profile.observedState remote)).beginOperation.externallyDeleted
  | uncorrected {remote : R} {e : OperatorError} (rest : look = .atRest)
      (drifted : p.profile.needsUpdate remote = true) (present : e.isNotFound = false) :
      LookCourse p look
        [.got p.status.id (.ok remote), .updated (p.status.id.getD "") (.error e)]
        ((p.sawState (p.profile.observedState remote)).beginOperation.fail e)
  | waiting {remote : R} (steady : look = .atRest → p.profile.needsUpdate remote = false)
      (unready : p.profile.isReady remote = false) :
      LookCourse p look [.got p.status.id (.ok remote)]
        ((p.sawState (p.profile.observedState remote)).notReady
          ("external state is " ++ p.profile.observedState remote))
  | unconnected {remote : R} {e : OperatorError}
      (steady : look = .atRest → p.profile.needsUpdate remote = false)
      (ready : p.profile.isReady remote = true) :
      LookCourse p look [.got p.status.id (.ok remote), .connected remote (.error e)]
        ((p.sawState (p.profile.observedState remote)).fail e)
  | converged {remote : R} {info : ConnectionInfo}
      (steady : look = .atRest → p.profile.needsUpdate remote = false)
      (ready : p.profile.isReady remote = true) :
      LookCourse p look [.got p.status.id (.ok remote), .connected remote (.ok info)]
        ((p.sawState (p.profile.observedState remote)).converged info
          (p.profile.observedState remote))

/-- A look at the resource takes one of its courses. -/
theorem converge_course {p : Pass R} {look : Look} {t : List (Entry R)} {o : Outcome}
    (yields : (p.converge look).Yields t o) : LookCourse p look t o := by
  obtain ⟨answer, rest, rfl, h⟩ := Program.yields_question_bind.mp yields
  cases answer with
  | error e =>
      cases absent : e.isNotFound with
      | false =>
          simp only [absent] at h
          obtain ⟨rfl, rfl⟩ := Program.yields_done.mp h
          exact .unread absent
      | true =>
          simp only [absent] at h
          cases look with
          | atRest =>
              obtain ⟨rfl, rfl⟩ := Program.yields_done.mp h
              exact .gone absent rfl
          | afterMutation =>
              obtain ⟨rfl, rfl⟩ := Program.yields_done.mp h
              exact .unseen absent rfl
  | ok remote =>
      by_cases drift : look = .atRest ∧ p.profile.needsUpdate remote = true
      · simp only [drift, and_self, if_true] at h
        obtain ⟨answer, rest, rfl, ending⟩ := Program.yields_question_bind.mp h
        cases answer with
        | ok u =>
            obtain ⟨rfl, rfl⟩ := Program.yields_done.mp ending
            exact .corrected drift.1 drift.2
        | error e =>
            obtain ⟨rfl, rfl⟩ := Program.yields_done.mp ending
            cases absent : e.isNotFound with
            | true => exact .goneUncorrected drift.1 drift.2 absent
            | false => exact .uncorrected drift.1 drift.2 absent
      · have steady : look = .atRest → p.profile.needsUpdate remote = false := by
          intro rest
          exact Bool.eq_false_iff.mpr fun drifted => drift ⟨rest, drifted⟩
        simp only [if_neg drift] at h
        cases ready : p.profile.isReady remote with
        | false =>
            simp only [ready] at h
            obtain ⟨rfl, rfl⟩ := Program.yields_done.mp h
            exact .waiting steady ready
        | true =>
            simp only [ready] at h
            obtain ⟨answer, rest, rfl, ending⟩ := Program.yields_question_bind.mp h
            cases answer with
            | error e =>
                obtain ⟨rfl, rfl⟩ := Program.yields_done.mp ending
                exact .unconnected steady ready
            | ok info =>
                obtain ⟨rfl, rfl⟩ := Program.yields_done.mp ending
                exact .converged steady ready

/-! ## Coming by a resource -/

/-- How an attempt to create a resource, or to take over an existing one, goes. -/
inductive ObtainCourse (p : Pass R) :
    List (Entry R) → Except OperatorError (String × Pass R) → Prop
  | created {id : String} : ObtainCourse p [.created (.ok id)] (.ok (id, p.mark .created))
  | refused {e : OperatorError} (fresh : e.isAlreadyExists = false) :
      ObtainCourse p [.created (.error e)] (.error e)
  /-- The resource that the create met cannot be read. -/
  | unread {met e : OperatorError} (taken : met.isAlreadyExists = true) :
      ObtainCourse p [.created (.error met), .got none (.error e)] (.error e)
  | foreign {met : OperatorError} {remote : R} (taken : met.isAlreadyExists = true)
      (differs : p.profile.matchesExisting remote = false) :
      ObtainCourse p [.created (.error met), .got none (.ok remote)]
        (.error (p.adoptionRefusal remote))
  | adopted {met : OperatorError} {remote : R} (taken : met.isAlreadyExists = true)
      (fits : p.profile.matchesExisting remote = true) (server : p.profile.identity = .server) :
      ObtainCourse p [.created (.error met), .got none (.ok remote)]
        (.ok (p.profile.remoteId remote, p))
  | conformed {met : OperatorError} {remote : R} (taken : met.isAlreadyExists = true)
      (fits : p.profile.matchesExisting remote = true) (named : p.profile.identity = .name) :
      ObtainCourse p
        [.created (.error met), .got none (.ok remote),
          .updated (p.profile.remoteId remote) (.ok ())]
        (.ok (p.profile.remoteId remote, p.mark .updated))
  | unconformed {met e : OperatorError} {remote : R} (taken : met.isAlreadyExists = true)
      (fits : p.profile.matchesExisting remote = true) (named : p.profile.identity = .name) :
      ObtainCourse p
        [.created (.error met), .got none (.ok remote),
          .updated (p.profile.remoteId remote) (.error e)]
        (.error e)

/-- An attempt to come by a resource takes one of its courses. -/
theorem createOrAdopt_course {p : Pass R} {t : List (Entry R)}
    {result : Except OperatorError (String × Pass R)} (yields : p.createOrAdopt.Yields t result) :
    ObtainCourse p t result := by
  obtain ⟨answer, rest, rfl, afterCreate⟩ := Program.yields_question_bind.mp yields
  cases answer with
  | ok id =>
      obtain ⟨rfl, rfl⟩ := Program.yields_done.mp afterCreate
      exact .created
  | error met =>
      cases taken : met.isAlreadyExists with
      | false =>
          simp only [taken] at afterCreate
          obtain ⟨rfl, rfl⟩ := Program.yields_done.mp afterCreate
          exact .refused taken
      | true =>
          simp only [taken, if_true] at afterCreate
          obtain ⟨answer, rest, rfl, afterGet⟩ := Program.yields_question_bind.mp afterCreate
          cases answer with
          | error e =>
              obtain ⟨rfl, rfl⟩ := Program.yields_done.mp afterGet
              exact .unread taken
          | ok remote =>
              cases fits : p.profile.matchesExisting remote with
              | false =>
                  simp only [fits] at afterGet
                  obtain ⟨rfl, rfl⟩ := Program.yields_done.mp afterGet
                  exact .foreign taken fits
              | true =>
                  simp only [fits, if_true] at afterGet
                  -- A resource with an assigned id is taken as it is, one with the name is made to
                  -- fit.
                  cases identity : p.profile.identity with
                  | server =>
                      simp only [identity] at afterGet
                      obtain ⟨rfl, rfl⟩ := Program.yields_done.mp afterGet
                      exact .adopted taken fits identity
                  | name =>
                      simp only [identity] at afterGet
                      obtain ⟨answer, rest, rfl, ending⟩ :=
                        Program.yields_question_bind.mp afterGet
                      cases answer with
                      | error e =>
                          obtain ⟨rfl, rfl⟩ := Program.yields_done.mp ending
                          exact .unconformed taken fits identity
                      | ok u =>
                          obtain ⟨rfl, rfl⟩ := Program.yields_done.mp ending
                          exact .conformed taken fits identity

/-! ## The steps of a record that lives -/

/-- How a step of a record that lives on goes, the blocked one apart. -/
inductive StepCourse (p : Pass R) (fingerprint : Option String) : List (Entry R) → Outcome → Prop
  | looked {t : List (Entry R)} {o : Outcome} (step : p.step = .awaitReady ∨ p.step = .observe)
      (look : LookCourse p .atRest t o) : StepCourse p fingerprint t o
  | unready {e : OperatorError} (mutates : p.step.isMutation = true) :
      StepCourse p fingerprint [.checked (.error e)] (p.beginOperation.fail e)
  | uncreated {t : List (Entry R)} {e : OperatorError} (step : p.step = .create)
      (obtain : ObtainCourse p.beginOperation t (.error e)) :
      StepCourse p fingerprint (.checked (.ok ()) :: t) (p.beginOperation.fail e)
  | created {first second : List (Entry R)} {id : String} {q : Pass R} {o : Outcome}
      (step : p.step = .create) (obtain : ObtainCourse p.beginOperation first (.ok (id, q)))
      (look : LookCourse (q.accept id fingerprint) .afterMutation second o) :
      StepCourse p fingerprint (.checked (.ok ()) :: (first ++ second)) o
  | goneUnchanged {e : OperatorError} (step : p.step = .update) (absent : e.isNotFound = true) :
      StepCourse p fingerprint
        [.checked (.ok ()), .updated (p.status.id.getD "") (.error e)]
        p.beginOperation.externallyDeleted
  | unchanged {e : OperatorError} (step : p.step = .update) (present : e.isNotFound = false) :
      StepCourse p fingerprint
        [.checked (.ok ()), .updated (p.status.id.getD "") (.error e)]
        (p.beginOperation.fail e)
  | changed {t : List (Entry R)} {o : Outcome} (step : p.step = .update)
      (look : LookCourse ((p.beginOperation.mark .updated).accept (p.status.id.getD "") fingerprint)
        .afterMutation t o) :
      StepCourse p fingerprint
        (.checked (.ok ()) :: .updated (p.status.id.getD "") (.ok ()) :: t) o
  /-- The old resource cannot be deleted. -/
  | undeleted {e : OperatorError} (step : p.step = .replace) (present : e.isNotFound = false) :
      StepCourse p fingerprint [.checked (.ok ()), .deleted p.status.id (.error e)]
        (p.beginOperation.fail e)
  /-- Whether the old resource is gone cannot be read. -/
  | unconfirmed {answer : Except OperatorError Unit} {e : OperatorError} (step : p.step = .replace)
      (accepted : DeleteAccepted answer) (present : e.isNotFound = false) :
      StepCourse p fingerprint
        [.checked (.ok ()), .deleted p.status.id answer, .got p.status.id (.error e)]
        (p.beginOperation.fail e)
  /-- The old resource is still there. -/
  | lingering {answer : Except OperatorError Unit} {remote : R} (step : p.step = .replace)
      (accepted : DeleteAccepted answer) :
      StepCourse p fingerprint
        [.checked (.ok ()), .deleted p.status.id answer, .got p.status.id (.ok remote)]
        (p.beginOperation.fail p.beginOperation.oldResourceError)
  | unreplaced {answer : Except OperatorError Unit} {gone e : OperatorError} {t : List (Entry R)}
      (step : p.step = .replace) (accepted : DeleteAccepted answer)
      (absent : gone.isNotFound = true) (obtain : ObtainCourse p.beginOperation t (.error e)) :
      StepCourse p fingerprint
        (.checked (.ok ()) :: .deleted p.status.id answer :: .got p.status.id (.error gone) :: t)
        (p.beginOperation.fail e)
  | replaced {answer : Except OperatorError Unit} {gone : OperatorError}
      {first second : List (Entry R)} {id : String} {q : Pass R} {o : Outcome}
      (step : p.step = .replace) (accepted : DeleteAccepted answer)
      (absent : gone.isNotFound = true)
      (obtain : ObtainCourse p.beginOperation first (.ok (id, q)))
      (look : LookCourse ((q.mark .replaced).accept id fingerprint) .afterMutation second o) :
      StepCourse p fingerprint
        (.checked (.ok ()) :: .deleted p.status.id answer :: .got p.status.id (.error gone) ::
          (first ++ second)) o

/-- A step that rests is a look. -/
theorem StepCourse.look {p : Pass R} {fingerprint : Option String} {t : List (Entry R)}
    {o : Outcome} (course : StepCourse p fingerprint t o)
    (rests : p.step = .awaitReady ∨ p.step = .observe) : LookCourse p .atRest t o := by
  cases course with
  | looked step look => exact look
  | unready mutates => rcases rests with step | step <;> simp [step, Step.isMutation] at mutates
  | uncreated step => simp [step] at rests
  | created step => simp [step] at rests
  | goneUnchanged step => simp [step] at rests
  | unchanged step => simp [step] at rests
  | changed step => simp [step] at rests
  | undeleted step => simp [step] at rests
  | unconfirmed step => simp [step] at rests
  | lingering step => simp [step] at rests
  | unreplaced step => simp [step] at rests
  | replaced step => simp [step] at rests

/-- A step that changes the resource asks for the preconditions first, and goes on only when they
hold. -/
theorem StepCourse.checks {p : Pass R} {fingerprint : Option String} {t : List (Entry R)}
    {o : Outcome} (course : StepCourse p fingerprint t o) (mutates : p.step.isMutation = true) :
    (∃ e, t = [.checked (.error e)] ∧ o = p.beginOperation.fail e) ∨
      ∃ rest, t = .checked (.ok ()) :: rest := by
  cases course with
  | looked step => rcases step with step | step <;> simp [step, Step.isMutation] at mutates
  | unready => exact .inl ⟨_, rfl, rfl⟩
  | uncreated => exact .inr ⟨_, rfl⟩
  | created => exact .inr ⟨_, rfl⟩
  | goneUnchanged => exact .inr ⟨_, rfl⟩
  | unchanged => exact .inr ⟨_, rfl⟩
  | changed => exact .inr ⟨_, rfl⟩
  | undeleted => exact .inr ⟨_, rfl⟩
  | unconfirmed => exact .inr ⟨_, rfl⟩
  | lingering => exact .inr ⟨_, rfl⟩
  | unreplaced => exact .inr ⟨_, rfl⟩
  | replaced => exact .inr ⟨_, rfl⟩

/-- An operation ends at its preconditions or goes on behind them. -/
theorem whenReady_course {p : Pass R} {go : Pass R → Calls R Outcome} {t : List (Entry R)}
    {o : Outcome} (yields : (p.whenReady go).Yields t o) :
    (∃ e, t = [.checked (.error e)] ∧ o = p.beginOperation.fail e) ∨
      ∃ rest, t = .checked (.ok ()) :: rest ∧ (go p.beginOperation).Yields rest o := by
  obtain ⟨answer, rest, rfl, afterCheck⟩ := Program.yields_question_bind.mp yields
  cases answer with
  | error e =>
      obtain ⟨rfl, rfl⟩ := Program.yields_done.mp afterCheck
      exact .inl ⟨e, rfl, rfl⟩
  | ok u => exact .inr ⟨rest, rfl, afterCheck⟩

/-- A step that creates takes a course of a step that creates. -/
theorem create_course {p : Pass R} {fingerprint : Option String} {t : List (Entry R)}
    {o : Outcome} (step : p.step = .create) (yields : (p.create fingerprint).Yields t o) :
    StepCourse p fingerprint t o := by
  rcases whenReady_course yields with ⟨e, rfl, rfl⟩ | ⟨rest, rfl, afterCheck⟩
  · exact .unready (by rw [step]; rfl)
  · obtain ⟨first, result, second, rfl, obtained, afterObtain⟩ := Program.yields_bind.mp afterCheck
    cases result with
    | error e =>
        obtain ⟨rfl, rfl⟩ := Program.yields_done.mp afterObtain
        rw [List.append_nil]
        exact .uncreated step (createOrAdopt_course obtained)
    | ok taken =>
        obtain ⟨id, q⟩ := taken
        exact .created step (createOrAdopt_course obtained) (converge_course afterObtain)

/-- A step that updates takes a course of a step that updates. -/
theorem update_course {p : Pass R} {fingerprint : Option String} {t : List (Entry R)}
    {o : Outcome} (step : p.step = .update) (yields : (p.update fingerprint).Yields t o) :
    StepCourse p fingerprint t o := by
  rcases whenReady_course yields with ⟨e, rfl, rfl⟩ | ⟨rest, rfl, afterCheck⟩
  · exact .unready (by rw [step]; rfl)
  · obtain ⟨answer, rest, rfl, afterUpdate⟩ := Program.yields_question_bind.mp afterCheck
    cases answer with
    | ok u => exact .changed step (converge_course afterUpdate)
    | error e =>
        obtain ⟨rfl, rfl⟩ := Program.yields_done.mp afterUpdate
        cases absent : e.isNotFound with
        | true => exact .goneUnchanged step absent
        | false => exact .unchanged step absent

/-- What follows once the old resource of a replacement is deleted. -/
theorem replace_confirm_course {p : Pass R} {fingerprint : Option String} {t : List (Entry R)}
    {o : Outcome} {answer : Except OperatorError Unit} (step : p.step = .replace)
    (accepted : DeleteAccepted answer)
    (yields : (replace.confirm fingerprint p.beginOperation p.status.id).Yields t o) :
    StepCourse p fingerprint (.checked (.ok ()) :: .deleted p.status.id answer :: t) o := by
  obtain ⟨answer, rest, rfl, afterGet⟩ := Program.yields_question_bind.mp yields
  cases answer with
  | ok remote =>
      obtain ⟨rfl, rfl⟩ := Program.yields_done.mp afterGet
      exact .lingering step accepted
  | error gone =>
      cases absent : gone.isNotFound with
      | false =>
          simp only [absent] at afterGet
          obtain ⟨rfl, rfl⟩ := Program.yields_done.mp afterGet
          exact .unconfirmed step accepted absent
      | true =>
          simp only [absent, if_true] at afterGet
          obtain ⟨first, result, second, rfl, obtained, afterObtain⟩ :=
            Program.yields_bind.mp afterGet
          cases result with
          | error e =>
              obtain ⟨rfl, rfl⟩ := Program.yields_done.mp afterObtain
              rw [List.append_nil]
              exact .unreplaced step accepted absent (createOrAdopt_course obtained)
          | ok taken =>
              obtain ⟨id, q⟩ := taken
              exact .replaced step accepted absent (createOrAdopt_course obtained)
                (converge_course afterObtain)

/-- A step that replaces takes a course of a step that replaces. -/
theorem replace_course {p : Pass R} {fingerprint : Option String} {t : List (Entry R)}
    {o : Outcome} (step : p.step = .replace) (yields : (p.replace fingerprint).Yields t o) :
    StepCourse p fingerprint t o := by
  rcases whenReady_course yields with ⟨e, rfl, rfl⟩ | ⟨rest, rfl, afterCheck⟩
  · exact .unready (by rw [step]; rfl)
  · obtain ⟨answer, rest, rfl, afterDelete⟩ := Program.yields_question_bind.mp afterCheck
    cases answer with
    | ok u => exact replace_confirm_course step Calls.deleteAccepted_ok afterDelete
    | error e =>
        cases absent : e.isNotFound with
        | true =>
            simp only [absent, if_true] at afterDelete
            exact replace_confirm_course step (Calls.deleteAccepted_error.mpr absent) afterDelete
        | false =>
            simp only [absent] at afterDelete
            obtain ⟨rfl, rfl⟩ := Program.yields_done.mp afterDelete
            exact .undeleted step absent

/-! ## The step that deletes -/

/-- How the step that deletes goes. -/
inductive DeleteCourse (p : Pass R) : List (Entry R) → Outcome → Prop
  | undeleted {e : OperatorError} (present : e.isNotFound = false) :
      DeleteCourse p [.deleted p.status.id (.error e)] (p.beginDeletion.deleteFailed e)
  /-- Whether the resource is gone cannot be read. -/
  | unconfirmed {answer : Except OperatorError Unit} {e : OperatorError}
      (accepted : DeleteAccepted answer) (present : e.isNotFound = false) :
      DeleteCourse p [.deleted p.status.id answer, .got p.status.id (.error e)]
        (p.beginDeletion.deleteFailed e)
  | confirmed {answer : Except OperatorError Unit} {e : OperatorError}
      (accepted : DeleteAccepted answer) (absent : e.isNotFound = true) :
      DeleteCourse p [.deleted p.status.id answer, .got p.status.id (.error e)]
        ({ p.beginDeletion.mark .deleted with removeFinalizer := true }.finish .awaitChange)
  | overdue {answer : Except OperatorError Unit} {remote : R} (accepted : DeleteAccepted answer)
      (late : p.beginDeletion.deletionTimedOut = true) :
      DeleteCourse p [.deleted p.status.id answer, .got p.status.id (.ok remote)]
        ((p.beginDeletion.sawState (p.profile.observedState remote)).deletionTimeout
          ("external resource still present in state " ++ p.profile.observedState remote))
  | lingering {answer : Except OperatorError Unit} {remote : R} (accepted : DeleteAccepted answer)
      (early : p.beginDeletion.deletionTimedOut = false) :
      DeleteCourse p [.deleted p.status.id answer, .got p.status.id (.ok remote)]
        (((p.beginDeletion.sawState (p.profile.observedState remote)).setRunning false .deleting
          ("waiting for external deletion, state is " ++ p.profile.observedState remote)).finish
            (.after p.settings.pollInterval))

/-- A deletion makes one delete and at most one get, both with the id that is known. -/
theorem DeleteCourse.calls {p : Pass R} {t : List (Entry R)} {o : Outcome}
    (course : DeleteCourse p t o) :
    ∃ answer, t = [.deleted p.status.id answer] ∨
      ∃ found, t = [.deleted p.status.id answer, .got p.status.id found] := by
  cases course with
  | undeleted => exact ⟨_, .inl rfl⟩
  | unconfirmed => exact ⟨_, .inr ⟨_, rfl⟩⟩
  | confirmed => exact ⟨_, .inr ⟨_, rfl⟩⟩
  | overdue => exact ⟨_, .inr ⟨_, rfl⟩⟩
  | lingering => exact ⟨_, .inr ⟨_, rfl⟩⟩

/-- What follows once the resource is deleted. -/
theorem delete_confirm_course {p : Pass R} {t : List (Entry R)} {o : Outcome}
    {answer : Except OperatorError Unit} (accepted : DeleteAccepted answer)
    (yields : (delete.confirm p.beginDeletion).Yields t o) :
    DeleteCourse p (.deleted p.status.id answer :: t) o := by
  obtain ⟨answer, rest, rfl, afterGet⟩ := Program.yields_question_bind.mp yields
  cases answer with
  | error e =>
      cases absent : e.isNotFound with
      | true =>
          simp only [absent, if_true] at afterGet
          obtain ⟨rfl, rfl⟩ := Program.yields_done.mp afterGet
          exact .confirmed accepted absent
      | false =>
          simp only [absent] at afterGet
          obtain ⟨rfl, rfl⟩ := Program.yields_done.mp afterGet
          exact .unconfirmed accepted absent
  | ok remote =>
      -- The state that was seen has no part in the time that has passed.
      have clock : (p.beginDeletion.sawState (p.profile.observedState remote)).deletionTimedOut =
          p.beginDeletion.deletionTimedOut := rfl
      change Program.Yields (if (p.beginDeletion.sawState
        (p.profile.observedState remote)).deletionTimedOut then _ else _) _ _ at afterGet
      cases late : p.beginDeletion.deletionTimedOut with
      | true =>
          rw [clock, late] at afterGet
          obtain ⟨rfl, rfl⟩ := Program.yields_done.mp afterGet
          exact .overdue accepted late
      | false =>
          rw [clock, late] at afterGet
          obtain ⟨rfl, rfl⟩ := Program.yields_done.mp afterGet
          exact .lingering accepted late

/-- The step that deletes takes one of its courses. -/
theorem delete_course {p : Pass R} {t : List (Entry R)} {o : Outcome}
    (yields : p.delete.Yields t o) : DeleteCourse p t o := by
  obtain ⟨answer, rest, rfl, afterDelete⟩ := Program.yields_question_bind.mp yields
  cases answer with
  | ok u => exact delete_confirm_course Calls.deleteAccepted_ok afterDelete
  | error e =>
      cases absent : e.isNotFound with
      | true =>
          simp only [absent, if_true] at afterDelete
          exact delete_confirm_course (Calls.deleteAccepted_error.mpr absent) afterDelete
      | false =>
          simp only [absent] at afterDelete
          obtain ⟨rfl, rfl⟩ := Program.yields_done.mp afterDelete
          exact .undeleted absent

/-! ## A whole pass -/

/-- How a pass over a record goes. -/
inductive ReconcileCourse (profile : Profile R) (subject : Subject) (settings : Settings)
    (now : Instant) : List (Entry R) → Outcome → Prop
  | deleting {t : List (Entry R)} {o : Outcome} (requested : subject.deletionRequested = true)
      (course : DeleteCourse (start profile subject settings now .delete) t o) :
      ReconcileCourse profile subject settings now t o
  | blocked (alive : subject.deletionRequested = false)
      (blocks : subject.status.Blocks subject.generation) :
      ReconcileCourse profile subject settings now []
        ((start profile subject settings now .blocked).finish .awaitChange)
  /-- The source secret cannot be read.  The clock of the operation starts all the same if the pass
  would have changed the resource. -/
  | unresourced {p : Pass R} {e : OperatorError} (alive : subject.deletionRequested = false)
      (free : ¬ subject.status.Blocks subject.generation)
      (begun : p = start profile subject settings now (subject.plan none profile.requiresReplace)) :
      ReconcileCourse profile subject settings now [.fingerprinted (.error e)]
        ((if p.step.isMutation then p.beginOperation else p).fail e)
  | lived {fingerprint : Option String} {t : List (Entry R)} {o : Outcome}
      (alive : subject.deletionRequested = false)
      (free : ¬ subject.status.Blocks subject.generation)
      (course : StepCourse
        (start profile subject settings now (subject.plan fingerprint profile.requiresReplace))
        fingerprint t o) :
      ReconcileCourse profile subject settings now (.fingerprinted (.ok fingerprint) :: t) o

/-- A pass over a record that is being deleted is a deletion. -/
theorem ReconcileCourse.deletion {profile : Profile R} {subject : Subject} {settings : Settings}
    {now : Instant} {t : List (Entry R)} {o : Outcome}
    (course : ReconcileCourse profile subject settings now t o)
    (requested : subject.deletionRequested = true) :
    DeleteCourse (start profile subject settings now .delete) t o := by
  cases course with
  | deleting _ course => exact course
  | blocked alive => simp [requested] at alive
  | unresourced alive => simp [requested] at alive
  | lived alive => simp [requested] at alive

/-- The planned step of a record that lives on and is not blocked. -/
theorem take_course {p : Pass R} {fingerprint : Option String} {t : List (Entry R)} {o : Outcome}
    (alive : p.step ≠ .delete) (free : p.step ≠ .blocked)
    (yields : (p.take fingerprint).Yields t o) :
    StepCourse p fingerprint t o := by
  unfold take at yields
  split at yields
  case h_1 step => exact absurd step free
  case h_2 step => exact absurd step alive
  case h_3 step => exact create_course step yields
  case h_4 step => exact update_course step yields
  case h_5 step => exact replace_course step yields
  case h_6 step => exact .looked (.inl step) (converge_course yields)
  case h_7 step => exact .looked (.inr step) (converge_course yields)

end Pass

/-- A pass that neither deletes nor is blocked asks for the source secret first. -/
theorem reconcileOnce_of_free {R : Type} {profile : Profile R} {subject : Subject}
    {settings : Settings} {now : Instant}
    (alive : subject.plan none profile.requiresReplace ≠ .delete)
    (free : subject.plan none profile.requiresReplace ≠ .blocked) :
    reconcileOnce profile subject settings now = do
      match ← Calls.sourceFingerprint with
      | .ok fingerprint =>
        (Pass.start profile subject settings now
          (subject.plan fingerprint profile.requiresReplace)).take fingerprint
      | .error e =>
        let p := Pass.start profile subject settings now
          (subject.plan none profile.requiresReplace)
        return (if p.step.isMutation then p.beginOperation else p).fail e := by
  unfold reconcileOnce
  cases planned : subject.plan none profile.requiresReplace with
  | delete => exact absurd planned alive
  | blocked => exact absurd planned free
  | create => rfl
  | update => rfl
  | replace => rfl
  | awaitReady => rfl
  | observe => rfl

/-- **A pass takes one of its courses.** -/
theorem reconcileOnce_course {R : Type} {profile : Profile R} {subject : Subject}
    {settings : Settings} {now : Instant} {t : List (Calls.Entry R)} {o : Outcome}
    (yields : (reconcileOnce profile subject settings now).Yields t o) :
    Pass.ReconcileCourse profile subject settings now t o := by
  by_cases requested : subject.deletionRequested = true
  · have planned : subject.plan none profile.requiresReplace = .delete :=
      Subject.plan_eq_delete_iff.mpr requested
    simp only [reconcileOnce, planned] at yields
    exact .deleting requested (Pass.delete_course yields)
  have alive := Bool.eq_false_iff.mpr requested
  by_cases blocks : subject.status.Blocks subject.generation
  · have planned : subject.plan none profile.requiresReplace = .blocked :=
      Subject.plan_eq_blocked_iff.mpr ⟨alive, blocks⟩
    simp only [reconcileOnce, planned] at yields
    obtain ⟨rfl, rfl⟩ := Program.yields_done.mp yields
    exact .blocked alive blocks
  -- Neither of the two early steps is planned, whatever the source secret.
  have notDelete (fingerprint) : subject.plan fingerprint profile.requiresReplace ≠ .delete :=
    fun planned => requested (Subject.plan_eq_delete_iff.mp planned)
  have notBlocked (fingerprint) : subject.plan fingerprint profile.requiresReplace ≠ .blocked :=
    fun planned => blocks (Subject.plan_eq_blocked_iff.mp planned).2
  rw [reconcileOnce_of_free (notDelete none) (notBlocked none)] at yields
  obtain ⟨answer, rest, rfl, afterSecret⟩ := Program.yields_question_bind.mp yields
  cases answer with
  | error e =>
      obtain ⟨rfl, rfl⟩ := Program.yields_done.mp afterSecret
      exact .unresourced alive blocks rfl
  | ok fingerprint =>
      exact .lived alive blocks
        (Pass.take_course (notDelete fingerprint) (notBlocked fingerprint) afterSecret)

end ServiceOperator
