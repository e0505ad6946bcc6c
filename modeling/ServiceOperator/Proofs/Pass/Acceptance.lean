import ServiceOperator.Proofs.Pass.Application
import ServiceOperator.Proofs.Pass.Convergence

/-!
# What a status accounts for

Three fields of a status say together what is applied: the id of the resource, the generation of the
record and the fingerprint of the source secret.  They are the memory of the operator: what they say
is not applied again.  So a pass must not say more than it has done, however far it came before
something failed.

`Accounting` lists the three things that can become of this account, each with the calls that it
takes.  It is kept; or the pass acquired a resource, and then it is written as a whole, with the
fingerprint that was read at the start of the pass and not with one that was read later
(`Profile.acquired`); or the first thing that the pass found out is that the resource is gone
(`noticesAbsence`), and then the resource is forgotten and the fingerprint stays.  The correction of
drift is an update that acquires nothing.

The three exclude each other, and what stops a pass before it has acquired anything (`Thwarted`)
leaves only the first (`account_changes_as_earned`).

### Why the account is one triple

The three fields are written by one assignment of the engine and are read together, when a pass is
planned.  A law for each of them would have to repeat which calls belong to which change, so
`ResourceStatus.account` is the value that the cases of `Accounting` speak of, and the calls stand
in them once.  The cases are told apart by the calls alone (`Profile.acquired`, `noticesAbsence`),
without a look at the outcome, which is what makes the statement one about what was earned.
-/

namespace ServiceOperator

open Calls (Entry DeleteAccepted)

variable {R : Type}

/-- What a status says is applied: the resource, the generation of the record, and the source
secret. -/
def ResourceStatus.account (s : ResourceStatus) : Option String × Option Int × Option String :=
  (s.id, s.observedGeneration, s.sourceFingerprint)

/-! ## What the calls of a pass tell -/

/-- The last of some calls reports an absence, and no call before it changes anything. -/
def noticesAbsence (t : List (Entry R)) : Bool :=
  t.dropLast.all (fun entry => !entry.1.changes) && t.getLast?.any Entry.reportsAbsence

/-- An answer that stops a pass before it acquires a resource: the source secret cannot be read, a
precondition does not hold, or a resource cannot be deleted. -/
def Calls.Entry.thwarts : Entry R → Bool
  | ⟨.sourceFingerprint, .error _⟩ => true
  | ⟨.checkPreconditions, .error _⟩ => true
  | ⟨.delete _, .error e⟩ => !e.isNotFound
  | _ => false

/-- The id of a resource that an update has succeeded to change. -/
def Calls.Entry.updated? : Entry R → Option String
  | ⟨.update id, .ok ()⟩ => some id
  | _ => none

/-- The id of the resource that a pass acquired: in the step that updates the one that it updated,
and in any other step the one that it came by.  The correction of drift is no step of its own, and
acquires nothing. -/
def Profile.acquired (profile : Profile R) (step : Step) (t : List (Entry R)) : Option String :=
  if step = .update then t.findSome? Entry.updated? else profile.obtained t

/-- What becomes of the account that the status of a record gives. -/
inductive Accounting (profile : Profile R) (subject : Subject) (t : List (Entry R)) (o : Outcome) :
    Prop
  | kept (nothing : profile.acquired o.step t = none) (unnoticed : noticesAbsence t = false)
      (account : o.status.account = subject.status.account)
  /-- A resource is acquired, with what the source secret was at the start. -/
  | accepted {id : String} {fingerprint : Option String} {rest : List (Entry R)}
      (acquired : profile.acquired o.step t = some id)
      (read : t = .fingerprinted (.ok fingerprint) :: rest)
      (smooth : ∀ entry ∈ t, entry.thwarts = false)
      (account : o.status.account = (some id, some subject.generation, fingerprint))
  /-- The resource is gone. -/
  | forgotten (nothing : profile.acquired o.step t = none) (noticed : noticesAbsence t = true)
      (smooth : ∀ entry ∈ t, entry.thwarts = false)
      (account : o.status.account = (none, none, subject.status.sourceFingerprint))

/-- A pass was stopped before it acquired a resource. -/
inductive Thwarted (profile : Profile R) (t : List (Entry R)) (o : Outcome) : Prop
  /-- The source secret could not be read. -/
  | unread {e : OperatorError} (asked : .fingerprinted (.error e) ∈ t)
  /-- A precondition did not hold. -/
  | unready {e : OperatorError} (asked : .checked (.error e) ∈ t)
  /-- A delete failed. -/
  | undeleted {id : Option String} {e : OperatorError} (asked : .deleted id (.error e) ∈ t)
      (present : e.isNotFound = false)
  /-- A create failed, and so did the attempt to take over what it met, if it met anything. -/
  | unobtained {answer : Except OperatorError String} (asked : .created answer ∈ t)
      (nothing : profile.acquired o.step t = none)

section Calls

variable {profile : Profile R} {step : Step} {entry : Entry R} {t : List (Entry R)}

/-- A call in front that changes nothing does not keep an absence behind it from being noticed. -/
theorem noticesAbsence_cons (quiet : entry.1.changes = false) (more : t ≠ []) :
    noticesAbsence (entry :: t) = noticesAbsence t := by
  obtain ⟨next, rest, rfl⟩ := List.exists_cons_of_ne_nil more
  simp [noticesAbsence, quiet]

/-- Behind a change nothing is an absence of what was there before. -/
theorem noticesAbsence_eq_false (asked : entry ∈ t) (changes : entry.1.changes = true)
    (silent : entry.reportsAbsence = false) : noticesAbsence t = false := by
  have nonempty := List.ne_nil_of_mem asked
  rw [← List.dropLast_concat_getLast nonempty, List.mem_append, List.mem_singleton] at asked
  rw [noticesAbsence, Bool.and_eq_false_iff]
  rcases asked with earlier | rfl
  · left
    rw [List.all_eq_false]
    exact ⟨entry, earlier, by simp [changes]⟩
  · right
    rw [List.getLast?_eq_some_getLast nonempty]
    exact silent

theorem neverCreates_of_noticesAbsence (noticed : noticesAbsence t = true) : NeverCreates t := by
  rintro ⟨call, answer⟩ asked
  cases call with
  | create => cases (noticesAbsence_eq_false asked rfl rfl).symm.trans noticed
  | _ => rfl

theorem acquired_of_ne (other : step ≠ .update) :
    profile.acquired step t = profile.obtained t :=
  if_neg other

theorem acquired_of_update (updates : step = .update) :
    profile.acquired step t = t.findSome? Entry.updated? :=
  if_pos updates

/-- Nothing is acquired where nothing was come by and no update succeeded, whatever the step. -/
theorem acquired_eq_none (nothing : profile.obtained t = none)
    (unchanged : t.findSome? Entry.updated? = none) : profile.acquired step t = none := by
  by_cases updates : step = .update
  · exact (acquired_of_update updates).trans unchanged
  · exact (acquired_of_ne updates).trans nothing

/-- Where an absence is noticed, nothing was acquired. -/
theorem acquired_of_noticesAbsence (noticed : noticesAbsence t = true) :
    profile.acquired step t = none := by
  refine acquired_eq_none (neverCreates_of_noticesAbsence noticed).obtained ?_
  refine List.findSome?_eq_none_iff.mpr ?_
  rintro ⟨call, answer⟩ asked
  cases call with
  | update id =>
      cases answer with
      | ok u => cases (noticesAbsence_eq_false asked rfl rfl).symm.trans noticed
      | error e => rfl
  | _ => rfl

end Calls

namespace Pass

variable {p q : Pass R} {look : Look} {fingerprint : Option String} {t : List (Entry R)}
  {o : Outcome} {id : String}

theorem Retains.account (retains : p.Retains o) : o.status.account = p.status.account := by
  rw [ResourceStatus.account, retains.id, retains.observedGeneration, retains.sourceFingerprint,
    ResourceStatus.account]

/-! ## Looks and attempts -/

theorem LookCourse.ne_nil (course : LookCourse p look t o) : t ≠ [] := by
  cases course <;> simp

theorem LookCourse.smooth (course : LookCourse p look t o) :
    ∀ entry ∈ t, entry.thwarts = false := by
  cases course <;> simp [Entry.thwarts]

/-- A look at rest forgets the resource exactly if it notices its absence. -/
theorem LookCourse.account (course : LookCourse p .atRest t o) :
    (noticesAbsence t = false ∧ o.status.account = p.status.account) ∨
      noticesAbsence t = true ∧
        o.status.account = (none, none, p.status.sourceFingerprint) := by
  have retained (present : noticesAbsence t = false) (retains : p.Retains o) :
      noticesAbsence t = false ∧ o.status.account = p.status.account := ⟨present, retains.account⟩
  cases course with
  | gone absent => exact .inr ⟨absent, rfl⟩
  | unseen absent fresh => cases fresh
  | unread present => exact .inl (retained present fail_retains)
  | corrected => exact .inl (retained rfl (notReady_retains.of_same rfl rfl rfl))
  | goneUncorrected rest drifted absent => exact .inr ⟨absent, rfl⟩
  | uncorrected rest drifted present =>
      exact .inl (retained present (fail_retains.of_same rfl rfl rfl))
  | waiting => exact .inl (retained rfl (notReady_retains.of_same rfl rfl rfl))
  | unconnected => exact .inl (retained rfl (fail_retains.of_same rfl rfl rfl))
  | converged => exact .inl (retained rfl (converged_retains.of_same rfl rfl rfl))

/-- A look at a resource that was just accepted leaves the account as it was written. -/
theorem accepted_account (course : LookCourse (q.accept id fingerprint) .afterMutation t o) :
    o.status.account = (some id, some q.subject.generation, fingerprint) := by
  obtain ⟨known, observed, noted⟩ := accepted_holds course
  rw [ResourceStatus.account, known, observed, noted]

/-- A delete that is accepted does not thwart its pass. -/
theorem smooth_deleted {known : Option String} {answer : Except OperatorError Unit}
    (accepted : DeleteAccepted answer) :
    (Entry.deleted known answer : Entry R).thwarts = false := by
  cases answer with
  | ok u => rfl
  | error e => simp [Entry.thwarts, Calls.deleteAccepted_error.mp accepted]

/-- Where a create was attempted, no absence is noticed any more. -/
theorem ObtainCourse.unnoticed {result : Except OperatorError (String × Pass R)}
    (earlier : List (Entry R)) (course : ObtainCourse p t result) :
    noticesAbsence (earlier ++ t) = false := by
  obtain ⟨answer, later, rfl, -⟩ := course.creates
  exact noticesAbsence_eq_false (List.mem_append_right _ (List.mem_cons_self ..)) rfl rfl

theorem ObtainCourse.smooth {result : Except OperatorError (String × Pass R)}
    (course : ObtainCourse p t result) : ∀ entry ∈ t, entry.thwarts = false := by
  cases course <;> simp [Entry.thwarts]

/-! ## Steps -/

/-- The account in a step of a living record, behind a read of the source secret. -/
theorem step_accounting (untouched : p.status = p.subject.status)
    (course : StepCourse p fingerprint t o) (keeps : o.step = p.step) :
    Accounting p.profile p.subject (.fingerprinted (.ok fingerprint) :: t) o := by
  let read : Entry R := .fingerprinted (.ok fingerprint)
  have begun : p.beginOperation.status.account = p.subject.status.account := by
    rw [← untouched]
    rfl
  have other (elsewhere : p.step ≠ .update) :
      p.profile.acquired o.step (read :: t) = p.profile.obtained (read :: t) :=
    acquired_of_ne (keeps ▸ elsewhere)
  -- A step that failed retains the resource; its calls decide whether it may.
  have failing {e : OperatorError} (failed : o = p.beginOperation.fail e)
      (nothing : p.profile.acquired o.step (read :: t) = none)
      (unnoticed : noticesAbsence (read :: t) = false) :
      Accounting p.profile p.subject (read :: t) o := by
    refine .kept nothing unnoticed ?_
    rw [failed]
    exact fail_retains.account.trans begun
  cases course with
  | looked rests look =>
      have elsewhere : p.step ≠ .update := by rcases rests with rests | rests <;> simp [rests]
      have nothing := (other elsewhere).trans look.neverCreates.obtained
      have same : noticesAbsence (read :: t) = noticesAbsence t :=
        noticesAbsence_cons rfl look.ne_nil
      rcases look.account with ⟨unnoticed, account⟩ | ⟨noticed, account⟩
      · exact .kept nothing (same.trans unnoticed) (untouched ▸ account)
      · refine .forgotten nothing (same.trans noticed) ?_ (untouched ▸ account)
        exact List.forall_mem_cons.mpr ⟨rfl, look.smooth⟩
  | unready => exact failing rfl (acquired_eq_none rfl rfl) rfl
  | uncreated step obtains =>
      have nothing := (other (by simp [step])).trans obtains.not_obtained
      exact failing rfl nothing (obtains.unnoticed [_, _])
  | created step obtains look =>
      have came := (other (by simp [step])).trans obtains.obtained
      obtain ⟨mutation, rfl⟩ := obtain_subject obtains
      have account := accepted_account look
      refine .accepted came rfl ?_ account
      simp only [List.forall_mem_cons, List.forall_mem_append]
      exact ⟨rfl, rfl, obtains.smooth, look.smooth⟩
  | goneUnchanged step absent =>
      refine .forgotten (acquired_eq_none rfl rfl) absent ?_ (untouched ▸ rfl)
      simp [Entry.thwarts]
  | unchanged step present => exact failing rfl (acquired_eq_none rfl rfl) present
  | changed step look =>
      have account := accepted_account look
      refine .accepted (acquired_of_update (keeps.trans step)) rfl ?_ account
      simp only [List.forall_mem_cons]
      exact ⟨rfl, rfl, rfl, look.smooth⟩
  | undeleted => exact failing rfl (acquired_eq_none rfl rfl) rfl
  | unconfirmed step accepted present => exact failing rfl (acquired_eq_none rfl rfl) rfl
  | lingering => exact failing rfl (acquired_eq_none rfl rfl) rfl
  | unreplaced step accepted absent obtains =>
      have nothing := (other (by simp [step])).trans obtains.not_obtained
      exact failing rfl nothing (obtains.unnoticed [_, _, _, _])
  | replaced step accepted absent obtains look =>
      have came := (other (by simp [step])).trans obtains.obtained
      obtain ⟨mutation, rfl⟩ := obtain_subject obtains
      have account := accepted_account look
      refine .accepted came rfl ?_ account
      simp only [List.forall_mem_cons, List.forall_mem_append]
      exact ⟨rfl, rfl, smooth_deleted accepted, rfl, obtains.smooth, look.smooth⟩

end Pass

/-! ## Passes -/

/-- A deletion acquires nothing and keeps the account, whatever it notices behind its delete. -/
theorem Pass.DeleteCourse.accounting {profile : Profile R} {subject : Subject} {settings : Settings}
    {now : Instant} {t : List (Entry R)} {o : Outcome}
    (course : DeleteCourse (start profile subject settings now .delete) t o) :
    Accounting profile subject t o := by
  obtain ⟨retains, -⟩ := course.retains
  have elsewhere : o.step ≠ .update := by
    rw [(delete_keeps course).1]
    exact Step.noConfusion
  obtain ⟨answer, rfl | ⟨found, rfl⟩⟩ := course.calls
  all_goals exact .kept (acquired_of_ne elsewhere) rfl retains.account

/-- **The law of the account.**  Every pass keeps it, writes it as a whole behind a call that
acquired a resource, or forgets the resource that it notices to be gone. -/
theorem CompletedPass.accounting (pass : CompletedPass R) :
    Accounting pass.profile pass.subject pass.asked pass.outcome := by
  obtain ⟨profile, subject, settings, now, asked, o, yields⟩ := pass
  change Accounting profile subject asked o
  cases reconcileOnce_course yields with
  | deleting requested course => exact course.accounting
  | blocked => exact .kept (acquired_eq_none rfl rfl) rfl rfl
  | unresourced alive free begun =>
      subst begun
      refine .kept (acquired_eq_none rfl rfl) rfl ?_
      split
      · exact Pass.fail_retains.account
      · exact Pass.fail_retains.account
  | lived alive free course =>
      have keeps := (Pass.step_carries course plan_rests).elim Pass.Carries.step Pass.Reaches.step
      exact Pass.step_accounting rfl course keeps

/-- What was thwarted acquired nothing and noticed nothing. -/
theorem Accounting.kept_of_thwarted {profile : Profile R} {subject : Subject} {t : List (Entry R)}
    {o : Outcome} (accounting : Accounting profile subject t o) (thwarted : Thwarted profile t o) :
    o.status.account = subject.status.account := by
  have stopped (smooth : ∀ entry ∈ t, entry.thwarts = false) :
      profile.acquired o.step t = none ∧ ¬ NeverCreates t := by
    cases thwarted with
    | unread asked => cases smooth _ asked
    | unready asked => cases smooth _ asked
    | undeleted asked present =>
        have absent := smooth _ asked
        simp [Entry.thwarts, present] at absent
    | unobtained asked nothing => exact ⟨nothing, fun never => never.not_mem asked⟩
  cases accounting with
  | kept nothing unnoticed account => exact account
  | accepted acquired read smooth =>
      obtain ⟨nothing, -⟩ := stopped smooth
      cases nothing.symm.trans acquired
  | forgotten nothing noticed smooth =>
      obtain ⟨-, creates⟩ := stopped smooth
      exact absurd (neverCreates_of_noticesAbsence noticed) creates

/-- **Nothing is accounted for that was not applied.**  Whatever a pass starts from and whatever it
is answered, it keeps the account of the status, writes it as a whole behind a call that acquired a
resource, or forgets a resource that it notices to be gone.  In particular, neither a precondition
nor a read of the source secret, a create, an adoption or a delete that fails changes any of it. -/
theorem account_changes_as_earned (pass : CompletedPass R) :
    Accounting pass.profile pass.subject pass.asked pass.outcome ∧
      (Thwarted pass.profile pass.asked pass.outcome →
        pass.outcome.status.account = pass.subject.status.account) :=
  ⟨pass.accounting, pass.accounting.kept_of_thwarted⟩

namespace HalfDone

/-- Surroundings in which a resource cannot be read, and the preconditions are as given. -/
def answer (checked : Except OperatorError Unit) : (c : Call Unit) → c.Answer
  | .checkPreconditions => checked
  | .get _ => .error (.transport "connection refused")
  | call => Steady.answer call

/-- A pass over a generation, from a status. -/
def pass (checked : Except OperatorError Unit) (generation : Int) (status : ResourceStatus) :
    CompletedPass Unit :=
  .against (answer checked) Steady.profile ⟨"PostgreSQL", "orders", generation, false, status⟩
    .standard ⟨0, 0⟩

/-- The pass that creates the resource, and fails to read it. -/
def first : CompletedPass Unit := pass (.ok ()) 1 .initial

/-- A pass over the next generation, for which something is missing. -/
def second : CompletedPass Unit :=
  pass (.error (.dependencyMissing "service ns/s does not exist")) 2 first.outcome.status

end HalfDone

/-- What was created is accounted for although it could not be read, and still is when the next
generation cannot be applied. -/
theorem account_changes_as_earned_half :
    HalfDone.first.outcome.status.account = (some "orders", some 1, some "f") ∧
      HalfDone.second.outcome.status.account = (some "orders", some 1, some "f") := by
  have thwarted : Thwarted HalfDone.second.profile HalfDone.second.asked HalfDone.second.outcome :=
    .unready (.tail _ (.head _))
  obtain ⟨-, kept⟩ := account_changes_as_earned HalfDone.second
  exact ⟨rfl, kept thwarted⟩

end ServiceOperator
