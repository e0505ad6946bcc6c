import ServiceOperator.Proofs.Pass.Convergence
import ServiceOperator.Proofs.Pass.Replacement

/-!
# A status that is not stored

A pass changes the control plane first and stores its status afterwards, so the status of a pass
that made a resource may be lost.  The next pass then starts from the old status and knows nothing
of the resource.  It must come by that one all the same, and must not make another.

`Inventory` is the part of the control plane that belongs to one record, and `Inventory.Answers` are
the rules by which it answers the calls of a pass: a create collides with a resource that is there,
a delete removes, a get finds.  Nothing is said about the order of the calls, about a failure of the
connection info, or about what a resource looks like beyond its id and whether it fits.

The argument follows the inventory.  A pass that made a resource leaves an inventory that holds
nothing else.  A second pass either meets that resource at its create, and takes it over, or has
deleted it before as the one that its status names, which can only be if the record names its
resource; it then makes it again under the same id (`Inventory.LeadsBackTo`).
-/

namespace ServiceOperator

open Calls (Entry DeleteAccepted)

/-- A resource of a record. -/
structure Inventory.Resource where
  id : String
  /-- It was created from the record as the record is. -/
  current : Bool
  deriving DecidableEq, Repr

/-- What the control plane holds of the resources of a record. -/
structure Inventory where
  resources : List Inventory.Resource
  /-- The ids that the control plane has ever assigned. -/
  used : List String
  deriving DecidableEq, Repr

namespace Inventory

/-- A call is about a resource: it has the id, or it was created from the record that is looked
up. -/
def Resource.isMeant (id : Option String) (resource : Resource) : Bool :=
  match id with
  | some id => resource.id == id
  | none => resource.current

/-- With one more resource. -/
def add (s : Inventory) (id : String) : Inventory where
  resources := ⟨id, true⟩ :: s.resources
  used := id :: s.used

/-- Without the resources that a call is about. -/
def without (s : Inventory) (id : Option String) : Inventory :=
  { s with resources := s.resources.filter fun resource => !resource.isMeant id }

variable {R : Type}

/-- How the control plane answers a call for a record that names its resource `own`, and what it
holds afterwards. -/
inductive Answers (profile : Profile R) (own : String) (s : Inventory) :
    Entry R → Inventory → Prop
  | fingerprinted {fingerprint : Option String} :
      Answers profile own s (.fingerprinted (.ok fingerprint)) s
  | checked : Answers profile own s (.checked (.ok ())) s
  /-- The record names the resource, or the control plane assigns an id that it never did before. -/
  | created {id : String} (vacant : s.resources = [])
      (named : profile.identity = .name → id = own)
      (assigned : profile.identity = .server → id ∉ s.used) :
      Answers profile own s (.created (.ok id)) (s.add id)
  | collided {e : OperatorError} (occupied : s.resources ≠ [])
      (taken : e.isAlreadyExists = true) : Answers profile own s (.created (.error e)) s
  | updated {id : String} (there : ∃ resource ∈ s.resources, resource.id = id) :
      Answers profile own s (.updated id (.ok ())) s
  | notUpdated {id : String} {e : OperatorError}
      (missing : ∀ resource ∈ s.resources, resource.id ≠ id) (absent : e.isNotFound = true) :
      Answers profile own s (.updated id (.error e)) s
  /-- A lookup without an id may also find a resource that was created from an older record. -/
  | found {id : Option String} {remote : R} {resource : Resource} (there : resource ∈ s.resources)
      (sought : ∀ known, id = some known → resource.id = known)
      (shown : profile.remoteId remote = resource.id)
      (fits : resource.current = true → profile.matchesExisting remote = true) :
      Answers profile own s (.got id (.ok remote)) s
  | missed {id : Option String} {e : OperatorError}
      (missing : ∀ resource ∈ s.resources, resource.isMeant id = false)
      (absent : e.isNotFound = true) : Answers profile own s (.got id (.error e)) s
  | deleted {id : Option String} : Answers profile own s (.deleted id (.ok ())) (s.without id)
  | notDeleted {id : Option String} {e : OperatorError}
      (missing : ∀ resource ∈ s.resources, resource.isMeant id = false)
      (absent : e.isNotFound = true) : Answers profile own s (.deleted id (.error e)) s
  | connected {remote : R} {answer : Except OperatorError ConnectionInfo} :
      Answers profile own s (.connected remote answer) s

/-- Answering the calls of a list one after the other leads from an inventory to an inventory. -/
inductive Leads (profile : Profile R) (own : String) :
    Inventory → List (Entry R) → Inventory → Prop
  | nil (s : Inventory) : Leads profile own s [] s
  | cons {s middle s' : Inventory} {entry : Entry R} {t : List (Entry R)}
      (head : Answers profile own s entry middle) (tail : Leads profile own middle t s') :
      Leads profile own s (entry :: t) s'

section Leads

variable {profile : Profile R} {own : String} {s s' : Inventory} {entry : Entry R}
  {first second : List (Entry R)}

@[simp] theorem leads_nil : Leads profile own s [] s' ↔ s' = s := by
  constructor
  · intro h
    cases h
    rfl
  · rintro rfl
    exact .nil _

/-- The first call leads somewhere, and the others lead on from there. -/
theorem leads_cons : Leads profile own s (entry :: first) s' ↔
    ∃ middle, Answers profile own s entry middle ∧ Leads profile own middle first s' := by
  constructor
  · intro h
    cases h with
    | cons head tail => exact ⟨_, head, tail⟩
  · rintro ⟨middle, head, tail⟩
    exact .cons head tail

/-- Two lists of calls lead from one inventory to another by way of a third one. -/
theorem leads_append : Leads profile own s (first ++ second) s' ↔
    ∃ middle, Leads profile own s first middle ∧ Leads profile own middle second s' := by
  induction first generalizing s with
  | nil => simp
  | cons entry first ih =>
      simp only [List.cons_append, leads_cons, ih]
      constructor
      · rintro ⟨next, head, middle, h₁, h₂⟩
        exact ⟨middle, ⟨next, head, h₁⟩, h₂⟩
      · rintro ⟨middle, ⟨next, head, h₁⟩, h₂⟩
        exact ⟨next, head, middle, h₁, h₂⟩

/-- Only a create uses up an id. -/
theorem Leads.used_eq (leads : Leads profile own s first s') (never : NeverCreates first) :
    s'.used = s.used := by
  induction leads with
  | nil => rfl
  | cons head tail ih =>
      rw [ih never.tail]
      cases head with
      | created => simp [NeverCreates, Call.creates] at never
      | _ => rfl

/-- Calls that change nothing leave everything as it is. -/
theorem Leads.eq_of_quiet (leads : Leads profile own s first s')
    (quiet : ∀ entry ∈ first, entry.1.changes = false) : s' = s := by
  induction leads with
  | nil => rfl
  | cons head tail ih =>
      rw [List.forall_mem_cons] at quiet
      rw [ih quiet.2]
      cases head with
      | created => cases quiet.1
      | deleted => cases quiet.1
      | _ => rfl

end Leads

section Answers

variable {profile : Profile R} {own id old : String} {s s' : Inventory}

/-- What is created is all that there is. -/
theorem Answers.created_alone (answers : Answers profile own s (.created (.ok id)) s') :
    s'.resources = [⟨id, true⟩] ∧ (profile.identity = .name → id = own) ∧
      (profile.identity = .server → id ∉ s.used) := by
  cases answers with
  | created vacant named assigned => exact ⟨by simp [add, vacant], named, assigned⟩

/-- A delete always leaves nothing of what it is about. -/
theorem Answers.deleted_gone {sought : Option String} {answer : Except OperatorError Unit}
    (answers : Answers profile own s (.deleted sought answer) s') :
    DeleteAccepted answer ∧ ∀ resource ∈ s'.resources, resource.isMeant sought = false := by
  cases answers with
  | deleted => exact ⟨Calls.deleteAccepted_ok, by simp [without]⟩
  | notDeleted missing absent => exact ⟨Calls.deleteAccepted_error.mpr absent, missing⟩

/-- What is gone is not found by its id. -/
theorem Answers.got_gone {answer : Except OperatorError R}
    (gone : ∀ resource ∈ s.resources, resource.isMeant (some old) = false)
    (answers : Answers profile own s (.got (some old) answer) s') :
    s' = s ∧ ∃ e, answer = .error e ∧ e.isNotFound = true := by
  cases answers with
  | found there sought =>
      have meant := gone _ there
      simp [Resource.isMeant, sought old rfl] at meant
  | missed missing absent => exact ⟨rfl, _, rfl, absent⟩

/-- The only resource, created from the record as it is, is found by its attributes and fits. -/
theorem Answers.got_own {answer : Except OperatorError R} (alone : s.resources = [⟨id, true⟩])
    (answers : Answers profile own s (.got none answer) s') :
    s' = s ∧ ∃ remote, answer = .ok remote ∧ profile.remoteId remote = id ∧
      profile.matchesExisting remote = true := by
  cases answers with
  | found there sought shown fits =>
      rw [alone, List.mem_singleton] at there
      subst there
      exact ⟨rfl, _, rfl, shown, fits rfl⟩
  | missed missing =>
      have meant := missing ⟨id, true⟩ (by simp [alone])
      simp [Resource.isMeant] at meant

/-- A create or an adoption leads to the resource with the id: it is all that there is, or nothing
is there and the record names it. -/
def LeadsBackTo (s : Inventory) (identity : Identity) (own id : String) : Prop :=
  s.resources = [⟨id, true⟩] ∨ s.resources = [] ∧ identity = .name ∧ own = id

/-- A delete of the resource that the status names leads back to the only one. -/
theorem LeadsBackTo.of_deleted {answer : Except OperatorError Unit}
    (alone : s.resources = [⟨id, true⟩]) (named : profile.identity = .name → own = id)
    (other : profile.identity = .server → id ≠ old)
    (answers : Answers profile own s (.deleted (some old) answer) s') :
    s'.LeadsBackTo profile.identity own id := by
  cases answers with
  | notDeleted => exact .inl alone
  | deleted =>
      by_cases same : id = old
      · cases identity : profile.identity with
        | name => exact .inr ⟨by simp [without, alone, Resource.isMeant, same], rfl, named identity⟩
        | server => exact absurd same (other identity)
      · exact .inl (by simp [without, alone, Resource.isMeant, same])

/-- The preconditions hold. -/
theorem leads_checked {answer : Except OperatorError Unit} {t : List (Entry R)} :
    Leads profile own s (.checked answer :: t) s' ↔ answer = .ok () ∧ Leads profile own s t s' := by
  rw [leads_cons]
  constructor
  · rintro ⟨_, check, later⟩
    cases check
    exact ⟨rfl, later⟩
  · rintro ⟨rfl, later⟩
    exact ⟨s, .checked, later⟩

/-- The source secret can be read. -/
theorem leads_fingerprinted {answer : Except OperatorError (Option String)} {t : List (Entry R)} :
    Leads profile own s (.fingerprinted answer :: t) s' ↔
      (∃ fingerprint, answer = .ok fingerprint) ∧ Leads profile own s t s' := by
  rw [leads_cons]
  constructor
  · rintro ⟨_, read, later⟩
    cases read
    exact ⟨⟨_, rfl⟩, later⟩
  · rintro ⟨⟨_, rfl⟩, later⟩
    exact ⟨s, .fingerprinted, later⟩

/-- A delete of the resource that the status names is accepted, and a get then finds it gone. -/
theorem Leads.of_removal {deletion : Except OperatorError Unit} {t : List (Entry R)}
    (alone : s.resources = [⟨id, true⟩]) (named : profile.identity = .name → own = id)
    (other : profile.identity = .server → id ≠ old)
    (leads : Leads profile own s (.deleted (some old) deletion :: t) s') :
    DeleteAccepted deletion ∧ ∃ middle : Inventory, middle.LeadsBackTo profile.identity own id ∧
      ∀ answer later, t = .got (some old) answer :: later →
        (∃ e, answer = .error e ∧ e.isNotFound = true) ∧ Leads profile own middle later s' := by
  obtain ⟨middle, deletes, afterDelete⟩ := leads_cons.mp leads
  obtain ⟨accepted, gone⟩ := deletes.deleted_gone
  refine ⟨accepted, middle, .of_deleted alone named other deletes, ?_⟩
  rintro answer later rfl
  obtain ⟨_, got, afterGet⟩ := leads_cons.mp afterDelete
  obtain ⟨rfl, absent⟩ := got.got_gone gone
  exact ⟨absent, afterGet⟩

end Answers

end Inventory

/-! ## The two passes -/

namespace Pass

open Inventory

variable {R : Type} {p : Pass R} {own id : String} {s s' : Inventory} {fingerprint : Option String}
  {t : List (Entry R)} {o : Outcome}

/-- A look after a change changes nothing any more. -/
theorem LookCourse.quiet (course : LookCourse p .afterMutation t o) :
    ∀ entry ∈ t, entry.1.changes = false := by
  cases course with
  | corrected rest => cases rest
  | goneUncorrected rest => cases rest
  | uncorrected rest => cases rest
  | _ => simp [Call.changes]

/-- An attempt that made a resource made no other call. -/
theorem ObtainCourse.of_made {result : Except OperatorError (String × Pass R)}
    (course : ObtainCourse p t result) (made : .created (.ok id) ∈ t) :
    t = [.created (.ok id)] ∧ result = .ok (id, p.mark .created) := by
  obtain ⟨answer, later, rfl, never⟩ := course.creates
  rcases List.mem_cons.mp made with same | again
  · cases same
    cases course with
    | created => exact ⟨rfl, rfl⟩
  · exact absurd again never.not_mem

/-- An attempt whose create collides gets the resource that it met, and takes it over if it fits. -/
theorem ObtainCourse.of_collision {met : OperatorError}
    {result : Except OperatorError (String × Pass R)}
    (course : ObtainCourse p (.created (.error met) :: t) result)
    (taken : met.isAlreadyExists = true) :
    ∃ answer later, t = .got none answer :: later ∧
      ∀ remote, answer = .ok remote → p.profile.matchesExisting remote = true →
        (later = [] ∧ result = .ok (p.profile.remoteId remote, p)) ∨
          ∃ updated, later = [.updated (p.profile.remoteId remote) updated] ∧
            (updated = .ok () → result = .ok (p.profile.remoteId remote, p.mark .updated)) := by
  cases course with
  | refused fresh => cases taken.symm.trans fresh
  | unread => exact ⟨_, _, rfl, fun _ same => by cases same⟩
  | foreign _ differs =>
      refine ⟨_, _, rfl, fun remote same fits => ?_⟩
      cases same
      cases fits.symm.trans differs
  | adopted =>
      refine ⟨_, _, rfl, fun remote same _ => ?_⟩
      cases same
      exact .inl ⟨rfl, rfl⟩
  | conformed =>
      refine ⟨_, _, rfl, fun remote same _ => ?_⟩
      cases same
      exact .inr ⟨_, rfl, fun _ => rfl⟩
  | unconformed =>
      refine ⟨_, _, rfl, fun remote same _ => ?_⟩
      cases same
      exact .inr ⟨_, rfl, fun same => by cases same⟩

/-- A pass that made a resource creates or replaces.  The calls before the create make none, and
behind it the pass holds the resource with the present generation and changes nothing any more. -/
theorem StepCourse.making (course : StepCourse p fingerprint t o)
    (made : .created (.ok id) ∈ t) :
    (p.step = .create ∨ p.step = .replace) ∧
      o.status.id = some id ∧ o.status.observedGeneration = some p.subject.generation ∧
      ∃ before after, t = before ++ .created (.ok id) :: after ∧ NeverCreates before ∧
        ∀ entry ∈ after, entry.1.changes = false := by
  cases course with
  | looked rests look => exact absurd made look.neverCreates.not_mem
  | uncreated step obtains =>
      obtain ⟨-, failed⟩ := obtains.of_made (mem_of_mem_cons rfl made)
      cases failed
  | created step obtains look =>
      have made := mem_of_mem_cons rfl made
      have made := (List.mem_append.mp made).resolve_right look.neverCreates.not_mem
      obtain ⟨rfl, same⟩ := obtains.of_made made
      cases same
      obtain ⟨known, observed, -⟩ := accepted_holds look
      exact ⟨.inl step, known, observed, [_], _, rfl, by simp [NeverCreates, Call.creates],
        look.quiet⟩
  | changed step look =>
      have made := mem_of_mem_cons rfl (mem_of_mem_cons rfl made)
      exact absurd made look.neverCreates.not_mem
  | unreplaced step accepted absent obtains =>
      have made := mem_of_mem_cons rfl (mem_of_mem_cons rfl (mem_of_mem_cons rfl made))
      obtain ⟨-, failed⟩ := obtains.of_made made
      cases failed
  | replaced step accepted absent obtains look =>
      have made := mem_of_mem_cons rfl (mem_of_mem_cons rfl (mem_of_mem_cons rfl made))
      have made := (List.mem_append.mp made).resolve_right look.neverCreates.not_mem
      obtain ⟨rfl, same⟩ := obtains.of_made made
      cases same
      obtain ⟨known, observed, -⟩ := accepted_holds look
      exact ⟨.inr step, known, observed, [_, _, _], _, rfl, by simp [NeverCreates, Call.creates],
        look.quiet⟩
  -- No other course has a create among its calls.
  | _ => exact absurd made (NeverCreates.not_mem (by simp [NeverCreates, Call.creates]))

/-- An attempt from an inventory that leads back to a resource comes by it. -/
theorem ObtainCourse.leads_back {result : Except OperatorError (String × Pass R)}
    (course : ObtainCourse p t result) (leads : Leads p.profile own s t s')
    (back : s.LeadsBackTo p.profile.identity own id) :
    ∃ q, result = .ok (id, q) ∧ s'.resources = [⟨id, true⟩] := by
  obtain ⟨answer, later, rfl, -⟩ := course.creates
  obtain ⟨middle, created, afterCreate⟩ := leads_cons.mp leads
  rcases back with alone | ⟨vacant, named, rfl⟩
  · -- The create collides, and the resource is taken over.
    cases created with
    | created vacant => simp [alone] at vacant
    | collided occupied taken =>
        obtain ⟨answer, later, rfl, adopts⟩ := course.of_collision taken
        obtain ⟨middle, got, afterGet⟩ := leads_cons.mp afterCreate
        obtain ⟨rfl, remote, rfl, shown, fits⟩ := got.got_own alone
        rcases adopts remote rfl fits with ⟨rfl, rfl⟩ | ⟨updated, rfl, conforms⟩
        · rw [leads_nil.mp afterGet, shown]
          exact ⟨_, rfl, alone⟩
        · obtain ⟨last, update, afterUpdate⟩ := leads_cons.mp afterGet
          rw [leads_nil.mp afterUpdate]
          cases update with
          | updated => exact ⟨_, by rw [conforms rfl, shown], alone⟩
          | notUpdated missing => exact absurd shown.symm (missing ⟨id, true⟩ (by simp [alone]))
  · -- Nothing is there, and what is created bears the name that the record gives.
    cases created with
    | collided occupied => exact absurd vacant occupied
    | created vacant same =>
        obtain rfl := same named
        cases course with
        | created =>
            rw [leads_nil.mp afterCreate]
            exact ⟨_, rfl, by simp [Inventory.add, vacant]⟩

/-- A pass that comes by the resource and looks at it leaves it in the status, with the present
generation. -/
theorem ObtainCourse.leads_back_and_look {q r : Pass R} {met : String}
    {first second : List (Entry R)}
    (course : ObtainCourse p first (.ok (met, q)))
    (look : LookCourse (r.accept met fingerprint) .afterMutation second o)
    (leads : Leads p.profile own s (first ++ second) s')
    (back : s.LeadsBackTo p.profile.identity own id) :
    o.status.id = some id ∧ o.status.observedGeneration = some r.subject.generation ∧
      s'.resources = [⟨id, true⟩] := by
  obtain ⟨middle, obtaining, looking⟩ := leads_append.mp leads
  obtain ⟨_, same, alone⟩ := course.leads_back obtaining back
  cases same
  obtain ⟨known, observed, -⟩ := accepted_holds look
  rw [looking.eq_of_quiet look.quiet]
  exact ⟨known, observed, alone⟩

/-- A pass that creates or replaces comes by the resource that an earlier one made.  If it replaces,
the status names a resource, which is another one if the control plane assigns the ids. -/
theorem step_leads_back (course : StepCourse p fingerprint t o)
    (makes : p.step = .create ∨ p.step = .replace)
    (replaced : p.step = .replace → ∃ old, p.status.id = some old ∧
      (p.profile.identity = .server → id ≠ old))
    (named : p.profile.identity = .name → own = id) (alone : s.resources = [⟨id, true⟩])
    (leads : Leads p.profile own s t s') :
    o.status.id = some id ∧ o.status.observedGeneration = some p.subject.generation ∧
      s'.resources = [⟨id, true⟩] := by
  have notUpdate : p.step ≠ .update := by rcases makes with step | step <;> simp [step]
  have removes {deletion : Except OperatorError Unit} {later : List (Entry R)}
      (step : p.step = .replace)
      (leads : Leads p.profile own s (.checked (.ok ()) :: .deleted p.status.id deletion :: later)
        s') :
      DeleteAccepted deletion ∧ ∃ middle : Inventory,
        middle.LeadsBackTo p.profile.identity own id ∧
          ∀ answer rest, later = .got p.status.id answer :: rest →
            (∃ e, answer = .error e ∧ e.isNotFound = true) ∧
              Leads p.profile own middle rest s' := by
    obtain ⟨old, known, other⟩ := replaced step
    rw [known] at leads ⊢
    exact (leads_checked.mp leads).2.of_removal alone named other
  -- What the inventory answers leaves two courses: the resource is come by, in a create or in a
  -- replacement.
  cases course with
  | looked rests => rcases makes with step | step <;> simp [step] at rests
  | unready => cases (leads_checked.mp leads).1
  | uncreated step obtains =>
      obtain ⟨_, failed, -⟩ := obtains.leads_back (leads_checked.mp leads).2 (.inl alone)
      cases failed
  | created step obtains look =>
      obtain ⟨mutation, rfl⟩ := obtain_subject obtains
      have := obtains.leads_back_and_look look (leads_checked.mp leads).2 (.inl alone)
      exact this
  | goneUnchanged step => exact absurd step notUpdate
  | unchanged step => exact absurd step notUpdate
  | changed step => exact absurd step notUpdate
  | undeleted step present =>
      obtain ⟨accepted, -⟩ := removes step leads
      cases (Calls.deleteAccepted_error.mp accepted).symm.trans present
  | unconfirmed step _ present =>
      obtain ⟨-, _, -, seen⟩ := removes step leads
      obtain ⟨⟨e, same, absent⟩, -⟩ := seen _ _ rfl
      cases same
      cases absent.symm.trans present
  | lingering step =>
      obtain ⟨-, _, -, seen⟩ := removes step leads
      obtain ⟨⟨e, same, -⟩, -⟩ := seen _ _ rfl
      cases same
  | unreplaced step _ _ obtains =>
      obtain ⟨-, _, back, seen⟩ := removes step leads
      obtain ⟨_, failed, -⟩ := obtains.leads_back (seen _ _ rfl).2 back
      cases failed
  | replaced step _ _ obtains look =>
      obtain ⟨mutation, rfl⟩ := obtain_subject obtains
      obtain ⟨-, _, back, seen⟩ := removes step leads
      have := obtains.leads_back_and_look look (seen _ _ rfl).2 back
      exact this

end Pass

/-! ## The pass after the lost one -/

section Lost

variable {R : Type} {first second : CompletedPass R} {own id : String}
  {before between after : Inventory}

/-- A pass over a living record that made a resource took a step that makes one, and leaves it in
the status.  It is all that there is, and bears the name that the record gives or an id that is new.
-/
theorem CompletedPass.made (pass : CompletedPass R)
    (alive : pass.subject.deletionRequested = false) (made : .created (.ok id) ∈ pass.asked)
    (performed : before.Leads pass.profile own pass.asked after) :
    ∃ fingerprint, ¬ pass.subject.status.Blocks pass.subject.generation ∧
      (pass.subject.plan fingerprint pass.profile.requiresReplace = .create ∨
        pass.subject.plan fingerprint pass.profile.requiresReplace = .replace) ∧
      pass.outcome.status.id = some id ∧
      pass.outcome.status.observedGeneration = some pass.subject.generation ∧
      after.resources = [⟨id, true⟩] ∧ (pass.profile.identity = .name → own = id) ∧
      (pass.profile.identity = .server → id ∉ before.used) := by
  obtain ⟨profile, subject, settings, now, asked, o, yields⟩ := pass
  cases reconcileOnce_course yields with
  | deleting requested => cases requested.symm.trans alive
  | blocked => cases made
  | unresourced => exact absurd made (NeverCreates.not_mem (by simp [NeverCreates, Call.creates]))
  | @lived fingerprint t _ _ free course =>
      obtain ⟨makes, known, observed, earlier, later, rfl, never, quiet⟩ :=
        course.making (mem_of_mem_cons rfl made)
      obtain ⟨-, performed⟩ := Inventory.leads_fingerprinted.mp performed
      obtain ⟨middle, leadsEarlier, leadsLater⟩ := Inventory.leads_append.mp performed
      obtain ⟨next, creates, leadsLater⟩ := Inventory.leads_cons.mp leadsLater
      obtain ⟨alone, named, assigned⟩ := creates.created_alone
      rw [leadsLater.eq_of_quiet quiet]
      rw [leadsEarlier.used_eq never] at assigned
      exact ⟨fingerprint, free, makes, known, observed, alone,
        fun identity => (named identity).symm, assigned⟩

/-- **A lost status is recovered without a duplicate.**  Let a pass over a living record make a
resource, and let its status be lost: the next pass over the same generation starts from the status
that the first one started from.  Whatever the time and the source secret are by then, it leaves the
same id and the same generation as the first one did, and the resource that has this id is the only
one of the record.

That nothing but the resource of the stored id was there before need not be said: a create that met
anything else would have collided. -/
theorem lost_status_recovered (alive : first.subject.deletionRequested = false)
    (assigned : ∀ old, first.subject.status.id = some old → old ∈ before.used)
    (made : .created (.ok id) ∈ first.asked)
    (performed : before.Leads first.profile own first.asked between)
    (sameKind : second.profile = first.profile)
    (sameGeneration : second.subject.generation = first.subject.generation)
    (lost : second.subject.status = first.subject.status)
    (aliveStill : second.subject.deletionRequested = false)
    (performedAgain : between.Leads first.profile own second.asked after) :
    first.outcome.status.id = some id ∧
      first.outcome.status.observedGeneration = some first.subject.generation ∧
      second.outcome.status.id = first.outcome.status.id ∧
      second.outcome.status.observedGeneration = first.outcome.status.observedGeneration ∧
      after.resources = [⟨id, true⟩] := by
  obtain ⟨fingerprint, free, makes, known, observed, alone, named, new⟩ :=
    first.made alive made performed
  suffices again : second.outcome.status.id = some id ∧
      second.outcome.status.observedGeneration = some second.subject.generation ∧
      after.resources = [⟨id, true⟩] by
    obtain ⟨sameId, sameObserved, aloneStill⟩ := again
    rw [known, observed, sameId, sameObserved, sameGeneration]
    exact ⟨rfl, rfl, rfl, rfl, aloneStill⟩
  -- The second pass plans what the first one planned, with whatever source secret it reads.
  have planned (other) : second.subject.plan other second.profile.requiresReplace =
      first.subject.plan fingerprint first.profile.requiresReplace := by
    rw [Subject.plan, lost, sameGeneration, aliveStill, sameKind, ← alive]
    exact plan_eq_of_makes makes
  rw [← lost, ← sameGeneration] at free
  rw [← sameKind] at performedAgain named new
  obtain ⟨profile, subject, settings, now, asked, o, yields⟩ := second
  cases reconcileOnce_course yields with
  | deleting requested => cases requested.symm.trans aliveStill
  | blocked _ blocks => exact absurd blocks free
  | unresourced =>
      obtain ⟨⟨_, same⟩, -⟩ := Inventory.leads_fingerprinted.mp performedAgain
      cases same
  | @lived other t _ _ _ course =>
      have step : subject.plan other profile.requiresReplace =
          first.subject.plan fingerprint first.profile.requiresReplace := planned other
      obtain ⟨-, performedAgain⟩ := Inventory.leads_fingerprinted.mp performedAgain
      refine Pass.step_leads_back course (by rwa [← step] at makes) ?_ named alone performedAgain
      intro replaces
      obtain ⟨old, knows⟩ := Option.isSome_iff_exists.mp (known_of_plan_eq_replace replaces)
      refine ⟨old, knows, ?_⟩
      -- The id is new, and the one that the status names is not.
      rintro server rfl
      exact new server (assigned _ (lost ▸ knows))

end Lost

/-! ## A replacement whose status is lost -/

namespace LostReplacement

/-- A control plane that holds an old resource, which can be deleted. -/
def answer : (c : Call String) → c.Answer
  | .sourceFingerprint => .ok none
  | .checkPreconditions => .ok ()
  | .create => .ok "new"
  | .update _ => .ok ()
  | .get id => if id = some "old" then .error (.notFound "vpc") else .ok "new"
  | .delete _ => .ok ()
  | .connectionInfo _ => .ok .empty

/-- The control plane once the old resource is deleted and the new one is created. -/
def answerAgain : (c : Call String) → c.Answer
  | .create => .error (.alreadyExists "vpc")
  | .delete _ => .error (.notFound "vpc")
  | c => answer c

/-- The record, of a kind that replaces, with a resource of its first generation. -/
def subject : Subject :=
  ⟨"ProjectVpc", "vpc", 2, false,
    { ResourceStatus.initial with id := some "old", observedGeneration := some 1 }⟩

def first : CompletedPass String :=
  .against answer HalfReplaced.profile subject .standard ⟨0, 0⟩

/-- A minute later, from the same status. -/
def second : CompletedPass String :=
  .against answerAgain HalfReplaced.profile subject .standard ⟨60, 0⟩

def before : Inventory := ⟨[⟨"old", false⟩], ["old"]⟩

def after : Inventory := ⟨[⟨"new", true⟩], ["new", "old"]⟩

theorem first_asked : first.asked =
    [.fingerprinted (.ok none), .checked (.ok ()), .deleted (some "old") (.ok ()),
      .got (some "old") (.error (.notFound "vpc")), .created (.ok "new"),
      .got (some "new") (.ok "new"), .connected "new" (.ok .empty)] := rfl

/-- The calls of the pass after it: its create collides, and it takes over what it met. -/
theorem second_asked : second.asked =
    [.fingerprinted (.ok none), .checked (.ok ()),
      .deleted (some "old") (.error (.notFound "vpc")),
      .got (some "old") (.error (.notFound "vpc")), .created (.error (.alreadyExists "vpc")),
      .got none (.ok "new"), .got (some "new") (.ok "new"), .connected "new" (.ok .empty)] := rfl

/-- The control plane answers the first pass as its inventory tells. -/
theorem performed : before.Leads first.profile "" first.asked after := by
  have vacant : (before.without (some "old")).resources = [] := by decide
  rw [first_asked]
  refine .cons .fingerprinted (.cons .checked (.cons .deleted (.cons (.missed ?_ rfl) (.cons
    (.created vacant ?_ ?_) (.cons (.found (List.mem_singleton_self _) ?_ rfl ?_)
      (.cons .connected (.nil _)))))))
  · simp [vacant]
  · intro named
    cases named
  · intro server
    decide
  · simp
  · intro current
    rfl

/-- It answers the second pass as what the first one left tells. -/
theorem performedAgain : after.Leads first.profile "" second.asked after := by
  have missing : ∀ resource ∈ after.resources, resource.isMeant (some "old") = false := by decide
  rw [second_asked]
  refine .cons .fingerprinted (.cons .checked (.cons (.notDeleted missing rfl) (.cons
    (.missed missing rfl) (.cons (.collided ?_ rfl) (.cons
      (.found (List.mem_singleton_self _) ?_ rfl ?_) (.cons
        (.found (List.mem_singleton_self _) ?_ rfl ?_) (.cons .connected (.nil _))))))))
  · decide
  · simp
  · intro current
    rfl
  · simp
  · intro current
    rfl

end LostReplacement

/-- The second pass finds the resource that the first one put in the place of the old one. -/
theorem lost_status_recovered_replacement :
    LostReplacement.second.outcome.status.id = LostReplacement.first.outcome.status.id ∧
      LostReplacement.second.outcome.status.observedGeneration =
        LostReplacement.first.outcome.status.observedGeneration ∧
      LostReplacement.after.resources = [⟨"new", true⟩] := by
  have assigned : ∀ old, LostReplacement.first.subject.status.id = some old →
      old ∈ LostReplacement.before.used := by
    intro old known
    cases known
    decide
  have made : .created (.ok "new") ∈ LostReplacement.first.asked := by
    simp [LostReplacement.first_asked]
  have sameKind : LostReplacement.second.profile = LostReplacement.first.profile := rfl
  obtain ⟨-, -, recovered⟩ := lost_status_recovered rfl assigned made LostReplacement.performed
    sameKind rfl rfl rfl LostReplacement.performedAgain
  exact recovered

end ServiceOperator
