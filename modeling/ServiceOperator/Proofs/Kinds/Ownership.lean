import ServiceOperator.Proofs.Kinds.Lookups
import ServiceOperator.Proofs.Pass.Courses

/-!
# Deleting without an id

A record whose create was refused, because the resource that it met does not fit, has no id in its
status.  When such a record is deleted, its adapter has to find out by itself what to delete.  The
kinds whose ids the control plane assigns get the resource first, and a get without an id finds only
what the record would take over.  The kinds that are named by their records delete whatever goes by
the name, without looking at it.

`foreign_deleted_iff` turns this into a condition on what the control plane holds: a pass deletes a
resource that its record would not take over if and only if the resource goes by the name of the
record and the record does not protect it.  `Holdings` is what the control plane holds, and
`Holdings.ShownIn` that it shows nothing else, as long as nothing is deleted.

### Where the difference lies

The two groups of kinds differ in one lemma each.  `delete_owned` has nothing about what goes by the
name, because nothing is read, and `delete_assigned` begins with a get whose result meets the
profile (`matches_of_isSought`).  The equivalence speaks of resources, so they have to be told apart
by the targets of the requests for them (`Holdings.apart`): what is deleted at a target is then one
resource.
-/

namespace ServiceOperator

open ControlPlane

/-! ## What a delete is aimed at -/

namespace Spec

/-- The address of the resource with an id. -/
def resourceAddress (id : String) : Spec → List String
  | .postgreSql s => servicePath s.service.project id
  | .kafka s => servicePath s.service.project id
  | .serviceUser s => userPath s.project s.serviceName id
  | .database s => servicePath s.project s.serviceName ++ ["db", id]
  | .connectionPool s => poolPath s.project s.serviceName id
  | .kafkaTopic s => topicPath s.project s.serviceName id
  | .kafkaAcl s => servicePath s.project s.serviceName ++ ["acl", id]
  | .projectVpc s => ["project", s.project, "vpcs", id]
  | .serviceIntegration s => ["project", s.project, "integration", id]

/-- The id that a record with a name gives its resource, if it is the record that gives it. -/
def ownId? (name : String) : Spec → Option String
  | .postgreSql _ => some name
  | .kafka _ => some name
  | .serviceUser _ => some name
  | .database s => some (s.databaseNameOf name)
  | .connectionPool _ => some name
  | .kafkaTopic s => some (s.topicNameOf name)
  | .kafkaAcl _ => none
  | .projectVpc _ => none
  | .serviceIntegration _ => none

/-- The record protects its resource, so that the operator does not delete it. -/
def isProtected : Spec → Bool
  | .database s => s.terminationProtection.getD false
  | .kafkaTopic s => s.terminationProtection.getD false
  | _ => false

end Spec

section Delete

variable {base : Url} {r : Record} {s : Spec} {t : Exchange} {result : Except OperatorError Unit}

/-- A request that is sent only if the record does not protect its resource.  What is not sent does
not fail with an absence. -/
theorem yields_guarded_perform {guard : Option Bool} {resource : String} {c : ControlPlane.Call}
    (yields : (Action.ofExcept (checkDeletable guard resource) >>= fun _ =>
      perform base c).Yields t result) :
    (guard.getD false = true ∧ t = [] ∧ ∃ e, result = .error e ∧ e.isNotFound = false) ∨
      guard.getD false = false ∧ (perform base c).Yields t result := by
  obtain ⟨e, checked, rfl⟩ | ⟨first, u, second, rfl, checked, performed⟩ :=
    Action.yields_bind.mp yields
  · obtain ⟨rfl, refused⟩ := Action.yields_ofExcept.mp checked
    unfold checkDeletable at refused
    split at refused
    case isTrue guarded =>
      cases refused
      exact .inl ⟨guarded, rfl, _, rfl, rfl⟩
    case isFalse => cases refused
  · obtain ⟨rfl, passed⟩ := Action.yields_ofExcept.mp checked
    unfold checkDeletable at passed
    split at passed
    case isTrue => cases passed
    case isFalse free => exact .inr ⟨Bool.eq_false_iff.mpr free, performed⟩

/-- A kind that is named by its records deletes what goes by the name, unless it is protected. -/
theorem delete_owned {id : String} (owned : s.ownId? r.name = some id)
    (yields : ((adapterFor base r s).delete none).Yields t result) :
    (s.isProtected = true ∧ t = []) ∨ s.isProtected = false ∧ ∃ resource,
      (perform base ⟨.delete, s.resourceAddress id, none, resource⟩).Yields t result := by
  -- Two kinds look at their own protection first; the kinds whose ids are assigned own no name.
  cases s with
  | postgreSql s =>
      cases owned
      exact .inr ⟨rfl, _, yields⟩
  | kafka s =>
      cases owned
      exact .inr ⟨rfl, _, yields⟩
  | serviceUser s =>
      cases owned
      exact .inr ⟨rfl, _, yields⟩
  | database s =>
      cases owned
      rcases yields_guarded_perform yields with ⟨guarded, nothing, -⟩ | ⟨free, performed⟩
      · exact .inl ⟨guarded, nothing⟩
      · exact .inr ⟨free, _, performed⟩
  | connectionPool s =>
      cases owned
      exact .inr ⟨rfl, _, yields⟩
  | kafkaTopic s =>
      cases owned
      rcases yields_guarded_perform yields with ⟨guarded, nothing, -⟩ | ⟨free, performed⟩
      · exact .inl ⟨guarded, nothing⟩
      · exact .inr ⟨free, _, performed⟩
  | kafkaAcl s => cases owned
  | projectVpc s => cases owned
  | serviceIntegration s => cases owned

/-- A delete of what an action finds: nothing but the id of the resource is handed on. -/
theorem yields_delete_found {α : Type} (find : Action α) (id : α → String)
    (address : String → List String) (resource : String → String)
    (yields : ((do return id (← find) : Action String) >>= fun id =>
      perform base ⟨.delete, address id, none, resource id⟩).Yields t result) :
    (∃ e, find.Yields t (.error e)) ∨
      ∃ first d second resource, t = first ++ second ∧ find.Yields first (.ok d) ∧
        (perform base ⟨.delete, address (id d), none, resource⟩).Yields second result := by
  obtain ⟨e, resolved, -⟩ | ⟨first, found, second, rfl, resolved, performed⟩ :=
    Action.yields_bind.mp yields
  · obtain ⟨e, failed, same⟩ | ⟨first, d, second, rfl, -, ending⟩ := Action.yields_bind.mp resolved
    · cases same
      exact .inl ⟨_, failed⟩
    · cases (Action.yields_pure.mp ending).2
  · obtain ⟨e, -, same⟩ | ⟨first, d, last, rfl, got, ending⟩ := Action.yields_bind.mp resolved
    · cases same
    · obtain ⟨rfl, same⟩ := Action.yields_pure.mp ending
      cases same
      exact .inr ⟨first, d, second, _, by simp, got, performed⟩

/-- A kind whose ids the control plane assigns deletes what a get finds. -/
theorem delete_assigned (assigned : s.ownId? r.name = none)
    (yields : ((adapterFor base r s).delete none).Yields t result) :
    (∃ e, ((adapterFor base r s).get none).Yields t (.error e)) ∨
      ∃ first d second resource, t = first ++ second ∧
        ((adapterFor base r s).get none).Yields first (.ok d) ∧
        (perform base ⟨.delete, s.resourceAddress ((adapterFor base r s).profile.remoteId d), none,
          resource⟩).Yields second result := by
  cases s with
  | postgreSql s => cases assigned
  | kafka s => cases assigned
  | serviceUser s => cases assigned
  | database s => cases assigned
  | connectionPool s => cases assigned
  | kafkaTopic s => cases assigned
  | kafkaAcl s =>
      exact yields_delete_found (s.find base) AclDocument.id
        (fun id => servicePath s.project s.serviceName ++ ["acl", id])
        (fun id => aclText id s.serviceName) yields
  | projectVpc s =>
      exact yields_delete_found (s.find base) VpcDocument.projectVpcId
        (fun id => ["project", s.project, "vpcs", id]) vpcText yields
  | serviceIntegration s =>
      exact yields_delete_found (s.find base) IntegrationDocument.id
        (fun id => ["project", s.project, "integration", id]) integrationText yields

/-- Where the control plane assigns the ids, a get without an id finds only what the record would
take over. -/
theorem matches_of_isSought {d : s.kind.Remote} (assigned : s.ownId? r.name = none)
    (sought : s.isSought r.name none d = true) :
    (adapterFor base r s).profile.matchesExisting d = true := by
  cases s with
  | postgreSql s => cases assigned
  | kafka s => cases assigned
  | serviceUser s => cases assigned
  | database s => cases assigned
  | connectionPool s => cases assigned
  | kafkaTopic s => cases assigned
  | kafkaAcl s => exact sought
  | projectVpc s => exact (Bool.and_eq_true_iff.mp sought).2
  | serviceIntegration s => exact sought

end Delete

/-! ## What a delete destroys -/

namespace Record

/-- The target of the requests for a resource of the kind of a record. -/
def targetOf (base : Url) (r : Record) (d : r.kind.Remote) : String :=
  base.target (r.spec.resourceAddress ((r.adapter base).profile.remoteId d))

/-- The record would take a resource over that it met when it was created. -/
def adopts (base : Url) (r : Record) (d : r.kind.Remote) : Bool :=
  (r.adapter base).profile.matchesExisting d

end Record

/-- What the control plane holds of the kind of a record, in the project or the service that the
record names.  No two resources are at one target. -/
structure Holdings (base : Url) (r : Record) where
  resources : List r.kind.Remote
  apart : ∀ d ∈ resources, ∀ e ∈ resources, r.targetOf base d = r.targetOf base e → d = e

namespace Holdings

variable {base : Url} {r : Record} {held : Holdings base r} {t : Exchange}

/-- In an exchange the control plane shows nothing but what it holds, as long as nothing is
deleted. -/
def ShownIn (held : Holdings base r) (t : Exchange) : Prop :=
  ∀ before reply after body documents,
    t = before ++ ⟨.http (lookupRequest base (r.spec.lookupAddress r.name none)), reply⟩ :: after →
      (∀ entry ∈ before, entry.1.Spares) → Succeeds reply body →
        r.spec.documentsIn none body = some documents → ∀ d ∈ documents, d ∈ held.resources

/-- Where the control plane assigns the ids, what a get without an id finds is held, and the record
would take it over. -/
theorem get_found (shown : held.ShownIn t) {before after : Exchange} {d : r.kind.Remote}
    (assigned : r.spec.ownId? r.name = none) (split : t = before ++ after)
    (got : ((r.adapter base).get none).Yields before (.ok d)) :
    d ∈ held.resources ∧ r.adopts base d = true := by
  obtain ⟨body, documents, ⟨reply, asked, succeeds⟩, read, first⟩ :=
    (get_finds base r r.spec none).ok got
  have spares := (get_spares base r r.spec none).of_mem got
  obtain ⟨earlier, later, rfl⟩ := List.append_of_mem asked
  refine ⟨?_, matches_of_isSought assigned (List.find?_some first)⟩
  have isShown : d ∈ documents := List.mem_of_find?_eq_some first
  refine shown earlier reply (later ++ after) body documents ?_ ?_ succeeds read d isShown
  · simp [split]
  · intro entry member
    exact spares entry (List.mem_append_left _ member)

end Holdings

section Reconcile

variable {base : Url} {r : Record} {settings : Settings} {now : Instant} {t : Exchange}
  {o : Outcome}

/-- A pass that deletes without an id begins with the delete of its adapter, and deletes nothing
after it. -/
theorem reconcile_delete (deleting : r.metadata.deletionRequested = true)
    (unknown : r.currentStatus.id = none) (yields : (r.reconcile base settings now).Yields t o) :
    ∃ first answer rest, t = first ++ rest ∧ ((r.adapter base).delete none).Yields first answer ∧
      ∀ entry ∈ rest, entry.1.Spares := by
  obtain ⟨calls, called, worked⟩ := Program.yields_interpret.mp yields
  -- The pass hands to the adapter the id of the status, and there is none.
  have made := ((reconcileOnce_course called).deletion deleting).calls
  rw [show (Pass.start _ r.subject settings now .delete).status.id = none from unknown] at made
  obtain ⟨answer, rfl | ⟨found, rfl⟩⟩ := made
  · obtain ⟨first, rest, rfl, deleted, worked⟩ := Program.worked_cons.mp worked
    obtain rfl := Program.worked_nil.mp worked
    exact ⟨first, answer, [], rfl, deleted, by simp⟩
  · obtain ⟨first, rest, rfl, deleted, worked⟩ := Program.worked_cons.mp worked
    obtain ⟨second, rest, rfl, got, worked⟩ := Program.worked_cons.mp worked
    obtain rfl := Program.worked_nil.mp worked
    exact ⟨first, answer, _, rfl, deleted, by
      simpa using (get_spares base r r.spec none).of_mem got⟩

/-- A call deletes at no target but its own. -/
theorem perform_deletesAt {c : ControlPlane.Call} {result : Except OperatorError Unit}
    {target : String} (performed : (perform base c).Yields t result)
    {entry : Sigma Question.Answer} (asked : entry ∈ t)
    (deletes : entry.1.deletesAt target = true) : target = base.target c.address := by
  have asks : (perform base c).Asks fun q => q.deletesAt target = true →
      target = base.target c.address := by
    refine perform_asks ?_ (fun _ impossible => by cases impossible)
      (fun _ impossible => by cases impossible)
    intro deletes
    have same := (Bool.and_eq_true_iff.mp deletes).2
    exact (of_decide_eq_true same).symm
  exact asks.of_mem performed entry asked deletes

/-- **When deleting a record destroys what it would not take over.**  Let a record whose status
has no id be deleted, while the control plane shows nothing but what it holds.  The pass deletes a
held resource that the record would not take over if and only if the record gives its resource the
id and does not protect it, and such a resource goes by the id. -/
theorem foreign_deleted_iff (held : Holdings base r)
    (deleting : r.metadata.deletionRequested = true) (unknown : r.currentStatus.id = none)
    (yields : (r.reconcile base settings now).Yields t o) (shown : held.ShownIn t) :
    (∃ d ∈ held.resources, r.adopts base d = false ∧
        ∃ entry ∈ t, entry.1.deletesAt (r.targetOf base d) = true) ↔
      r.spec.isProtected = false ∧ ∃ id, r.spec.ownId? r.name = some id ∧
        ∃ d ∈ held.resources, r.adopts base d = false ∧
          r.targetOf base d = base.target (r.spec.resourceAddress id) := by
  obtain ⟨first, answer, rest, rfl, deleted, spares⟩ := reconcile_delete deleting unknown yields
  constructor
  · rintro ⟨d, isHeld, foreign, entry, asked, deletes⟩
    -- Only the delete of the adapter deletes, not the get behind it.
    have inFirst : entry ∈ first := by
      rcases List.mem_append.mp asked with early | late
      · exact early
      · simp [(spares entry late).deletesAt] at deletes
    cases own : r.spec.ownId? r.name with
    | some id =>
        rcases delete_owned own deleted with ⟨-, rfl⟩ | ⟨free, resource, performed⟩
        · cases inFirst
        · exact ⟨free, id, rfl, d, isHeld, foreign, perform_deletesAt performed inFirst deletes⟩
    | none =>
        -- What is deleted is what the get found, which is held and would be taken over, so that it
        -- cannot be `d`.
        have spares := get_spares base r r.spec none
        exfalso
        rcases delete_assigned own deleted with
          ⟨e, failed⟩ | ⟨before, found, after, resource, rfl, got, performed⟩
        · simp [(spares.of_mem failed entry inFirst).deletesAt] at deletes
        · rcases List.mem_append.mp inFirst with early | late
          · simp [(spares.of_mem got entry early).deletesAt] at deletes
          · obtain ⟨foundHeld, adopted⟩ :=
              held.get_found shown own (List.append_assoc ..) got
            have same : r.targetOf base d = r.targetOf base found :=
              perform_deletesAt performed late deletes
            rw [held.apart d isHeld found foundHeld same, adopted] at foreign
            cases foreign
  · rintro ⟨free, id, own, d, isHeld, foreign, namesake⟩
    refine ⟨d, isHeld, foreign, ?_⟩
    -- No get comes first: the request goes to the id of the record, whatever is there.
    rcases delete_owned own deleted with ⟨guarded, -⟩ | ⟨-, resource, performed⟩
    · simp [free] at guarded
    · obtain ⟨reply, later, rfl⟩ := perform_first performed
      refine ⟨_, List.mem_append_left _ List.mem_cons_self, ?_⟩
      rw [namesake]
      simp [Question.deletesAt, Call.request]

end Reconcile

/-! ## A name that is taken -/

namespace Namesake

/-- The record of a PostgreSQL service. -/
def record : Record where
  metadata := { Metadata.empty with name := some "orders", namespaceName := some "shop" }
  spec := .postgreSql
    ⟨⟨"p", "x", none, none, none, none, none, none, none, none, none, none, none⟩, none⟩
  status := none

/-- The Kafka service that goes by the name of the record. -/
def service : ServiceDocument :=
  ⟨"orders", "kafka", "RUNNING", none, none, none, none, none, .empty, [], [], [], .empty⟩

/-- That service as the control plane shows it. -/
def body : String :=
  "\x7b\"service\":\x7b\"service_name\":\"orders\",\"service_type\":\"kafka\"," ++
    "\"state\":\"RUNNING\"\x7d\x7d"

/-- Peers of which one has the service, and creates no other of the name. -/
def answer : (q : Question) → q.Answer
  | .http request => if request.method = .post then .answered 409 "" else .answered 200 body
  | .kube _ => .lost
  | .patience _ => 0
  | .now => ⟨0, 0⟩
  | .acquire _ => ()
  | .release _ => ()
  | .count _ => ()

/-- The base URL of the control plane. -/
def base : Url := ⟨"http", some [""], "", none, none⟩

/-- The pass that creates. -/
def refused : Outcome :=
  ((record.reconcile base .standard ⟨0, 0⟩).run (fun q (_ : Unit) => (answer q, ())) ()).1

/-- The record when it is deleted after that pass. -/
def deleting : Record where
  metadata := { record.metadata with deletionRequested := true }
  spec := record.spec
  status := some refused.status

/-- What the pass that deletes asks, with the answers. -/
def exchange : Exchange :=
  (deleting.reconcile base .standard ⟨60, 0⟩).trace (fun q (_ : Unit) => (answer q, ())) ()

/-- The control plane holds the Kafka service and nothing else. -/
def held : Holdings base deleting where
  resources := [service]
  apart _ isHeld _ alsoHeld _ :=
    (List.mem_singleton.mp isHeld).trans (List.mem_singleton.mp alsoHeld).symm

theorem yields : (deleting.reconcile base .standard ⟨60, 0⟩).Yields exchange
    ((deleting.reconcile base .standard ⟨60, 0⟩).run (fun q (_ : Unit) => (answer q, ())) ()).1 :=
  Program.yields_run _ _ _

theorem unknown : deleting.currentStatus.id = none := by decide +kernel

theorem foreign : deleting.adopts base service = false := by decide +kernel

/-- All that the control plane shows at the name is the Kafka service. -/
theorem shownIn : held.ShownIn exchange := by
  intro before reply after text documents split _ succeeds read
  let request := lookupRequest base (deleting.spec.lookupAddress deleting.name none)
  have asked : ⟨.http request, reply⟩ ∈ exchange := by
    rw [split]
    exact List.mem_append_right _ List.mem_cons_self
  have replied : reply = .answered 200 body := Program.answer_of_mem_trace asked
  obtain ⟨status, same, -⟩ := succeeds
  rw [replied] at same
  cases same
  have documentsIn (text : String) : deleting.spec.documentsIn none text =
      (document? (inside "service" ServiceDocument.decode) text).map fun d => [d] := rfl
  have shows : document? (inside "service" ServiceDocument.decode) body = some service := by
    decide +kernel
  rw [documentsIn, shows] at read
  cases read
  intro d isShown
  exact isShown

end Namesake

/-- A record that was refused the service of its name deletes it all the same. -/
theorem foreign_deleted_iff_namesake :
    Namesake.refused.errorReason = some .adoptionRefused ∧
      ∃ d ∈ Namesake.held.resources, Namesake.deleting.adopts Namesake.base d = false ∧
        ∃ entry ∈ Namesake.exchange,
          entry.1.deletesAt (Namesake.deleting.targetOf Namesake.base d) = true := by
  refine ⟨by decide +kernel, ?_⟩
  refine (foreign_deleted_iff Namesake.held rfl Namesake.unknown Namesake.yields
    Namesake.shownIn).mpr ⟨rfl, "orders", rfl, Namesake.service, ?_, Namesake.foreign, rfl⟩
  exact List.mem_singleton_self _

/-- Deleting a record without an id does not spare every resource that the record would not take
over. -/
theorem not_spares_foreign :
    ¬ ∀ (base : Url) (r : Record) (settings : Settings) (now : Instant) (t : Exchange) (o : Outcome)
      (held : Holdings base r), r.metadata.deletionRequested = true → r.currentStatus.id = none →
        (r.reconcile base settings now).Yields t o → held.ShownIn t →
          ∀ d ∈ held.resources, r.adopts base d = false →
            ∀ entry ∈ t, entry.1.deletesAt (r.targetOf base d) = false := by
  intro spares
  have deletes : ∃ entry ∈ Namesake.exchange,
      entry.1.deletesAt (Namesake.deleting.targetOf Namesake.base Namesake.service) = true :=
    List.any_eq_true.mp (by decide +kernel)
  obtain ⟨entry, asked, deletes⟩ := deletes
  have spared := spares Namesake.base Namesake.deleting .standard ⟨60, 0⟩ Namesake.exchange _
    Namesake.held rfl Namesake.unknown Namesake.yields Namesake.shownIn Namesake.service
    (List.mem_singleton_self _) Namesake.foreign entry asked
  rw [deletes] at spared
  cases spared

end ServiceOperator
