import ServiceOperator.Proofs.Kinds.Ownership
import ServiceOperator.Proofs.Pass.Outcomes

/-!
# Deleting what is gone

A resource may vanish together with all that it belonged to: its service, its project.  The control
plane then answers every request with the status 404, and that is enough to let the record go.

An action *misses* if nothing but an absence can come of it then (`Action.Misses`).  A call misses,
and so does whatever starts with a call, so that it does not matter how a kind looks its resource
up: in its own document, in that of its service or in a list.  A delete without an id looks it up
first and misses there.  The one delete that does not miss is the one that is never sent, because
the record protects its resource (`delete_refuses`).

Neither action asks anything of Kubernetes; what the cluster holds has no part in it.

### Why a property of actions

What a deletion asks differs from kind to kind, and in what order it asks it, and `Action.Misses`
says nothing about either.  It is closed under whatever follows a part that misses (`Misses.bind`),
since what follows is never reached.  So each kind is checked at the first call that it makes, and
the pass is left with two facts (`get_misses`, `delete_misses`), from which the release of the
record follows for all kinds at once.
-/

namespace ServiceOperator

open ControlPlane
open Calls (Entry)

/-- In an exchange the control plane knows nothing: it answers every request with the status 404. -/
def KnowsNothing (t : Exchange) : Prop :=
  ∀ (request : HttpRequest) (reply : HttpReply), ⟨.http request, reply⟩ ∈ t →
    ∃ body, reply = .answered 404 body

namespace KnowsNothing

variable {first second : Exchange}

theorem left (nothing : KnowsNothing (first ++ second)) : KnowsNothing first :=
  fun request reply asked => nothing request reply (List.mem_append_left _ asked)

theorem right (nothing : KnowsNothing (first ++ second)) : KnowsNothing second :=
  fun request reply asked => nothing request reply (List.mem_append_right _ asked)

end KnowsNothing

/-! ## Actions that miss -/

namespace Action

variable {α β : Type} {a : Action α} {f : α → Action β} {x : α}

/-- Against a control plane that knows nothing, an action fails with an absence. -/
def Misses (a : Action α) : Prop :=
  ∀ t r, KnowsNothing t → a.Yields t r → ∃ e, r = .error e ∧ e.isNotFound = true

/-- What follows a part that misses is never reached. -/
theorem Misses.bind (misses : a.Misses) (f : α → Action β) : (a >>= f).Misses := by
  intro t r nothing yields
  obtain ⟨e, failed, rfl⟩ | ⟨first, x, second, rfl, passed, -⟩ := yields_bind.mp yields
  · obtain ⟨_, same, absent⟩ := misses t _ nothing failed
    cases same
    exact ⟨e, rfl, absent⟩
  · obtain ⟨_, same, -⟩ := misses first _ nothing.left passed
    cases same

/-- What asks nothing may come before a part that misses. -/
theorem misses_pure_bind (misses : (f x).Misses) : ((pure x : Action α) >>= f).Misses := by
  intro t r nothing yields
  obtain ⟨e, failed, -⟩ | ⟨first, y, second, rfl, passed, rest⟩ := yields_bind.mp yields
  · cases (yields_pure.mp failed).2
  · obtain ⟨rfl, same⟩ := yields_pure.mp passed
    cases same
    exact misses second r nothing rest

end Action

section Calls

variable {α : Type} {base : Url} {c : ControlPlane.Call}

/-- A call misses: its first attempt is answered with the status 404, and no other is made. -/
theorem send_misses : (send base c).Misses := by
  intro t r nothing yields
  obtain ⟨reply, replied, reports⟩ := send_reports yields
  obtain ⟨body, rfl⟩ := nothing _ _ replied
  cases r with
  | ok text =>
      obtain ⟨status, same, -, success⟩ := reports
      cases same
      exact absurd success (by decide)
  | error e =>
      rcases failsWith_cases reports with ⟨status, text, same, rfl⟩ | ⟨text, rfl⟩
      · cases same
        exact ⟨_, rfl, rfl⟩
      · rcases reports with failed | failed <;> cases failed

theorem fetch_misses {d : Json.Decoder α} : (fetch base c d).Misses := send_misses.bind _

theorem perform_misses : (perform base c).Misses := send_misses.bind _

end Calls

/-! ## The two actions of a deletion -/

section Kinds

variable (base : Url) (r : Record) (s : Spec) (id : Option String)

/-- **A get of any kind misses**, wherever it looks. -/
theorem get_misses : ((adapterFor base r s).get id).Misses := by
  cases s with
  | postgreSql s => exact fetch_misses
  | kafka s => exact fetch_misses
  | serviceUser s => exact fetch_misses
  | database s => exact fetch_misses.bind _
  | connectionPool s => exact fetch_misses.bind _
  | kafkaTopic s => exact fetch_misses
  | kafkaAcl s =>
      cases id with
      | some id => exact fetch_misses.bind _
      | none => exact fetch_misses.bind _
  | projectVpc s =>
      cases id with
      | some id => exact fetch_misses.bind _
      | none => exact fetch_misses.bind _
  | serviceIntegration s =>
      cases id with
      | some id => exact fetch_misses
      | none => exact fetch_misses.bind _

/-- What a delete that resolves an id first does with the id. -/
theorem resolved_misses {α : Type} {find : Action α} {idOf : α → String}
    {c : String → ControlPlane.Call} {resolve : Option String → Action String}
    (known : ∀ id, resolve (some id) = pure id)
    (unknown : resolve none = find >>= fun d => pure (idOf d)) (misses : find.Misses) :
    (resolve id >>= fun id => perform base (c id)).Misses := by
  cases id with
  | some id =>
      rw [known]
      exact Action.misses_pure_bind perform_misses
  | none =>
      rw [unknown]
      exact (misses.bind _).bind _

/-- A delete of a resource that is not protected misses behind the check of its protection. -/
theorem guarded_misses {guard : Option Bool} {resource : String} {c : ControlPlane.Call}
    (free : guard.getD false = false) :
    (Action.ofExcept (checkDeletable guard resource) >>= fun _ => perform base c).Misses := by
  intro t r nothing yields
  rcases yields_guarded_perform yields with ⟨guarded, -⟩ | ⟨-, performed⟩
  · cases free.symm.trans guarded
  · exact perform_misses t r nothing performed

/-- **A delete of any kind misses**, unless the record protects its resource. -/
theorem delete_misses (free : s.isProtected = false) :
    ((adapterFor base r s).delete id).Misses := by
  cases s with
  | postgreSql s => exact perform_misses
  | kafka s => exact perform_misses
  | serviceUser s => exact perform_misses
  | database s => exact guarded_misses base free
  | connectionPool s => exact perform_misses
  | kafkaTopic s => exact guarded_misses base free
  | kafkaAcl s =>
      exact resolved_misses base id (fun _ => rfl) rfl (fetch_misses.bind _)
  | projectVpc s =>
      exact resolved_misses base id (fun _ => rfl) rfl (fetch_misses.bind _)
  | serviceIntegration s =>
      exact resolved_misses base id (fun _ => rfl) rfl (fetch_misses.bind _)

/-- A protected resource is not asked for, and no absence is found. -/
theorem delete_refuses {t : Exchange} {result : Except OperatorError Unit}
    (guarded : s.isProtected = true) (yields : ((adapterFor base r s).delete id).Yields t result) :
    ∃ e, result = .error e ∧ e.isNotFound = false := by
  cases s with
  | database s =>
      rcases yields_guarded_perform yields with ⟨-, -, refused⟩ | ⟨free, -⟩
      · exact refused
      · cases free.symm.trans guarded
  | kafkaTopic s =>
      rcases yields_guarded_perform yields with ⟨-, -, refused⟩ | ⟨free, -⟩
      · exact refused
      · cases free.symm.trans guarded
  | _ => cases guarded

end Kinds

/-! ## The pass -/

section Reconcile

variable {base : Url} {r : Record} {settings : Settings} {now : Instant} {t : Exchange}
  {o : Outcome}

section Worked

variable {calls : List (Entry r.kind.Remote)} {id : Option String}
  {deleted : Except OperatorError Unit} {found : Except OperatorError r.kind.Remote}

/-- The delete of a pass comes to an absence, unless the record protects its resource. -/
theorem deleted_of_worked
    (worked : Program.Worked (r.adapter base).answer (Entry.deleted id deleted :: calls) t)
    (free : r.spec.isProtected = false) (nothing : KnowsNothing t) :
    ∃ e, deleted = .error e ∧ e.isNotFound = true := by
  obtain ⟨first, rest, rfl, yields, -⟩ := Program.worked_cons.mp worked
  exact delete_misses base r r.spec id free first deleted nothing.left yields

/-- The get behind the delete comes to an absence. -/
theorem got_of_worked
    (worked : Program.Worked (r.adapter base).answer
      (Entry.deleted id deleted :: Entry.got id found :: calls) t)
    (nothing : KnowsNothing t) : ∃ e, found = .error e ∧ e.isNotFound = true := by
  obtain ⟨first, rest, rfl, -, worked⟩ := Program.worked_cons.mp worked
  obtain ⟨second, rest, rfl, yields, -⟩ := Program.worked_cons.mp worked
  exact get_misses base r r.spec id second found nothing.right.left yields

end Worked

/-- Whatever is asked of a control plane that knows nothing, the record goes exactly if it does not
protect its resource. -/
theorem reconcile_releases_iff (deleting : r.metadata.deletionRequested = true)
    (nothing : KnowsNothing t) (yields : (r.reconcile base settings now).Yields t o) :
    o.removeFinalizer = true ↔ r.spec.isProtected = false := by
  obtain ⟨calls, called, worked⟩ := Program.yields_interpret.mp yields
  have course := (reconcileOnce_course called).deletion deleting
  constructor
  · intro released
    obtain ⟨answer, e, rfl, accepted, -⟩ := (Pass.delete_removeFinalizer_iff rfl course).mp released
    obtain ⟨first, rest, rfl, deleted, -⟩ := Program.worked_cons.mp worked
    refine Bool.eq_false_iff.mpr fun guarded => ?_
    obtain ⟨_, rfl, present⟩ := delete_refuses base r r.spec _ guarded deleted
    cases present.symm.trans (Calls.deleteAccepted_error.mp accepted)
  · intro free
    -- Of the courses of a deletion, four have an answer that is no absence.
    cases course with
    | undeleted present =>
        obtain ⟨_, same, absent⟩ := deleted_of_worked worked free nothing
        cases same
        cases present.symm.trans absent
    | unconfirmed accepted present =>
        obtain ⟨_, same, absent⟩ := got_of_worked worked nothing
        cases same
        cases present.symm.trans absent
    | confirmed => rfl
    | overdue =>
        obtain ⟨_, same, -⟩ := got_of_worked worked nothing
        cases same
    | lingering =>
        obtain ⟨_, same, -⟩ := got_of_worked worked nothing
        cases same

/-- **Deleting what is gone is done at once.**  Whatever the kind of a record that is being deleted,
its status, and the answers of Kubernetes: if the control plane answers every request with the
status 404, the first pass lets the record go, unless it protects its resource. -/
theorem gone_released_at_once {σ : Type} {answer : (q : Question) → σ → q.Answer × σ}
    (deleting : r.metadata.deletionRequested = true)
    (absent : ∀ request s, ∃ body, (answer (.http request) s).1 = .answered 404 body) (s : σ) :
    ((r.reconcile base settings now).run answer s).1.removeFinalizer = true ↔
      r.spec.isProtected = false := by
  refine reconcile_releases_iff deleting ?_ (Program.yields_run answer _ s)
  intro request reply asked
  obtain ⟨s', given⟩ := Program.exists_answer_of_mem_trace asked
  obtain ⟨body, same⟩ := absent request s'
  exact ⟨body, given.trans same⟩

end Reconcile

namespace Swept

/-- A record of a link whose create was never confirmed, between services that are gone. -/
def record : Record where
  metadata := { Metadata.empty with
    name := some "logs", namespaceName := some "shop", deletionRequested := true }
  spec := .serviceIntegration ⟨"p", "logs", "orders", "sink", none⟩
  status := none

/-- Peers of which one knows nothing, and the other does not answer. -/
def answer : (q : Question) → Nat → q.Answer × Nat
  | .http _, asked => (.answered 404 "", asked + 1)
  | .kube _, asked => (.lost, asked)
  | .patience _, asked => (0, asked)
  | .now, asked => (⟨0, 0⟩, asked)
  | .acquire _, asked => ((), asked)
  | .release _, asked => ((), asked)
  | .count _, asked => ((), asked)

/-- What the pass that deletes leaves behind, with the number of requests to the control plane. -/
def released : Outcome × Nat :=
  (record.reconcile Namesake.base .standard ⟨0, 0⟩).run answer 0

end Swept

/-- A link between services that are gone is let go, after one look for it in each action. -/
theorem gone_released_at_once_swept :
    Swept.released.1.removeFinalizer = true ∧ Swept.released.2 = 2 := by
  have absent (request : HttpRequest) (asked : Nat) :
      ∃ body, (Swept.answer (.http request) asked).1 = .answered 404 body := ⟨"", rfl⟩
  exact ⟨(gone_released_at_once rfl absent 0).mpr rfl, by decide +kernel⟩

end ServiceOperator
