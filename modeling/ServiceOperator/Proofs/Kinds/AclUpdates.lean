import ServiceOperator.Proofs.Kinds.Dependencies
import ServiceOperator.Proofs.Kinds.Rotation
import ServiceOperator.Proofs.Pass.Causes
import ServiceOperator.Proofs.Pass.InPlace

/-!
# Entries of an access list are never modified

The control plane cannot modify an entry of an access list, and an update of one does nothing but
find fault with the record.  `acl_never_modified` says that it never comes to that: whatever the
generation and the status of the record, whether or not it is being deleted, and whatever the peers
answer, no pass asks for an update.

The kind is one that is remade (`Profile.Remade`), and its records have no source secret, so that no
pass over them updates anything (`CompletedPass.updatesNothing`).  Of the other calls of the kind
none finds fault with the record (`KafkaAclSpec.answer_notInvalid`), and a pass that fails for a
fault can be followed back to a call (`CompletedPass.answered_of_errorReason`).  So no pass fails
for that reason at all.

### What is load-bearing

The update of the kind is modelled as it is, an action that asks nothing and fails, and
`ModifiesNothing.refused` says so, because the law is only worth stating of an update that would
find fault.  That it is not called follows from two parts of the profile and not from the state of a
record: the resource of an entry is replaced where another kind would be updated
(`KafkaAclSpec.profile_remade`), and never has a drift that an update would correct.
-/

namespace ServiceOperator

open Program (Worked)
open ControlPlane (fetch_findOr_ofCall perform_ofCall)

/-- Without a source secret there is no fingerprint, and nothing is asked to find that out. -/
theorem Record.yields_currentFingerprint {r : Record} {t : Exchange}
    {result : Except OperatorError (Option String)} (unsourced : r.secretSource? = none) :
    r.currentFingerprint.Yields t result ↔ t = [] ∧ result = .ok none := by
  have nothing : r.readSource = pure none := by
    unfold readSource
    rw [unsourced]
  unfold currentFingerprint
  rw [nothing]
  exact Action.yields_pure

namespace RecordPass

variable {base : Url}

/-- A pass makes these calls, and the adapter of its record carries them out. -/
structure Makes (pass : RecordPass base) (calls : List (Calls.Entry pass.record.kind.Remote)) :
    Prop where
  yields : (reconcileOnce (pass.record.adapter base).profile pass.record.subject pass.settings
    pass.now).Yields calls pass.outcome
  worked : Worked (pass.record.adapter base).answer calls pass.asked

theorem exists_makes (pass : RecordPass base) : ∃ calls, pass.Makes calls := by
  obtain ⟨calls, yields, worked⟩ := Program.yields_interpret.mp pass.yields
  exact ⟨calls, yields, worked⟩

/-- A pass over an entry modifies nothing.  An update would fail, as the entry cannot be modified;
but the pass makes none, takes the step of none, and fails for no such reason. -/
structure ModifiesNothing (pass : RecordPass base) : Prop where
  refused : ∀ id t result, ((pass.record.adapter base).update id).Yields t result ↔
    t = [] ∧ result = .error (.invalidSpec ("ACL " ++ id ++ " cannot be modified in place"))
  calls : ∃ calls, pass.Makes calls
  nothing : ∀ calls, pass.Makes calls → UpdatesNothing calls
  step : pass.outcome.step ≠ .update
  reason : pass.outcome.errorReason ≠ some .invalidSpec

end RecordPass

theorem Reason.not_isOwn_invalidSpec : ¬ Reason.IsOwn .invalidSpec := by
  rintro (⟨⟨⟩⟩ | _ | _)

namespace KafkaAclSpec

variable {base : Url} {r : Record} {s : KafkaAclSpec} {t : Exchange} {e : OperatorError}

theorem profile_remade : s.profile.Remade := ⟨rfl, rfl, fun _ => rfl⟩

theorem get_ofCall {id : Option String}
    (failed : ((s.adapter base r).get id).Yields t (.error e)) : e.OfCall := by
  cases id with
  | some id => exact fetch_findOr_ofCall .notFound failed
  | none => exact fetch_findOr_ofCall .notFound failed

/-- A delete of an entry fails with an error of a call. -/
theorem delete_ofCall {id : Option String}
    (failed : ((s.adapter base r).delete id).Yields t (.error e)) : e.OfCall := by
  obtain ⟨e, resolved, same⟩ | ⟨first, found, second, rfl, -, performed⟩ :=
    Action.yields_bind.mp failed
  · cases same
    cases id with
    | some id => cases (Action.yields_pure.mp resolved).2
    | none => exact fetch_findOr_ofCall .notFound (Action.yields_map_error.mp resolved)
  · exact perform_ofCall performed

/-- No call but an update finds fault with the record. -/
theorem answer_notInvalid {call : Call AclDocument} (unsourced : r.secretSource? = none)
    (other : call.updates = false)
    (failed : ((s.adapter base r).answer call).Yields t (.error e)) : e.reason ≠ .invalidSpec := by
  cases call with
  | sourceFingerprint => cases ((Record.yields_currentFingerprint unsourced).mp failed).2
  | checkPreconditions =>
      rcases ensureReady_course failed with ⟨same, -⟩ | ⟨e, same, unready⟩
      · cases same
      · cases same
        exact unready.notInvalid
  | create => exact (fetch_findOr_ofCall .transport (Action.yields_map_error.mp failed)).notInvalid
  | update id => cases other
  | get id => exact (get_ofCall failed).notInvalid
  | delete id => exact (delete_ofCall failed).notInvalid
  | connectionInfo remote => cases (Action.yields_pure.mp failed).2

variable {calls : List (Calls.Entry AclDocument)} {o : Outcome}

/-- No pass over an entry learns the fingerprint of a source secret. -/
theorem worked_unsourced (unsourced : r.secretSource? = none)
    (worked : Worked (s.adapter base r).answer calls t) : Unsourced calls := by
  intro fingerprint member
  obtain ⟨inner, answered⟩ := worked.of_mem member
  have same := ((Record.yields_currentFingerprint unsourced).mp answered).2
  exact Except.ok.inj same

/-- **The law of a pass.**  A pass over a record of the kind asks for no update, takes another step,
and does not fail because there is a fault with the record. -/
theorem pass_updatesNothing {settings : Settings} {now : Instant}
    (unsourced : r.secretSource? = none)
    (yields : (reconcileOnce s.profile r.subject settings now).Yields calls o)
    (worked : Worked (s.adapter base r).answer calls t) :
    UpdatesNothing calls ∧ o.step ≠ .update ∧ o.errorReason ≠ some .invalidSpec := by
  let pass : CompletedPass AclDocument := ⟨_, _, _, _, _, _, yields⟩
  obtain ⟨nothing, step⟩ :=
    pass.updatesNothing profile_remade (worked_unsourced unsourced worked)
  refine ⟨nothing, step, fun failure => ?_⟩
  obtain ⟨call, e, last, invalid⟩ :=
    pass.answered_of_errorReason failure Reason.not_isOwn_invalidSpec
  have member := List.mem_of_getLast? last
  obtain ⟨inner, failed⟩ := worked.of_mem member
  exact answer_notInvalid unsourced (nothing _ member) failed invalid

end KafkaAclSpec

/-- A pass over a record of the kind modifies nothing. -/
theorem RecordPass.modifiesNothing_of_acl {base : Url} (pass : RecordPass base)
    (acl : pass.record.kind = .kafkaAcl) : pass.ModifiesNothing := by
  obtain ⟨⟨metadata, spec, status⟩, settings, now, asked, outcome, yields⟩ := pass
  cases spec with
  | kafkaAcl s =>
      have law {calls : List (Calls.Entry AclDocument)}
          (makes : RecordPass.Makes ⟨_, settings, now, asked, outcome, yields⟩ calls) :
          UpdatesNothing calls ∧ outcome.step ≠ .update ∧
            outcome.errorReason ≠ some .invalidSpec :=
        KafkaAclSpec.pass_updatesNothing rfl makes.yields makes.worked
      obtain ⟨calls, makes⟩ := RecordPass.exists_makes ⟨_, settings, now, asked, outcome, yields⟩
      obtain ⟨-, step, reason⟩ := law makes
      exact ⟨fun _ _ _ => Action.yields_fail, ⟨calls, makes⟩, fun _ makes => (law makes).1, step,
        reason⟩
  | _ => cases acl

/-- **Entries of an access list are never modified.**  No pass of any run over records of the kind
asks for an update, takes the step of one, or fails because there can be none. -/
theorem acl_never_modified {base : Url} {run : List (RecordPass base)}
    (acls : ∀ pass ∈ run, pass.record.kind = .kafkaAcl) : ∀ pass ∈ run, pass.ModifiesNothing :=
  fun pass member => pass.modifiesNothing_of_acl (acls pass member)

/-! ## An entry that is replaced -/

namespace Regranted

/-- A record that grants a permission, at a generation. -/
def record (generation : Int) (permission : Permission) (status : Option ResourceStatus) :
    Record where
  metadata := { Metadata.empty with
    name := some "grant"
    namespaceName := some "ns"
    generation := some generation }
  spec := .kafkaAcl ⟨"p", "s", permission, "t", "u"⟩
  status := status

/-- The base URL of the control plane. -/
def base : Url := ⟨"http", some [""], "", none, none⟩

/-- The access list when it holds the entry with a permission, as a body. -/
def held (permission : Permission) : String :=
  "\x7b\"acl\":[\x7b\"id\":\"" ++ permission.text ++ "\",\"permission\":\"" ++ permission.text ++
    "\",\"topic\":\"t\",\"username\":\"u\"\x7d]\x7d"

/-- The record of the service, which is declared and runs. -/
def service : String :=
  "\x7b\"metadata\":\x7b\x7d,\"spec\":\x7b\"project\":\"p\",\"plan\":\"x\"\x7d," ++
    "\"status\":\x7b\"conditions\":[\x7b\"type\":\"Running\",\"status\":\"True\"\x7d]\x7d\x7d"

/-- Peers of which one has the service, and the other one has the entry with a permission and lets
any entry be deleted. -/
def answer (permission : Permission) : (q : Question) → q.Answer :=
  Question.answerBy (fun _ => .answered 200 (held permission)) fun _ => .answered 200 service

/-- The pass that creates an entry. -/
def first : RecordPass base :=
  .against (answer .read) (record 1 .read none) .standard ⟨0, 0⟩

/-- The record grants more. -/
def second : RecordPass base :=
  .against (answer .write) (record 2 .write (some first.outcome.status)) .standard ⟨60, 0⟩

end Regranted

/-- A record that grants another permission has its entry replaced, and the old one is not
modified. -/
theorem acl_never_modified_regranted :
    (Regranted.first.outcome.step = .create ∧ Regranted.second.outcome.step = .replace ∧
        Regranted.second.outcome.mutation = some .replaced ∧
        Regranted.second.outcome.status.id = some "write") ∧
      ∀ pass ∈ [Regranted.first, Regranted.second], pass.ModifiesNothing := by
  refine ⟨by decide +kernel, acl_never_modified ?_⟩
  intro pass member
  rcases List.mem_cons.mp member with rfl | later
  · rfl
  · rw [List.mem_singleton.mp later]
    rfl

end ServiceOperator
