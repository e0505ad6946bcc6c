import ServiceOperator.Proofs.ControlPlane.DiskSizes
import ServiceOperator.Proofs.Kinds.Ownership
import ServiceOperator.Proofs.Kinds.Secrecy

/-!
# Updates that fail with an absence

To fail with an absence is for an update to say that the resource is gone.  Most kinds send one
request, and fail so only if the control plane answers it with the status 404.

Two kinds read an object of the cluster before that (`Spec.updatePath?`): a service reads the record
of its VPC, and a user its source secret.  Where that object does not exist, they wait for it.  But
Kubernetes says in two places that there is no such object, by a code and by a reason.  A read goes
by the reason, and the class of an error by the code.  So an answer that has the code without the
reason (`Kubernetes.FailsByCode`) makes the read fail with an absence, which is not one of the
resource: the control plane has not been asked for it (`Unreported`).

`update_missed` says that there is nothing else.
-/

namespace ServiceOperator

open ControlPlane

/-! ## Reads that fail with an absence -/

/-- By its class, an error of Kubernetes means an absence exactly if it has the code 404. -/
theorem KubeError.errorClass_notFound_iff {e : KubeError} :
    e.errorClass = .notFound ↔ ∃ message reason, e = .api 404 message reason := by
  constructor
  · intro absent
    cases e with
    | api code message reason =>
        simp only [errorClass] at absent
        split at absent
        case isTrue same => exact ⟨message, reason, same ▸ rfl⟩
        case isFalse =>
          split at absent
          · cases absent
          · split at absent <;> cases absent
    | _ => cases absent
  · rintro ⟨message, reason, rfl⟩
    rfl

namespace Kubernetes

/-- An answer that has the code of an absence, but not the reason of one. -/
def FailsByCode (reply : KubeReply) (message reason : String) : Prop :=
  reason ≠ "NotFound" ∧ ∃ status body, reply = .answered status body ∧ 400 ≤ status ∧
    status ≤ 599 ∧ Failure.ofAnswer status body = ⟨404, message, reason⟩

/-- A read at a path was answered so, and failed with an error that means an absence. -/
inductive Misread (path : String) (t : Exchange) : OperatorError → Prop
  | intro {reply : KubeReply} {message reason : String} (asked : ⟨.kube ⟨path, none⟩, reply⟩ ∈ t)
      (fails : FailsByCode reply message reason) : Misread path t (.kube (.api 404 message reason))

variable {α : Type} {path : String} {t t' : Exchange} {e : OperatorError}

theorem Misread.mono (misread : Misread path t e) (more : t ⊆ t') : Misread path t' e := by
  cases misread with
  | intro asked fails => exact .intro (more asked) fails

/-- An answer says nothing of an absence but by the code of its failure. -/
theorem failsByCode_of_ofReply {d : Json.Decoder α} {reply : KubeReply} {message reason : String}
    (failed : ofReply d reply = .error (.api 404 message reason)) (other : reason ≠ "NotFound") :
    FailsByCode reply message reason := by
  refine ⟨other, ?_⟩
  cases reply with
  | lost => cases failed
  | answered status body =>
      dsimp only [ofReply] at failed
      split at failed
      case isTrue range =>
        refine ⟨status, body, rfl, range.1, range.2, ?_⟩
        generalize Failure.ofAnswer status body = failure at failed
        obtain ⟨code, text, why⟩ := failure
        cases failed
        rfl
      case isFalse => split at failed <;> cases failed

/-- A read that fails with an absence was answered with the code of one, but not with the reason. -/
theorem read_notFound {c : Collection α} {name : String}
    (yields : (read c name).Yields t (.error e)) (absent : e.isNotFound = true) :
    ∃ path, sendablePath? (c.path ++ "/" ++ name) = some path ∧ Misread path t e := by
  obtain ⟨before, last, after, outcome, rfl, attempt, same⟩ := call_reports yields
  cases outcome with
  | ok found => cases same
  | error failure =>
      cases same
      obtain ⟨message, reason, rfl⟩ := KubeError.errorClass_notFound_iff.mp (by simpa using absent)
      rcases readOnce_course attempt with ⟨-, unsent⟩ | ⟨path, reply, sendable, rfl, readAs⟩
      · cases unsent
      · generalize answered : ofReply c.decode reply = answer at readAs
        cases readAs with
        | failed other =>
            refine ⟨path, sendable, .intro ?_ (failsByCode_of_ofReply answered ?_)⟩
            · simp
            · rintro rfl
              exact other _ _ rfl

end Kubernetes

/-! ## What an update was told -/

/-- The path of the record of the VPC that hosts a service, if it has one. -/
def ServiceSpec.vpcPath? (s : ServiceSpec) (ns : String) : Option String :=
  s.projectVpcRef.bind fun reference => Kubernetes.sendablePath?
    ((Kind.projectVpc.collection (reference.namespaceName.getD ns)).path ++ "/" ++ reference.name)

/-- The path at which an update reads an object of the cluster, if it reads one. -/
def Spec.updatePath? (r : Record) : Spec → Option String
  | .postgreSql s => s.service.vpcPath? r.namespaceName
  | .kafka s => s.service.vpcPath? r.namespaceName
  | .serviceUser _ => r.sourcePath?
  | _ => none

/-- Along an exchange the control plane is asked for no document, and answers nothing with the
status 404. -/
structure Unreported (t : Exchange) : Prop where
  unasked : ∀ target body reply, ⟨.http ⟨.get, target, body⟩, reply⟩ ∉ t
  present : ¬ AnswersNotFound t

/-- What an update was told that fails with an absence: the control plane answered its request with
the status 404, or it was told nothing by the control plane, and misread an object of the cluster.
-/
inductive UpdateMissed (base : Url) (r : Record) (s : Spec) (id : String) (t : Exchange)
    (e : OperatorError) : Prop
  | refused {body : Option Json} {text : String}
      (asked : ⟨.http ⟨.put, base.target (s.resourceAddress id), body⟩, .answered 404 text⟩ ∈ t)
  | misread {path : String} (read : s.updatePath? r = some path)
      (misread : Kubernetes.Misread path t e) (unreported : Unreported t)

section Update

variable {base : Url} {r : Record} {t first second : Exchange} {e : OperatorError} {id : String}

/-- What is asked of others than the control plane reports no absence. -/
theorem unreported_of_internal (internal : ∀ entry ∈ t, entry.1.isExternal = false) :
    Unreported t where
  unasked _ _ _ asked := by cases internal _ asked
  present := by
    rintro ⟨request, body, answered⟩
    cases internal _ answered

/-- Two exchanges without a report make one without a report. -/
theorem Unreported.append (unreported : Unreported first) (unreportedToo : Unreported second) :
    Unreported (first ++ second) where
  unasked target body reply asked := (List.mem_append.mp asked).elim
    (unreported.unasked target body reply) (unreportedToo.unasked target body reply)
  present absent := (answersNotFound_append.mp absent).elim unreported.present
    unreportedToo.present

/-- A change that succeeds says nothing of an absence. -/
theorem unreported_of_performed {c : ControlPlane.Call} (changes : c.method = .put)
    (performed : (perform base c).Yields t (.ok ())) : Unreported t where
  unasked target body reply asked := by
    have asks : (perform base c).Asks fun q => q ≠ .http ⟨.get, target, body⟩ := by
      refine perform_asks ?_ (fun _ => Question.noConfusion) (fun _ => Question.noConfusion)
      intro same
      cases changes.symm.trans (congrArg HttpRequest.method (Question.http.inj same))
    exact asks.of_mem performed _ asked rfl
  present := perform_not_answersNotFound performed

/-- The request of an update was answered with the status 404. -/
theorem UpdateMissed.of_replied {s : Spec} {c : ControlPlane.Call} {text : String}
    (replied : Replied base c first (.answered 404 text)) (more : first ⊆ t)
    (changes : c.method = .put) (address : c.address = s.resourceAddress id) :
    UpdateMissed base r s id t e := by
  have asked := more replied
  rw [Call.request, changes, address] at asked
  exact .refused asked

/-- An update may be preceded by whatever reports no absence. -/
theorem UpdateMissed.behind {s : Spec} (missed : UpdateMissed base r s id second e)
    (unreported : Unreported first) : UpdateMissed base r s id (first ++ second) e := by
  have more : second ⊆ first ++ second := List.subset_append_right ..
  cases missed with
  | refused asked => exact .refused (more asked)
  | misread read misread silent =>
      exact .misread read (misread.mono more) (unreported.append silent)

/-- To read from Kubernetes is not to ask the control plane. -/
theorem kubeRead_internal {α : Type} {c : Kubernetes.Collection α} {name : String} :
    (Kubernetes.read c name).Asks fun q => q.isExternal = false :=
  Kubernetes.call_asks (Kubernetes.readOnce_asks fun _ _ => rfl) rfl

/-- An action that fails on the spot fails with the error that it is given. -/
theorem present_of_fail {α : Type} {failure : OperatorError}
    (yields : (Action.fail failure : Action α).Yields t (.error e))
    (present : failure.isNotFound = false) : e.isNotFound = false := by
  obtain ⟨-, same⟩ := Action.yields_fail.mp yields
  rw [Except.error.inj same]
  exact present

/-! ### Services -/

/-- The id of a VPC is missed only by a misread record: one that does not exist is reported as a
missing dependency. -/
theorem resolveVpc_notFound {ns : String} {reference : ResourceReference}
    (yields : (resolveVpc ns reference).Yields t (.error e)) (absent : e.isNotFound = true) :
    ∃ path, Kubernetes.sendablePath? ((Kind.projectVpc.collection
      (reference.namespaceName.getD ns)).path ++ "/" ++ reference.name) = some path ∧
        Kubernetes.Misread path t e := by
  obtain ⟨e, failed, same⟩ | ⟨first, found, second, rfl, -, afterRead⟩ :=
    Action.yields_bind.mp yields
  · cases same
    exact Kubernetes.read_notFound failed absent
  -- What was read makes the update wait, and is never taken for an absence.
  · exfalso
    cases found with
    | none => cases (present_of_fail afterRead rfl).symm.trans absent
    | some found =>
        dsimp only at afterRead
        split at afterRead
        · cases (Action.yields_pure.mp afterRead).2
        · cases (present_of_fail afterRead rfl).symm.trans absent

/-- So is the id of the VPC of a service, which is read at one path. -/
theorem ServiceSpec.vpcId_notFound {s : ServiceSpec} {ns : String}
    (yields : (s.vpcId ns).Yields t (.error e)) (absent : e.isNotFound = true) :
    ∃ path, s.vpcPath? ns = some path ∧ Kubernetes.Misread path t e := by
  unfold vpcId at yields
  unfold vpcPath?
  split at yields
  case h_1 reference declared =>
    rw [declared, Option.bind_some]
    exact resolveVpc_notFound (Action.yields_map_error.mp yields) absent
  case h_2 => cases (Action.yields_pure.mp yields).2

/-- A size of a disk that is refused means no absence, but a fault of the record. -/
theorem ServiceSpec.diskSpaceMb_present {s : ServiceSpec} (failed : s.diskSpaceMb = .error e) :
    e.isNotFound = false := by
  unfold diskSpaceMb at failed
  split at failed
  case h_1 text _ =>
    cases reading : DiskSpace.parse text with
    | ok mib =>
        rw [reading] at failed
        cases failed
    | error refusal =>
        rw [reading] at failed
        cases failed
        obtain ⟨_, _, rfl⟩ := DiskSpace.refused_as_invalid reading
        rfl
  case h_2 => cases failed

/-- An update of a service reads the record of its VPC, if it has one, and then sends its
request. -/
theorem service_update_missed {s : ServiceSpec} {flavour : ServiceFlavour} {spec : Spec}
    (address : spec.resourceAddress id = servicePath s.project id)
    (path : spec.updatePath? r = s.vpcPath? r.namespaceName)
    (yields : ((serviceAdapter base r s flavour).update id).Yields t (.error e))
    (absent : e.isNotFound = true) : UpdateMissed base r spec id t e := by
  obtain ⟨e, failed, same⟩ | ⟨first, vpc, second, rfl, -, afterVpc⟩ := Action.yields_bind.mp yields
  · cases same
    obtain ⟨there, read, misread⟩ := ServiceSpec.vpcId_notFound failed absent
    have internal : (s.vpcId r.namespaceName).Asks fun q => q.isExternal = false :=
      ServiceSpec.vpcId_asks fun _ _ => resolveVpc_asks kubeRead_internal
    exact .misread (path.trans read) misread (unreported_of_internal (internal.of_mem failed))
  obtain ⟨e, written, same⟩ | ⟨nothing, request, last, rfl, -, afterRequest⟩ :=
    Action.yields_bind.mp afterVpc
  · cases same
    obtain ⟨-, refused⟩ := Action.yields_ofExcept.mp written
    unfold ServiceSpec.updateRequest at refused
    cases disk : s.diskSpaceMb with
    | ok mb =>
        rw [disk] at refused
        cases refused
    | error e =>
        rw [disk] at refused
        cases refused
        cases (ServiceSpec.diskSpaceMb_present disk).symm.trans absent
  obtain ⟨text, replied⟩ := fetch_notFound (Action.yields_map_error.mp afterRequest) absent
  have more : last ⊆ first ++ (nothing ++ last) := by simp
  exact .of_replied replied more rfl address.symm

/-! ### Users -/

/-- A secret that holds no usable value means no absence either. -/
theorem SourceValue.ofSecret_present {secret : Secret} {key uid : String}
    (failed : SourceValue.ofSecret secret key uid = .error e) : e.isNotFound = false := by
  have failed : secret.valueAt key = .error e := by
    unfold ofSecret at failed
    split at failed
    case h_1 => cases failed
    case h_2 valued =>
      cases failed
      exact valued
  unfold Secret.valueAt at failed
  split at failed
  · cases failed
    rfl
  · split at failed
    · cases failed
      rfl
    · split at failed
      · cases failed
      · cases failed
        rfl

/-- The source secret is missed only by a misread: one that does not exist is waited for. -/
theorem Record.readSource_notFound (yields : r.readSource.Yields t (.error e))
    (absent : e.isNotFound = true) :
    ∃ path, r.sourcePath? = some path ∧ Kubernetes.Misread path t e := by
  unfold readSource at yields
  unfold sourcePath?
  split at yields
  case h_1 => cases (Action.yields_pure.mp yields).2
  case h_2 source declared =>
    rw [declared, Option.bind_some]
    obtain ⟨e, failed, same⟩ | ⟨first, found, second, rfl, -, afterRead⟩ :=
      Action.yields_bind.mp yields
    · cases same
      exact Kubernetes.read_notFound failed absent
    · exfalso
      cases found with
      | none => cases (present_of_fail afterRead rfl).symm.trans absent
      | some secret =>
          obtain ⟨-, failed⟩ := Action.yields_ofExcept.mp (Action.yields_map_error.mp afterRead)
          cases (SourceValue.ofSecret_present failed.symm).symm.trans absent

/-- Giving a user its password reads the source secret, if there is one, and then sends its
request. -/
theorem applyPassword_missed {s : ServiceUserSpec}
    (yields : (s.applyPassword base r id).Yields t (.error e)) (absent : e.isNotFound = true) :
    UpdateMissed base r (.serviceUser s) id t e := by
  obtain ⟨e, failed, same⟩ | ⟨first, found, second, rfl, -, afterRead⟩ :=
    Action.yields_bind.mp yields
  · cases same
    obtain ⟨path, read, misread⟩ := Record.readSource_notFound failed absent
    have internal : r.readSource.Asks fun q => q.isExternal = false :=
      Record.readSource_asks fun _ _ => kubeRead_internal
    exact .misread read misread (unreported_of_internal (internal.of_mem failed))
  · cases found with
    | none => cases (Action.yields_pure.mp afterRead).2
    | some source =>
        obtain ⟨text, replied⟩ := perform_notFound afterRead absent
        exact .of_replied replied (List.subset_append_right ..) rfl rfl

/-- An update of a user that fails with an absence was refused, or misread the source secret. -/
theorem user_update_missed {s : ServiceUserSpec}
    (yields : ((s.adapter base r).update id).Yields t (.error e)) (absent : e.isNotFound = true) :
    UpdateMissed base r (.serviceUser s) id t e := by
  unfold ServiceUserSpec.adapter at yields
  dsimp only at yields
  split at yields
  case h_1 authentication _ =>
    obtain ⟨e, failed, same⟩ | ⟨first, u, second, rfl, modified, applied⟩ :=
      Action.yields_bind.mp yields
    · cases same
      obtain ⟨text, replied⟩ := perform_notFound failed absent
      exact .of_replied replied (List.Subset.refl _) rfl rfl
    · exact (applyPassword_missed applied absent).behind (unreported_of_performed rfl modified)
  case h_2 => exact applyPassword_missed yields absent

/-! ### All kinds -/

/-- **An update of any kind that fails with an absence was refused, or misread the cluster.** -/
theorem update_missed {s : Spec} (yields : ((adapterFor base r s).update id).Yields t (.error e))
    (absent : e.isNotFound = true) : UpdateMissed base r s id t e := by
  have performed {c : ControlPlane.Call} (changes : c.method = .put)
      (address : c.address = s.resourceAddress id)
      (failed : (perform base c).Yields t (.error e)) : UpdateMissed base r s id t e := by
    obtain ⟨text, replied⟩ := perform_notFound failed absent
    exact .of_replied replied (List.Subset.refl _) changes address
  cases s with
  | postgreSql s => exact service_update_missed rfl rfl yields absent
  | kafka s => exact service_update_missed rfl rfl yields absent
  | serviceUser s => exact user_update_missed yields absent
  | database s => cases (Action.yields_pure.mp yields).2
  | connectionPool s => exact performed rfl rfl yields
  | kafkaTopic s => exact performed rfl rfl yields
  | kafkaAcl s => cases (present_of_fail yields rfl).symm.trans absent
  | projectVpc s => cases (Action.yields_pure.mp yields).2
  | serviceIntegration s =>
      obtain ⟨text, replied⟩ := fetch_notFound (Action.yields_map_error.mp yields) absent
      exact .of_replied replied (List.Subset.refl _) rfl rfl

end Update

end ServiceOperator
