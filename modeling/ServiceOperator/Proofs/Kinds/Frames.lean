import ServiceOperator.Proofs.Kinds.Lookups
import ServiceOperator.Proofs.Kubernetes.Requests

/-!
# What an adapter never does

Whatever a pass asks an adapter to do, and whatever the peers answer, the adapter talks to the
control plane and reads from Kubernetes, and does nothing else (`Permits.answer`).  In particular it
never writes to Kubernetes: what a pass decides is written down by the controller alone, after the
pass.  To look for the source secret, for the dependencies and for a VPC it only reads, from either
peer.

The lemmas come in the order of what they allow.  `PermitsGetting` and `PermitsRecords` are enough
for the dependencies, `PermitsReading` for everything that only looks, and `Permits` for the calls
that change a resource, so that each lemma asks of its frame no more than its action does.
-/

namespace ServiceOperator

open ControlPlane

variable {P : Question → Prop}

/-! ## Dependencies -/

/-- To look for a resource without a record only the control plane is asked, and for documents
only. -/
theorem PermitsGetting.externalReadiness (permits : PermitsGetting P) (base : Url)
    (project : String) (d : Dependency) : (externalReadiness base project d).Asks P := by
  have absent {α : Type} {found : Action α} {readiness : α → Readiness} (asks : found.Asks P) :
      (absentIfNotFound found readiness).Asks P := by
    refine Program.Asks.bind asks fun result => ?_
    cases result with
    | ok a => exact .done _
    | error e =>
        dsimp only
        split <;> exact .done _
  unfold ServiceOperator.externalReadiness
  split
  · exact absent permits.fetch
  · exact Action.asks_pure
  · exact absent (Action.Asks.bind permits.fetch fun _ => findOr_asks)
  · exact absent permits.fetch

/-- To find the id of a VPC only its record is read. -/
theorem resolveVpc_asks {ns : String} {reference : ResourceReference}
    (found : (named .projectVpc (reference.namespaceName.getD ns) reference.name).Asks P) :
    (resolveVpc ns reference).Asks P := by
  refine Action.Asks.bind found fun found => ?_
  cases found with
  | none => exact Action.asks_fail
  | some r =>
      dsimp only
      split
      · exact Action.asks_pure
      · exact Action.asks_fail

/-- The id of the VPC of a service is the one that the record gives, or it is resolved. -/
theorem ServiceSpec.vpcId_asks {s : ServiceSpec} {ns : String}
    (resolves : ∀ reference, s.projectVpcRef = some reference →
      (resolveVpc ns reference).Asks P) : (s.vpcId ns).Asks P := by
  unfold ServiceSpec.vpcId
  split
  case h_1 reference declared =>
    exact Action.Asks.bind (resolves reference declared) fun _ => Action.asks_pure
  case h_2 => exact Action.asks_pure

namespace PermitsRecords

variable (permits : PermitsRecords P)
include permits

theorem named {k : Kind} {ns name : String} : (named k ns name).Asks P := by
  refine Kubernetes.call_asks (Kubernetes.readOnce_asks ?_) (permits.patience _)
  intro path sendable
  rw [String.append_assoc] at sendable
  exact permits.record path (Kubernetes.ofRecords_of_sendable sendable)

/-- The records of a kind are listed, and nothing else is asked. -/
theorem providing {k : Kind} {d : Dependency} : (providing k d).Asks P := by
  refine Action.Asks.bind ?_ fun _ => Action.asks_pure
  refine Kubernetes.call_asks (Kubernetes.sendTo_asks ?_) (permits.patience _)
  intro path sendable
  rw [← String.append_empty (s := (k.collection d.namespaceName).path)] at sendable
  exact permits.record path (Kubernetes.ofRecords_of_sendable sendable)

/-- To look for a declared record only records are read. -/
theorem declaredReadiness (d : Dependency) : (declaredReadiness d).Asks P := by
  unfold ServiceOperator.declaredReadiness
  split
  · refine Action.Asks.bind permits.named fun found => ?_
    cases found with
    | some r => exact Action.asks_pure
    | none => exact Action.Asks.bind permits.named fun _ => Action.asks_pure
  · exact Action.Asks.bind permits.named fun _ => Action.asks_pure
  · exact Action.Asks.bind permits.providing fun _ => Action.asks_pure
  · exact Action.Asks.bind permits.providing fun _ => Action.asks_pure

/-- To look for the dependencies of a record only records are read from Kubernetes. -/
theorem ensureDependencies (base : Url) (r : Record) : (r.ensureDependencies base).Asks P := by
  refine Program.Asks.interpret (fun q => ?_) _
  cases q with
  | declared d => exact permits.declaredReadiness d
  | external project d => exact permits.externalReadiness base project d

end PermitsRecords

namespace PermitsReading

variable (permits : PermitsReading P)
include permits

theorem ensureDependencies (base : Url) (r : Record) : (r.ensureDependencies base).Asks P :=
  permits.records.ensureDependencies base r

theorem vpcId (s : ServiceSpec) (ns : String) : (s.vpcId ns).Asks P :=
  ServiceSpec.vpcId_asks fun _ _ => resolveVpc_asks permits.records.named

theorem currentFingerprint (r : Record) : r.currentFingerprint.Asks P :=
  Action.Asks.bind (permits.readSource r) fun _ => Action.asks_pure

end PermitsReading

namespace Permits

variable (permits : Permits P)
include permits

theorem applyPassword (base : Url) (r : Record) (s : ServiceUserSpec) (username : String) :
    (s.applyPassword base r username).Asks P := by
  refine Action.Asks.bind (permits.reading.readSource r) fun found => ?_
  cases found with
  | none => exact Action.asks_pure
  | some source => exact permits.perform

/-! ## The calls of all kinds -/

theorem get (base : Url) (r : Record) (s : Spec) (id : Option String) :
    ((adapterFor base r s).get id).Asks P :=
  (get_finds base r s id).asks (permits.http _) permits.count permits.patience

/-- To create a resource a kind talks to the control plane, and reads what it needs for that. -/
theorem create (base : Url) (r : Record) (s : Spec) : (adapterFor base r s).create.Asks P := by
  have service (s : ServiceSpec) (flavour : ServiceFlavour) :
      (serviceAdapter base r s flavour).create.Asks P := by
    refine Action.Asks.bind (permits.reading.vpcId s _) fun vpc => ?_
    refine Action.Asks.bind Action.asks_ofExcept fun request => ?_
    exact Action.Asks.bind permits.fetch fun _ => Action.asks_pure
  cases s with
  | postgreSql s => exact service s.service s.flavour
  | kafka s => exact service s.service s.flavour
  | serviceUser s =>
      refine Action.Asks.bind permits.fetch fun user => ?_
      exact Action.Asks.bind (permits.applyPassword base r s _) fun _ => Action.asks_pure
  | database s => exact Action.Asks.bind permits.perform fun _ => Action.asks_pure
  | connectionPool s => exact Action.Asks.bind permits.perform fun _ => Action.asks_pure
  | kafkaTopic s => exact Action.Asks.bind permits.perform fun _ => Action.asks_pure
  | kafkaAcl s =>
      refine Action.Asks.bind ?_ fun _ => Action.asks_pure
      exact Action.Asks.bind permits.fetch fun _ => findOr_asks
  | projectVpc s => exact Action.Asks.bind permits.fetch fun _ => Action.asks_pure
  | serviceIntegration s => exact Action.Asks.bind permits.fetch fun _ => Action.asks_pure

/-- To update a resource a kind talks to the control plane, and reads what it needs for that. -/
theorem update (base : Url) (r : Record) (s : Spec) (id : String) :
    ((adapterFor base r s).update id).Asks P := by
  have service (s : ServiceSpec) (flavour : ServiceFlavour) :
      ((serviceAdapter base r s flavour).update id).Asks P := by
    refine Action.Asks.bind (permits.reading.vpcId s _) fun vpc => ?_
    refine Action.Asks.bind Action.asks_ofExcept fun request => ?_
    exact Action.Asks.bind permits.fetch fun _ => Action.asks_pure
  cases s with
  | postgreSql s => exact service s.service s.flavour
  | kafka s => exact service s.service s.flavour
  | serviceUser s =>
      unfold adapterFor ServiceUserSpec.adapter
      dsimp only
      split
      · exact Action.Asks.bind permits.perform fun _ => permits.applyPassword base r s id
      · exact permits.applyPassword base r s id
  | database s => exact Action.asks_pure
  | connectionPool s => exact permits.perform
  | kafkaTopic s => exact permits.perform
  | kafkaAcl s => exact Action.asks_fail
  | projectVpc s => exact Action.asks_pure
  | serviceIntegration s => exact Action.Asks.bind permits.fetch fun _ => Action.asks_pure

/-- The kinds whose ids the control plane assigns look the resource up before they delete it. -/
theorem delete (base : Url) (r : Record) (s : Spec) (id : Option String) :
    ((adapterFor base r s).delete id).Asks P := by
  have found (s : Spec) : ((adapterFor base r s).get none).Asks P := permits.get base r s none
  cases s with
  | postgreSql s => exact permits.perform
  | kafka s => exact permits.perform
  | serviceUser s => exact permits.perform
  | database s => exact Action.Asks.bind Action.asks_ofExcept fun _ => permits.perform
  | connectionPool s => exact permits.perform
  | kafkaTopic s => exact Action.Asks.bind Action.asks_ofExcept fun _ => permits.perform
  | kafkaAcl s =>
      refine Action.Asks.bind ?_ fun _ => permits.perform
      cases id with
      | some id => exact Action.asks_pure
      | none => exact Action.Asks.bind (found (.kafkaAcl s)) fun _ => Action.asks_pure
  | projectVpc s =>
      refine Action.Asks.bind ?_ fun _ => permits.perform
      cases id with
      | some id => exact Action.asks_pure
      | none => exact Action.Asks.bind (found (.projectVpc s)) fun _ => Action.asks_pure
  | serviceIntegration s =>
      refine Action.Asks.bind ?_ fun _ => permits.perform
      cases id with
      | some id => exact Action.asks_pure
      | none => exact Action.Asks.bind (found (.serviceIntegration s)) fun _ => Action.asks_pure

/-- To connect to a resource a kind asks the control plane for documents. -/
theorem connectionInfo (base : Url) (r : Record) (s : Spec) (remote : s.kind.Remote) :
    ((adapterFor base r s).connectionInfo remote).Asks P := by
  cases s with
  | postgreSql s => exact Action.Asks.bind permits.fetch fun _ => Action.asks_ofExcept
  | kafka s => exact Action.Asks.bind permits.fetch fun _ => Action.asks_ofExcept
  | serviceUser s =>
      refine Action.Asks.bind permits.fetch fun service => ?_
      exact Action.Asks.bind permits.fetch fun _ => Action.asks_ofExcept
  | database s => exact Action.asks_pure
  | connectionPool s => exact Action.Asks.bind permits.fetch fun _ => Action.asks_ofExcept
  | kafkaTopic s => exact Action.asks_pure
  | kafkaAcl s => exact Action.asks_pure
  | projectVpc s => exact Action.asks_pure
  | serviceIntegration s => exact Action.asks_pure

/-- **Whatever a pass asks, an adapter stays inside every frame that permits its calls.** -/
theorem answer (base : Url) (r : Record) (s : Spec) (c : Call s.kind.Remote) :
    Program.Asks P ((adapterFor base r s).answer c) := by
  cases c with
  | sourceFingerprint => cases s <;> exact permits.reading.currentFingerprint r
  | checkPreconditions => cases s <;> exact permits.reading.ensureDependencies base r
  | create => exact permits.create base r s
  | update id => exact permits.update base r s id
  | get id => exact permits.get base r s id
  | delete id => exact permits.delete base r s id
  | connectionInfo remote => exact permits.connectionInfo base r s remote

/-- So does a whole pass. -/
theorem reconcile (base : Url) (r : Record) (settings : Settings) (now : Instant) :
    Program.Asks P (r.reconcile base settings now) :=
  Program.Asks.interpret (permits.answer base r r.spec) _

end Permits

end ServiceOperator
