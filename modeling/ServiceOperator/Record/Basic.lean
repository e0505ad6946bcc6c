import ServiceOperator.Record.Dependency
import ServiceOperator.Record.Metadata
import ServiceOperator.Record.Spec
import ServiceOperator.Status.ResourceStatus

/-!
# Records

A record is an object in Kubernetes that declares a resource of the control plane. Besides its
specification it has metadata and, once a pass has run, a status. From these follow what it depends
on and provides, and which secrets it reads and writes.
-/

namespace ServiceOperator

/-- A declared resource. -/
structure Record where
  metadata : Metadata
  spec : Spec
  status : Option ResourceStatus

namespace Record

/-- The kind of the record. -/
def kind (r : Record) : Kind := r.spec.kind

/-- The name of the record. -/
def name (r : Record) : String := r.metadata.displayName

/-- The namespace of the record. -/
def namespaceName (r : Record) : String := r.metadata.namespaceName.getD ""

/-- The key under which the passes of the record are kept apart. -/
def key (r : Record) : String :=
  r.kind.name ++ "/" ++ r.namespaceName ++ "/" ++ r.name

/-- The project on the control plane. -/
def project (r : Record) : String :=
  match r.spec with
  | .postgreSql s => s.service.project
  | .kafka s => s.service.project
  | .serviceUser s => s.project
  | .database s => s.project
  | .connectionPool s => s.project
  | .kafkaTopic s => s.project
  | .kafkaAcl s => s.project
  | .projectVpc s => s.project
  | .serviceIntegration s => s.project

/-- The name of the resource on the control plane, for the kinds that may choose it. -/
def externalName? (r : Record) : Option String :=
  match r.spec with
  | .database s => some (s.databaseName.getD r.name)
  | .kafkaTopic s => some (s.topicName.getD r.name)
  | _ => none

/-- Where the record wants its connection info. -/
def secretTarget? (r : Record) : Option SecretTarget :=
  match r.spec with
  | .postgreSql s => s.service.secretTarget
  | .kafka s => s.service.secretTarget
  | .serviceUser s => s.secretTarget
  | .connectionPool s => s.secretTarget
  | _ => none

/-- The record wants no connection info. -/
def secretTargetDisabled (r : Record) : Bool :=
  match r.spec with
  | .postgreSql s => s.service.secretTargetDisabled.getD false
  | .kafka s => s.service.secretTargetDisabled.getD false
  | .serviceUser s => s.secretTargetDisabled.getD false
  | .connectionPool s => s.secretTargetDisabled.getD false
  | _ => false

/-- Where the record gets its password. -/
def secretSource? (r : Record) : Option SecretSource :=
  match r.spec with
  | .serviceUser s => s.secretSource
  | _ => none

/-- The namespace of the source secret. -/
def sourceNamespace (r : Record) (s : SecretSource) : String :=
  s.namespaceName.getD r.namespaceName

/-- What a service depends on: its VPC, then the services that it is integrated with. -/
def serviceDependencies (ns : String) (s : ServiceSpec) : List Dependency :=
  (s.projectVpcRef.toList.map fun v => .projectVpc (v.namespaceName.getD ns) v.name) ++
    (s.serviceIntegrations.getD []).map fun i => .service ns i.sourceServiceName

/-- What has to be ready before the resource can be created, in order. -/
def dependencies (r : Record) : List Dependency :=
  let ns := r.namespaceName
  match r.spec with
  | .postgreSql s =>
    serviceDependencies ns s.service ++ s.forkFromServiceName.toList.map (Dependency.service ns)
  | .kafka s => serviceDependencies ns s.service
  | .serviceUser s => [.service ns s.serviceName]
  | .database s => [.service ns s.serviceName]
  | .connectionPool s =>
    [.service ns s.serviceName, .database ns s.serviceName s.databaseName,
      .serviceUser ns s.serviceName s.username]
  | .kafkaTopic s => [.service ns s.serviceName]
  | .kafkaAcl s => [.service ns s.serviceName]
  | .projectVpc _ => []
  | .serviceIntegration s =>
    [.service ns s.sourceServiceName, .service ns s.destinationServiceName]

/-- What the record is for those that depend on it. -/
def provides? (r : Record) : Option Dependency :=
  let ns := r.namespaceName
  match r.spec with
  | .postgreSql _ => some (.service ns r.name)
  | .kafka _ => some (.service ns r.name)
  | .serviceUser s => some (.serviceUser ns s.serviceName r.name)
  | .database s => some (.database ns s.serviceName (s.databaseName.getD r.name))
  | .projectVpc _ => some (.projectVpc ns r.name)
  | _ => none

/-- The stored status, the initial one before the first pass. -/
def currentStatus (r : Record) : ResourceStatus := r.status.getD .initial

/-- Others may use the resource. -/
def isUsable (r : Record) : Bool := r.currentStatus.isUsable

/-- How far the resource is for those that depend on it. -/
def readiness (r : Record) : Readiness :=
  if r.isUsable then .ready
  else .notReady (r.kind.name ++ " state is " ++ r.currentStatus.state.getD "not yet created")

/-- The record of a kind that a document writes. -/
def decode (k : Kind) : Json.Decoder Record := fun j => do
  let f ← Json.Fields.of? ["metadata", "spec", "status"] j
  some {
    metadata := ← f.required "metadata" Metadata.decode
    spec := ← f.required "spec" (Spec.decode k)
    status := ← f.optional "status" ResourceStatus.decode }

/-- The record that a document with its kind writes. -/
def ofDocument? (j : Json) : Option Record := do
  let k ← Kind.ofName? (← (← j.get? "kind").text?)
  decode k j

/-- The records, in order, that depend on something. -/
def dependentsOf (provided : Dependency) (records : List Record) : List Record :=
  records.filter fun r => r.dependencies.contains provided

/-- The records, in order, that get their password from a secret. -/
def usersOfSecret (ns name : String) (records : List Record) : List Record :=
  records.filter fun r =>
    match r.secretSource? with
    | some s => s.name = name && r.sourceNamespace s = ns
    | none => false

/-- Whether a finalizer holds on to the record. -/
def hasFinalizer (r : Record) (finalizer : String) : Bool :=
  (r.metadata.finalizers.getD []).contains finalizer

/-- The finalizers with one more, unless it is there already. -/
def finalizersWith? (r : Record) (finalizer : String) : Option (List String) :=
  if r.hasFinalizer finalizer then none
  else some (r.metadata.finalizers.getD [] ++ [finalizer])

/-- The finalizers without one, unless it is not there. -/
def finalizersWithout? (r : Record) (finalizer : String) : Option (List String) :=
  if r.hasFinalizer finalizer then
    some ((r.metadata.finalizers.getD []).filter fun f => f ≠ finalizer)
  else none

/-- Whether some annotation of the record has not its value among the markers. -/
def markersChanged (r : Record) (markers : StringMap String) : Bool :=
  markers.toList.any fun e => (r.metadata.annotations.getD .empty).get? e.1 ≠ some e.2

end Record

/-- The finalizer that every record carries while its resource may exist. -/
def resourceFinalizer : String := "msop.dev/finalizer"

end ServiceOperator
