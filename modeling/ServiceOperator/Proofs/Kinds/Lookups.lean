import ServiceOperator.Kinds.Adapters
import ServiceOperator.Proofs.ControlPlane.Lookups

/-!
# Where each kind looks for its resource

The kinds differ in the address that they look at, in the resources that the document there shows,
and in which of these is the one that is sought.  These three tables are written down here once, and
`get_finds` says that they are what the adapters do: a get of any kind is a lookup in the sense of
`ControlPlane.Finds`.

With an id a resource is sought by the id.  Without one, the kinds that are named by their records
seek it by the name, and the kinds whose ids the control plane assigns seek it by what the record
declares.

The tables are functions of the specification, one case for each kind, and they are read by whoever
has to know what an answer of the control plane is worth: when a finalizer may be dropped, what a
delete without an id is aimed at, and when a resource is forgotten.
-/

namespace ServiceOperator

open ControlPlane

namespace Spec

/-- The address of the document in which a get looks for the resource of a record with a name. -/
def lookupAddress (name : String) (id : Option String) : Spec → List String
  | .postgreSql s => servicePath s.service.project (id.getD name)
  | .kafka s => servicePath s.service.project (id.getD name)
  | .serviceUser s => userPath s.project s.serviceName (id.getD name)
  | .database s => servicePath s.project s.serviceName ++ ["db"]
  | .connectionPool s => servicePath s.project s.serviceName
  | .kafkaTopic s => topicPath s.project s.serviceName (id.getD (s.topicNameOf name))
  | .kafkaAcl s => servicePath s.project s.serviceName ++ ["acl"]
  | .projectVpc s =>
    match id with
    | some id => ["project", s.project, "vpcs", id]
    | none => ["project", s.project, "vpcs"]
  | .serviceIntegration s =>
    match id with
    | some id => ["project", s.project, "integration", id]
    | none => servicePath s.project s.sourceServiceName ++ ["integration"]

/-- The resources that the document at that address shows, if it can be read. -/
def documentsIn (id : Option String) : (s : Spec) → String → Option (List s.kind.Remote)
  | .postgreSql _, body =>
    (document? (inside "service" ServiceDocument.decode) body).map fun x => [x]
  | .kafka _, body => (document? (inside "service" ServiceDocument.decode) body).map fun x => [x]
  | .serviceUser _, body => (document? (inside "user" UserDocument.decode) body).map fun x => [x]
  | .database _, body => document? (listInside "databases" DatabaseDocument.decode) body
  | .connectionPool _, body =>
    (document? (inside "service" ServiceDocument.decode) body).map fun d =>
      d.connectionPools.map (ServicePool.mk d)
  | .kafkaTopic _, body => (document? (inside "topic" TopicDocument.decode) body).map fun x => [x]
  | .kafkaAcl _, body => document? (listInside "acl" AclDocument.decode) body
  | .projectVpc _, body =>
    match id with
    | some _ => (document? VpcDocument.decode body).map fun x => [x]
    | none => document? (listInside "vpcs" VpcDocument.decode) body
  | .serviceIntegration _, body =>
    match id with
    | some _ =>
      (document? (inside "service_integration" IntegrationDocument.decode) body).map fun x => [x]
    | none => document? (listInside "service_integrations" IntegrationDocument.decode) body

/-- The resource that is sought among those. -/
def isSought (name : String) (id : Option String) : (s : Spec) → s.kind.Remote → Bool
  | .postgreSql _, _ => true
  | .kafka _, _ => true
  | .serviceUser _, _ => true
  | .database s, d => d.databaseName = id.getD (s.databaseNameOf name)
  | .connectionPool _, p => p.pool.poolName = id.getD name
  | .kafkaTopic _, _ => true
  | .kafkaAcl s, a =>
    match id with
    | some id => a.id = id
    | none => CreateAcl.isGrantedBy s.request a
  | .projectVpc s, v =>
    match id with
    | some _ => v.state ≠ ProjectVpcSpec.deletedState
    | none => v.state ≠ ProjectVpcSpec.deletedState && s.isSameNetwork v
  | .serviceIntegration s, i =>
    match id with
    | some _ => true
    | none => s.isSameLink i

end Spec

/-- A pool is looked for among the pools of its service. -/
theorem ConnectionPoolSpec.find_eq (base : Url) (s : ConnectionPoolSpec) (name : String) :
    s.find base name = getService base s.project s.serviceName >>= fun d =>
      findOr (.notFound (poolText name s.serviceName)) (fun p => p.pool.poolName = name)
        (d.connectionPools.map (ServicePool.mk d)) := by
  unfold find
  congr 1
  funext d
  have found : (d.connectionPools.map (ServicePool.mk d)).find? (fun p => p.pool.poolName = name) =
      (d.pool? name).map (ServicePool.mk d) := by
    rw [List.find?_map]
    rfl
  rw [findOr, found]
  cases d.pool? name <;> rfl

/-- A VPC that is gone is not found by its id. -/
theorem ProjectVpcSpec.getById_eq (base : Url) (s : ProjectVpcSpec) (id : String) :
    s.getById base id = getVpc base s.project id >>= fun v =>
      findOr (.notFound (vpcText id)) (fun v => v.state ≠ deletedState) [v] := by
  unfold getById
  congr 1
  funext v
  by_cases gone : v.state = deletedState
  · simp [findOr, gone]
  · simp [findOr, gone]

/-- **A get of any kind is a lookup.** -/
theorem get_finds (base : Url) (r : Record) (s : Spec) (id : Option String) :
    Finds base (s.lookupAddress r.name id) (s.documentsIn id) (s.isSought r.name id)
      ((adapterFor base r s).get id) := by
  cases s with
  | postgreSql s => exact finds_document
  | kafka s => exact finds_document
  | serviceUser s => exact finds_document
  | database s => exact finds_listed
  | connectionPool s =>
      -- A pool is read out of its service, which keeps the service beside it.
      change Finds _ _ _ _ (s.find base _)
      rw [s.find_eq base]
      exact finds_among
  | kafkaTopic s => exact finds_document
  | kafkaAcl s =>
      cases id with
      | some id => exact finds_listed
      | none => exact finds_listed
  | projectVpc s =>
      cases id with
      | some id =>
          change Finds _ _ _ _ (s.getById base id)
          rw [s.getById_eq base]
          exact finds_among
      | none => exact finds_listed
  | serviceIntegration s =>
      cases id with
      | some id => exact finds_document
      | none => exact finds_listed

/-- A get deletes nothing. -/
theorem get_spares (base : Url) (r : Record) (s : Spec) (id : Option String) :
    ((adapterFor base r s).get id).Asks Question.Spares :=
  (get_finds base r s id).asks rfl (fun _ => rfl) (fun _ => rfl)

end ServiceOperator
