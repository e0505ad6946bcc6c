import ServiceOperator.Kinds.ConnectionPool
import ServiceOperator.Kinds.Database
import ServiceOperator.Kinds.KafkaAcl
import ServiceOperator.Kinds.KafkaTopic
import ServiceOperator.Kinds.ProjectVpc
import ServiceOperator.Kinds.Service
import ServiceOperator.Kinds.ServiceIntegration
import ServiceOperator.Kinds.ServiceUser
import ServiceOperator.Reconcile.Steps
import ServiceOperator.Record.Subject

/-!
# The adapter of every record

Each kind has its own type of resource and its own adapter; a pass over any record is run through
the adapter of its kind.
-/

namespace ServiceOperator

/-- The resources of a kind. -/
abbrev Kind.Remote : Kind → Type
  | postgreSql => ServiceDocument
  | kafka => ServiceDocument
  | serviceUser => UserDocument
  | database => DatabaseDocument
  | connectionPool => ServicePool
  | kafkaTopic => TopicDocument
  | kafkaAcl => AclDocument
  | projectVpc => VpcDocument
  | serviceIntegration => IntegrationDocument

/-- The adapter of a record by what it declares. -/
def adapterFor (base : Url) (r : Record) : (s : Spec) → Adapter s.kind.Remote
  | .postgreSql s => serviceAdapter base r s.service s.flavour
  | .kafka s => serviceAdapter base r s.service s.flavour
  | .serviceUser s => s.adapter base r
  | .database s => s.adapter base r
  | .connectionPool s => s.adapter base r
  | .kafkaTopic s => s.adapter base r
  | .kafkaAcl s => s.adapter base r
  | .projectVpc s => s.adapter base r
  | .serviceIntegration s => s.adapter base r

namespace Record

/-- The adapter of a record. -/
def adapter (base : Url) (r : Record) : Adapter r.kind.Remote :=
  adapterFor base r r.spec

/-- One pass over a record, carried out on the peers. -/
def reconcile (base : Url) (r : Record) (settings : Settings) (now : Instant) : Work Outcome :=
  let a := r.adapter base
  (reconcileOnce a.profile r.subject settings now).interpret a.answer

end Record

end ServiceOperator
