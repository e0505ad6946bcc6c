import ServiceOperator.ControlPlane.Endpoints
import ServiceOperator.Kubernetes.Records
import ServiceOperator.Reconcile.Readiness

/-!
# Looking dependencies up

How the questions about dependencies are answered: declared records from Kubernetes, other resources
from the control plane. A VPC is only known by its record.
-/

namespace ServiceOperator

/-- The record of a kind with a name, if there is one. -/
def named (k : Kind) (ns name : String) : Action (Option Record) :=
  Kubernetes.read (k.collection ns) name

/-- The first record of a kind that provides a dependency. -/
def providing (k : Kind) (d : Dependency) : Action (Option Record) := do
  let records ← Kubernetes.list (k.collection d.namespaceName)
  return records.find? fun r => r.provides? = some d

/-- How far a record is, if there is one. -/
def readinessOf : Option Record → Readiness
  | some r => r.readiness
  | none => .absent

/-- How far the declared record of a dependency is. -/
def declaredReadiness (d : Dependency) : Action Readiness :=
  match d.target with
  | .service name => do
    match ← named .postgreSql d.namespaceName name with
    | some r => return r.readiness
    | none => return readinessOf (← named .kafka d.namespaceName name)
  | .projectVpc name => return readinessOf (← named .projectVpc d.namespaceName name)
  | .database _ _ => return readinessOf (← providing .database d)
  | .serviceUser _ _ => return readinessOf (← providing .serviceUser d)

/-- How far a resource is that was looked up on the control plane. -/
def absentIfNotFound {α : Type} (found : Action α) (readiness : α → Readiness) :
    Action Readiness := ExceptT.mk do
  match ← found.result with
  | .ok a => return .ok (readiness a)
  | .error e => if e.isNotFound then return .ok .absent else return .error e

/-- The state of a service that runs. -/
def runningState : String := "RUNNING"

/-- How far a service is. -/
def serviceReadiness (s : ServiceDocument) : Readiness :=
  if s.state = runningState then .ready else .notReady ("service state is " ++ s.state)

/-- How far the resource of a dependency is on the control plane. -/
def externalReadiness (base : Url) (project : String) (d : Dependency) : Action Readiness :=
  match d.target with
  | .service name => absentIfNotFound (ControlPlane.getService base project name) serviceReadiness
  | .projectVpc _ => return .absent
  | .database service name =>
    absentIfNotFound (ControlPlane.getDatabase base project service name) fun _ => .ready
  | .serviceUser service name =>
    absentIfNotFound (ControlPlane.getUser base project service name) fun _ => .ready

/-- Answers a question about a dependency. -/
def Lookup.answer (base : Url) : Lookup → Action Readiness
  | declared d => declaredReadiness d
  | external project d => externalReadiness base project d

/-- Whether everything that a record depends on is ready. -/
def Record.ensureDependencies (base : Url) (r : Record) : Action Unit :=
  ExceptT.mk ((ensureReady r.project r.dependencies).interpret fun q => (q.answer base).result)

/-- The id of the VPC of a record, once the VPC can be used. -/
def resolveVpc (ns : String) (reference : ResourceReference) : Action String := do
  let ns := reference.namespaceName.getD ns
  let text := "ProjectVPC " ++ ns ++ "/" ++ reference.name
  match ← named .projectVpc ns reference.name with
  | none => Action.fail (.dependencyMissing (text ++ " does not exist"))
  | some r =>
    match r.isUsable, r.currentStatus.id with
    | true, some id => return id
    | _, _ => Action.fail (.dependencyNotReady (text ++ " is not active yet"))

end ServiceOperator
