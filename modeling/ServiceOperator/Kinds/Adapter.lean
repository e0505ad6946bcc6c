import ServiceOperator.Kinds.Lookup
import ServiceOperator.Reconcile.Adapter

/-!
# What a kind adds

An adapter carries out, for one record, the calls that a pass may make, and knows how to read a
resource of the kind. Each kind has one; the pass itself is the same for all.
-/

namespace ServiceOperator

/-- What can be done for a record whose resources are of type `R`. -/
structure Adapter (R : Type) where
  /-- What can be read off a resource. -/
  profile : Profile R
  sourceFingerprint : Action (Option String)
  checkPreconditions : Action Unit
  create : Action String
  update : String → Action Unit
  get : Option String → Action R
  delete : Option String → Action Unit
  connectionInfo : R → Action ConnectionInfo
  /-- A resource as a document. -/
  encode : R → Json

/-- Carries out a call. -/
def Adapter.answer {R : Type} (a : Adapter R) : (c : Call R) → Work c.Answer
  | .sourceFingerprint => a.sourceFingerprint.result
  | .checkPreconditions => a.checkPreconditions.result
  | .create => a.create.result
  | .update id => (a.update id).result
  | .get id => (a.get id).result
  | .delete id => (a.delete id).result
  | .connectionInfo remote => (a.connectionInfo remote).result

/-- The fingerprint of the value in the source secret of a record. -/
def Record.currentFingerprint (r : Record) : Action (Option String) := do
  return (← r.readSource).map SourceValue.fingerprint

/-- The state that is shown of a resource that has none of its own. -/
def activeState : String := "ACTIVE"

/-- How strictly a connection is encrypted when the service does not say. -/
def defaultSslMode : String := "require"

/-- A value for a connection secret that a service has to report. -/
def required (s : ServiceDocument) (key : String) : Option String → Except OperatorError String
  | some v => .ok v
  | none =>
    .error (.transport ("service " ++ s.serviceName ++ " reported no value for " ++ key))

/-- A value for a connection secret that may be missing. -/
def optional (key : String) : Option String → List (String × String)
  | some v => [(key, v)]
  | none => []

/-- Where a part of a service listens, if the service has that part. -/
def endpoint (hostKey portKey : String) : Option ServiceComponent → List (String × String)
  | some c => [(hostKey, c.host), (portKey, toString c.port)]
  | none => []

/-- Refuses to delete a resource whose record protects it. -/
def checkDeletable (terminationProtection : Option Bool) (resource : String) :
    Except OperatorError Unit :=
  if terminationProtection.getD false then
    .error (.invalidSpec
      ("termination protection is enabled on " ++ resource ++ "; disable it to allow deletion"))
  else .ok ()

end ServiceOperator
