import ServiceOperator.Status.Condition

/-!
# The status of a record

All that one pass hands on to the next: the conditions, the resource that was created and the
generation of the record that it was created from, the generation that failed for good, when the
current operation began, and how many failures in transport are counted.
-/

namespace ServiceOperator

/-- What is stored of a record's resource between two passes. -/
structure ResourceStatus where
  /-- The reported aspects. -/
  conditions : List Condition
  /-- The state that the control plane last reported. -/
  state : Option String
  /-- The id of the resource. -/
  id : Option String
  /-- The generation that was last applied. -/
  observedGeneration : Option Int
  /-- The generation that failed for good. -/
  failedGeneration : Option Int
  /-- When the operation that has not converged began. -/
  operationStartedAt : Option String
  /-- When the deletion began. -/
  deletionStartedAt : Option String
  /-- The fingerprint of the source secret that was last applied. -/
  sourceFingerprint : Option String
  /-- Transport failures since the count was last cleared. -/
  failedAttempts : Nat
  deriving DecidableEq, Repr

namespace ResourceStatus

/-- The status of a record that no pass has seen. -/
def initial : ResourceStatus := ⟨[], none, none, none, none, none, none, none, 0⟩

instance : Inhabited ResourceStatus := ⟨initial⟩

/-- The resource has converged. -/
def isRunning (s : ResourceStatus) : Bool :=
  Condition.isTrue s.conditions Condition.running

/-- Some condition says that the resource has converged, so that others may use it. -/
def isUsable (s : ResourceStatus) : Bool :=
  s.conditions.any fun c => c.type = Condition.running && c.status = "True"

/-- The last attempt failed. -/
def isFailing (s : ResourceStatus) : Bool :=
  Condition.isTrue s.conditions Condition.error

/-- Sets the condition that reports whether the resource has converged. -/
def setRunning (s : ResourceStatus) (holds : Bool) (reason : Reason) (message stamp : String) :
    ResourceStatus :=
  let conditions :=
    Condition.set Condition.running (Condition.statusText holds) reason.text message stamp
      s.conditions
  { s with conditions := conditions }

/-- Sets the condition that reports whether the last attempt failed. -/
def setError (s : ResourceStatus) (holds : Bool) (reason : Reason) (message stamp : String) :
    ResourceStatus :=
  let conditions :=
    Condition.set Condition.error (Condition.statusText holds) reason.text message stamp
      s.conditions
  { s with conditions := conditions }

/-- Two statuses that differ at most in the order and the transition times of their conditions. -/
def agrees (current new : ResourceStatus) : Bool :=
  Condition.listAgrees current.conditions new.conditions &&
    decide ({ current with conditions := [] } = { new with conditions := [] })

/-- Whether a new status has to be written over the stored one. -/
def changed (current : Option ResourceStatus) (new : ResourceStatus) : Bool :=
  match current with
  | none => true
  | some s => !s.agrees new

/-- The annotation that says whether the resource has converged. -/
def runningAnnotation : String := "controllers.msop.dev/instance-is-running"

/-- The annotation that holds the generation that was last applied. -/
def generationAnnotation : String := "controllers.msop.dev/generation-was-processed"

/-- The annotations that a status puts on its record. -/
def markers (s : ResourceStatus) : StringMap String :=
  let m := StringMap.empty.insert runningAnnotation (if s.isRunning then "true" else "false")
  match s.observedGeneration with
  | some g => m.insert generationAnnotation (toString g)
  | none => m

/-- A status as a document, with every field. -/
def encode (s : ResourceStatus) : Json :=
  .object [
    ("conditions", .array (s.conditions.map Condition.encode)),
    ("state", .ofText? s.state),
    ("id", .ofText? s.id),
    ("observedGeneration", .ofOption .ofInt s.observedGeneration),
    ("failedGeneration", .ofOption .ofInt s.failedGeneration),
    ("operationStartedAt", .ofText? s.operationStartedAt),
    ("deletionStartedAt", .ofText? s.deletionStartedAt),
    ("sourceFingerprint", .ofText? s.sourceFingerprint),
    ("failedAttempts", .ofNat s.failedAttempts)]

/-- The fields of a status document, in order. -/
def fieldNames : List String :=
  ["conditions", "state", "id", "observedGeneration", "failedGeneration", "operationStartedAt",
    "deletionStartedAt", "sourceFingerprint", "failedAttempts"]

/-- The status that a document writes. -/
def decode : Json.Decoder ResourceStatus := fun j => do
  let f ← Json.Fields.of? fieldNames j
  some {
    conditions := ← f.defaulted "conditions" (Json.Decode.list Condition.decode) []
    state := ← f.unset "state" Json.Decode.text
    id := ← f.unset "id" Json.Decode.text
    observedGeneration := ← f.unset "observedGeneration" Json.Decode.int64
    failedGeneration := ← f.unset "failedGeneration" Json.Decode.int64
    operationStartedAt := ← f.unset "operationStartedAt" Json.Decode.text
    deletionStartedAt := ← f.unset "deletionStartedAt" Json.Decode.text
    sourceFingerprint := ← f.unset "sourceFingerprint" Json.Decode.text
    failedAttempts := ← f.defaulted "failedAttempts" Json.Decode.nat32 0 }

end ResourceStatus

end ServiceOperator
