import ServiceOperator.Kubernetes.Client
import ServiceOperator.Record.Basic
import ServiceOperator.Secret.Connection
import ServiceOperator.Secret.Source

/-!
# Records and secrets in Kubernetes

What the operator reads and writes in the cluster for a record: the record itself, its finalizers,
status and annotations, its source secret and its connection secret.
-/

namespace ServiceOperator

open Kubernetes (Collection)

/-- The records of a kind in a namespace. -/
def Kind.collection (k : Kind) (ns : String) : Collection Record where
  path := "/apis/" ++ apiGroup ++ "/" ++ apiVersion ++ "/namespaces/" ++ ns ++ "/" ++ k.plural
  decode := Record.decode k

/-- The secrets in a namespace. -/
def Secret.collection (ns : String) : Collection Secret where
  path := "/api/v1/namespaces/" ++ ns ++ "/secrets"
  decode := Secret.decode

/-- The name under which the operator applies objects. -/
def fieldManager : String := "msop"

namespace Record

/-- The records of the same kind and namespace. -/
def collection (r : Record) : Collection Record :=
  r.kind.collection r.namespaceName

/-- Writes the finalizers of the record. -/
def patchFinalizers (r : Record) (finalizers : List String) : Action Unit := do
  let body := Json.object
    [("metadata", .object [("finalizers", .array (finalizers.map .string))])]
  let _ ← Kubernetes.patch r.collection r.name "" ⟨none, body⟩

/-- Adds a finalizer, unless it is there already. -/
def ensureFinalizer (r : Record) (finalizer : String) : Action Unit :=
  match r.finalizersWith? finalizer with
  | some finalizers => r.patchFinalizers finalizers
  | none => return ()

/-- An error that says by its code that the record is gone. -/
def isGone : OperatorError → Bool
  | .kube (.api code _ _) => code == 404
  | _ => false

/-- Removes a finalizer, unless it is not there. A record that is gone has none. -/
def removeFinalizer (r : Record) (finalizer : String) : Action Unit :=
  match r.finalizersWithout? finalizer with
  | none => return ()
  | some finalizers => ExceptT.mk do
    match ← (r.patchFinalizers finalizers).result with
    | .ok () => return .ok ()
    | .error e => if isGone e then return .ok () else return .error e

/-- Writes the status of the record. -/
def patchStatus (r : Record) (s : ResourceStatus) : Action Unit := do
  let _ ← Kubernetes.patch r.collection r.name "/status" ⟨none, .object [("status", s.encode)]⟩

/-- Writes annotations of the record. -/
def patchMarkers (r : Record) (markers : StringMap String) : Action Unit := do
  let body := Json.object [("metadata", .object [("annotations", markers.encode .string)])]
  let _ ← Kubernetes.patch r.collection r.name "" ⟨none, body⟩

/-- Writes the connection secret of the record, if it wants one, and returns its name. -/
def materialize (r : Record) (info : ConnectionInfo) : Action (Option String) :=
  match r.connectionSecret? info with
  | none => return none
  | some secret => do
    let _ ← Kubernetes.patch (Secret.collection r.namespaceName) r.secretName ""
      ⟨some fieldManager, secret⟩
    return some r.secretName

/-- Reads the value in the source secret of the record, if it has one. -/
def readSource (r : Record) : Action (Option SourceValue) :=
  match r.secretSource? with
  | none => return none
  | some source => do
    let ns := r.sourceNamespace source
    match ← Kubernetes.read (Secret.collection ns) source.name with
    | none =>
      Action.fail (.dependencyNotReady
        ("source secret " ++ ns ++ "/" ++ source.name ++ " does not exist"))
    | some secret =>
      let value ← Action.ofExcept
        (SourceValue.ofSecret secret source.passwordKey (r.metadata.uid.getD ""))
      return some value

end Record

end ServiceOperator
