import ServiceOperator.Json.Decode
import ServiceOperator.Json.Reader
import ServiceOperator.Record.Metadata
import ServiceOperator.Text.Percent
import ServiceOperator.World

/-!
# Calls to Kubernetes

Objects are read, listed and patched by their path. A failed answer carries a status document; what
it says of its code and reason decides, not the status of the answer. A call makes attempts until
one succeeds, one fails in a way that will not mend by itself, or patience is at its end.
-/

namespace ServiceOperator.Kubernetes

/-- The status document in a failed answer: its code, message and reason. -/
structure Failure where
  code : Nat
  message : String
  reason : String
  deriving DecidableEq, Repr

namespace Failure

/-- A cause among the details of a failure, for its shape alone. -/
def cause : Json.Decoder Unit := fun j => do
  let f ← Json.Fields.of? ["reason", "message", "field"] j
  let _ ← f.defaulted "reason" Json.Decode.text ""
  let _ ← f.defaulted "message" Json.Decode.text ""
  let _ ← f.defaulted "field" Json.Decode.text ""

/-- The details of a failure, for their shape alone. -/
def details : Json.Decoder Unit := fun j => do
  let f ← Json.Fields.of? ["name", "group", "kind", "uid", "causes", "retryAfterSeconds"] j
  let _ ← f.defaulted "name" Json.Decode.text ""
  let _ ← f.defaulted "group" Json.Decode.text ""
  let _ ← f.defaulted "kind" Json.Decode.text ""
  let _ ← f.defaulted "uid" Json.Decode.text ""
  let _ ← f.defaulted "causes" (Json.Decode.list cause) []
  let _ ← f.defaulted "retryAfterSeconds" Json.Decode.nat32 0

/-- The metadata of a list or a status, for their shape alone. -/
def listMetadata : Json.Decoder Unit :=
  Metadata.objectOf [Metadata.checked "continue" Json.Decode.text,
    Metadata.checked "remainingItemCount" Json.Decode.int64,
    Metadata.checked "resourceVersion" Json.Decode.text,
    Metadata.checked "selfLink" Json.Decode.text]

/-- The summaries that a status may give. -/
def summaries : List (String × Unit) := [("Success", ()), ("Failure", ())]

/-- The failure that a status document describes. -/
def decode : Json.Decoder Failure := fun j => do
  let f ← Json.Fields.of? ["status", "code", "message", "metadata", "reason", "details"] j
  let _ ← f.unset "status" (Json.Decode.choice summaries)
  let code ← f.defaulted "code" Json.Decode.nat16 0
  let message ← f.defaulted "message" Json.Decode.text ""
  let _ ← f.unset "metadata" listMetadata
  let reason ← f.defaulted "reason" Json.Decode.text ""
  let _ ← f.unset "details" details
  some ⟨code, message, reason⟩

/-- The failure in an answer: the one of its document, or one with the text of the answer. -/
def ofAnswer (status : Nat) (body : String) : Failure :=
  ((Json.parse? body).bind decode).getD ⟨status, body, "Failed to parse error data"⟩

end Failure

/-- What a reply means: the value in its body, or how the request failed. -/
def ofReply {α : Type} (d : Json.Decoder α) : KubeReply → Except KubeError α
  | .lost => .error .service
  | .answered status body =>
    if 400 ≤ status ∧ status ≤ 599 then
      let f := Failure.ofAnswer status body
      .error (.api f.code f.message f.reason)
    else match (Json.parse? body).bind d with
      | some a => .ok a
      | none => .error .undecodable

/-- A failure after which the same call tries again. -/
def isRetryable : KubeError → Bool
  | .api code _ _ => code == 429 || (500 ≤ code && code ≤ 599)
  | .service => true
  | .undecodable => false
  | .unsendable => false
  | .stream => false

/-- Attempts after a first failure, as many as are left. -/
def retry {α : Type} (once : Work (Except KubeError α)) :
    Nat → KubeError → Work (Except KubeError α)
  | 0, e => return .error e
  | left + 1, _ => do
    match ← once with
    | .ok a => return .ok a
    | .error e => if isRetryable e then retry once left e else return .error e

/-- Attempts until one succeeds or fails for good. -/
def persist {α : Type} (once : Work (Except KubeError α)) : Work (Except KubeError α) := do
  match ← once with
  | .ok a => return .ok a
  | .error e =>
    if isRetryable e then retry once (← Work.patience .kubernetes) e else return .error e

/-- A call that makes attempts. -/
def call {α : Type} (once : Work (Except KubeError α)) : Action α := ExceptT.mk do
  match ← persist once with
  | .ok a => return .ok a
  | .error e => return .error (.kube e)

/-- A collection of objects of one type, with a reader for them. -/
structure Collection (α : Type) where
  /-- The path of the collection. -/
  path : String
  /-- Reads one object. -/
  decode : Json.Decoder α

/-- A byte that may stand in the path of a request. -/
def isPathByte (b : UInt8) : Bool :=
  b == 0x21 || (0x24 ≤ b && b ≤ 0x3b) || b == 0x3d || (0x40 ≤ b && b ≤ 0x5f) ||
    (0x61 ≤ b && b ≤ 0x7a) || b == 0x7c || b == 0x7e || b == 0x22 || b == 0x7b || b == 0x7d ||
    0x7f ≤ b

/-- A byte that may stand in the query of a request. -/
def isQueryByte (b : UInt8) : Bool :=
  b == 0x21 || (0x24 ≤ b && b ≤ 0x3b) || b == 0x3d || (0x3f ≤ b && b ≤ 0x7e) || 0x7f ≤ b

/-- The path that a written address has, if it can be sent: what stands before a query and a
fragment. -/
def sendablePath? (address : String) : Option String :=
  let cs := address.toList.takeWhile fun c => c ≠ '#'
  let path := cs.takeWhile fun c => c ≠ '?'
  let query := cs.dropWhile fun c => c ≠ '?'
  if (Text.utf8Bytes path).all isPathByte ∧ (Text.utf8Bytes (query.drop 1)).all isQueryByte then
    some (String.ofList path)
  else none

/-- Sends a request to an address, if it can be sent. -/
def sendTo {α : Type} (address : String) (patch : Option KubePatch) (d : Json.Decoder α) :
    Work (Except KubeError α) :=
  match sendablePath? address with
  | some path => do return ofReply d (← Work.kube ⟨path, patch⟩)
  | none => return .error .unsendable

variable {α : Type}

/-- Reads an object once, which may be absent: an answer whose reason is that there is none. -/
def readOnce (c : Collection α) (name : String) : Work (Except KubeError (Option α)) :=
  if name.isEmpty then return .error .unsendable
  else do
    match ← sendTo (c.path ++ "/" ++ name) none c.decode with
    | .ok a => return .ok (some a)
    | .error (.api code message reason) =>
      if reason = "NotFound" then return .ok none else return .error (.api code message reason)
    | .error e => return .error e

/-- The objects in a list document. -/
def items (d : Json.Decoder α) : Json.Decoder (List α) := fun j => do
  let f ← Json.Fields.ofObject? ["metadata", "items"] j
  let _ ← f.defaulted "metadata" Failure.listMetadata ()
  let items ← f.required "items" (Json.Decode.option (Json.Decode.list d))
  some (items.getD [])

/-- Reads an object, which may be absent. -/
def read (c : Collection α) (name : String) : Action (Option α) :=
  call (readOnce c name)

/-- Lists the objects of a collection. -/
def list (c : Collection α) : Action (List α) :=
  call (sendTo c.path none (items c.decode))

/-- Patches an object, or a part of it under a path of its own, and returns the whole object. -/
def patch (c : Collection α) (name part : String) (p : KubePatch) : Action α :=
  call (if name.isEmpty then return .error .unsendable
    else sendTo (c.path ++ "/" ++ name ++ part) (some p) c.decode)

end ServiceOperator.Kubernetes
