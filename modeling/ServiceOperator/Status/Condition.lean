import ServiceOperator.Json.Decode
import ServiceOperator.Reason

/-!
# Conditions

A status reports each aspect of a resource by a condition. Setting a condition changes the first one
of its type in place, or adds one at the end, and moves the time of the last transition only when
the status flips or no time was known.
-/

namespace ServiceOperator

/-- One aspect of a resource. -/
structure Condition where
  /-- The aspect. -/
  type : String
  /-- `True`, `False` or `Unknown`. -/
  status : String
  /-- Why the status is as it is, as a word. -/
  reason : Option String
  /-- The same for people. -/
  message : Option String
  /-- When the status last flipped. -/
  lastTransitionTime : Option String
  deriving DecidableEq, Repr

namespace Condition

/-- The type that reports whether a resource has converged. -/
def running : String := "Running"

/-- The type that reports whether the last attempt failed. -/
def error : String := "Error"

/-- The status of a condition that holds or does not. -/
def statusText : Bool → String
  | true => "True"
  | false => "False"

/-- The first condition of a type. -/
def find? (conditions : List Condition) (type : String) : Option Condition :=
  conditions.find? fun c => c.type = type

/-- Whether the first condition of a type is true. -/
def isTrue (conditions : List Condition) (type : String) : Bool :=
  match find? conditions type with
  | some c => c.status = "True"
  | none => false

/-- The reason of the first condition of a type. -/
def reason? (conditions : List Condition) (type : String) : Option String :=
  (find? conditions type).bind Condition.reason

/-- A condition with a new status, reason and message. The time of the last transition is kept
while the status is. -/
def update (c : Condition) (status reason message stamp : String) : Condition :=
  { c with
    status := status
    reason := some reason
    message := some message
    lastTransitionTime :=
      some (if c.status = status then c.lastTransitionTime.getD stamp else stamp) }

/-- The conditions with the first one of a type updated, or with a new one at the end. -/
def set (type status reason message stamp : String) : List Condition → List Condition
  | [] => [⟨type, status, some reason, some message, some stamp⟩]
  | c :: rest =>
    if c.type = type then c.update status reason message stamp :: rest
    else c :: set type status reason message stamp rest

/-- Two conditions that differ at most in the time of their last transition. -/
def agrees (c d : Condition) : Bool :=
  c.type = d.type && c.status = d.status && c.reason = d.reason && c.message = d.message

/-- As many conditions as before, each of which agrees with one from before. -/
def listAgrees (current new : List Condition) : Bool :=
  current.length = new.length && new.all fun d => current.any fun c => c.agrees d

/-- A condition as a document. -/
def encode (c : Condition) : Json :=
  .object <|
    [("type", .string c.type), ("status", .string c.status)] ++
    Json.member? "reason" .string c.reason ++
    Json.member? "message" .string c.message ++
    Json.member? "lastTransitionTime" .string c.lastTransitionTime

/-- The condition that a document writes. -/
def decode : Json.Decoder Condition := fun j => do
  let f ← Json.Fields.of? ["type", "status", "reason", "message", "lastTransitionTime"] j
  some {
    type := ← f.required "type" Json.Decode.text
    status := ← f.required "status" Json.Decode.text
    reason := ← f.optional "reason" Json.Decode.text
    message := ← f.optional "message" Json.Decode.text
    lastTransitionTime := ← f.optional "lastTransitionTime" Json.Decode.text }

end Condition

end ServiceOperator
