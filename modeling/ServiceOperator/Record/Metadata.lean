import ServiceOperator.Json.Decode
import ServiceOperator.Time.Instant

/-!
# Metadata of Kubernetes objects

What Kubernetes keeps of every object: its name and namespace, its generation, whether it is being
deleted, and who holds on to it. Every member is optional and may be `null`; a member that is there
has to have the right type, also one that is not used.
-/

namespace ServiceOperator

/-- The metadata of an object. -/
structure Metadata where
  /-- The name. -/
  name : Option String
  /-- The start of a name that the server completes. -/
  generateName : Option String
  /-- The namespace. -/
  namespaceName : Option String
  /-- The id of this very object. -/
  uid : Option String
  /-- The number of the present version of the specification. -/
  generation : Option Int
  /-- The object is being deleted. -/
  deletionRequested : Bool
  /-- Who has to agree before the object goes. -/
  finalizers : Option (List String)
  /-- Free annotations. -/
  annotations : Option (StringMap String)
  deriving DecidableEq

namespace Metadata

/-- Metadata without any member. -/
def empty : Metadata := ⟨none, none, none, none, none, false, none, none⟩

/-- The name, or what a name is made from. -/
def displayName (m : Metadata) : String :=
  m.name.getD (m.generateName.getD "")

/-- A text that writes an instant. -/
def instant : Json.Decoder Instant := fun j => j.text?.bind Instant.parse?

/-- A member of an object, unset when it is absent or `null`. Of members with one key the last
counts, but each has to have the right type. -/
def member {α : Type} (ms : List (String × Json)) (key : String) (d : Json.Decoder α) :
    Option (Option α) :=
  (ms.filter fun m => m.1 = key).foldlM (fun _ m => Json.Decode.option d m.2) none

/-- An object each of whose listed members has the right type. -/
def objectOf (checks : List (List (String × Json) → Option Unit)) : Json.Decoder Unit
  | .object ms => checks.forM fun check => check ms
  | _ => none

/-- A member of the right type, for its type alone. -/
def checked {α : Type} (key : String) (d : Json.Decoder α) (ms : List (String × Json)) :
    Option Unit :=
  (member ms key d).map fun _ => ()

/-- A reference to an owner of an object. -/
def owner : Json.Decoder Unit :=
  objectOf [checked "apiVersion" Json.Decode.text, checked "blockOwnerDeletion" Json.Decode.bool,
    checked "controller" Json.Decode.bool, checked "kind" Json.Decode.text,
    checked "name" Json.Decode.text, checked "uid" Json.Decode.text]

/-- A note of who manages which fields of an object. -/
def managedFields : Json.Decoder Unit :=
  objectOf [checked "apiVersion" Json.Decode.text, checked "fieldsType" Json.Decode.text,
    checked "manager" Json.Decode.text, checked "operation" Json.Decode.text,
    checked "subresource" Json.Decode.text, checked "time" instant]

/-- The metadata that a document writes. -/
def decode : Json.Decoder Metadata
  | .object ms => do
    checked "creationTimestamp" instant ms
    checked "deletionGracePeriodSeconds" Json.Decode.int64 ms
    checked "labels" (Json.Decode.map Json.Decode.text) ms
    checked "managedFields" (Json.Decode.list managedFields) ms
    checked "ownerReferences" (Json.Decode.list owner) ms
    checked "resourceVersion" Json.Decode.text ms
    checked "selfLink" Json.Decode.text ms
    some {
      name := ← member ms "name" Json.Decode.text
      generateName := ← member ms "generateName" Json.Decode.text
      namespaceName := ← member ms "namespace" Json.Decode.text
      uid := ← member ms "uid" Json.Decode.text
      generation := ← member ms "generation" Json.Decode.int64
      deletionRequested := (← member ms "deletionTimestamp" instant).isSome
      finalizers := ← member ms "finalizers" (Json.Decode.list Json.Decode.text)
      annotations := ← member ms "annotations" (Json.Decode.map Json.Decode.text) }
  | _ => none

end Metadata

end ServiceOperator
