import ServiceOperator.Json.Basic

/-!
# Schemas

What the documents of a kind may hold, as the manifest of that kind tells Kubernetes. A schema is a
tree of domain types, and `Schema.members` writes it in the vocabulary of OpenAPI.

The presence of a field is decided once, in its `Presence`: it makes the field one of the required
names, or makes it nullable, or gives it a standard value.
-/

namespace ServiceOperator.Manifest

/-- How often a field is there. -/
inductive Presence where
  | required
  | optional
  /-- The field has a value also when it is not written. -/
  | standard (value : Json)

/-- What a text must look like. -/
structure TextRule where
  minLength : Option Nat := none
  maxLength : Option Nat := none
  pattern : Option String := none

/-- A field of an object, whose value is described by a `σ`. -/
structure Field (σ : Type) where
  name : String
  doc : String
  presence : Presence
  value : σ

/-- What a value may be. -/
inductive Schema where
  | text (rule : TextRule)
  | oneOf (values : List String)
  | flag
  /-- An unsigned number of 32 bits within bounds. -/
  | count (least : Nat) (most : Option Nat)
  /-- A signed number of 64 bits. -/
  | whole
  | textMap
  /-- An object that is passed on as it is. -/
  | free
  /-- A list of items, with a description of each. -/
  | list (doc : String) (items : Schema)
  | object (fields : List (Field Schema))

/-- The type of a value, as a member. -/
def typed (name : String) : String × Json := ("type", .string name)

/-- A description, as a member. -/
def described (doc : String) : String × Json := ("description", .string doc)

/-- A description of several lines. -/
def inLines (lines : List String) : String := "\n".intercalate lines

/-- What a text must look like, as members. -/
def TextRule.members (r : TextRule) : List (String × Json) :=
  Json.member? "minLength" .ofNat r.minLength ++ Json.member? "maxLength" .ofNat r.maxLength ++
  Json.member? "pattern" .string r.pattern

/-- What is written of the presence of a field. An object that is passed on as it is says nothing of
its own absence. -/
def Presence.members : Presence → Schema → List (String × Json)
  | .optional, .free => []
  | .optional, _ => [("nullable", .bool true)]
  | .standard value, _ => [("default", value)]
  | .required, _ => []

/-- The fields that must be there, in alphabetical order. -/
def requiredNames (fields : List (Field Schema)) : List String :=
  (fields.filterMap fun f => match f.presence with
    | .required => some f.name
    | _ => none).mergeSort

/-- The names of the required fields as a member, which is left out when there are none. -/
def requiredMember (fields : List (Field Schema)) : List (String × Json) :=
  match requiredNames fields with
  | [] => []
  | names => [("required", .array (names.map .string))]

mutual

/-- A schema as the members of its document. -/
def Schema.members : Schema → List (String × Json)
  | .text rule => typed "string" :: rule.members
  | .oneOf values => [typed "string", ("enum", .array (values.map .string))]
  | .flag => [typed "boolean"]
  | .count least most =>
    [typed "integer", ("format", .string "uint32"), ("minimum", .ofNat least)] ++
      Json.member? "maximum" .ofNat most
  | .whole => [typed "integer", ("format", .string "int64")]
  | .textMap => [typed "object", ("additionalProperties", .object [typed "string"])]
  | .free => [typed "object", ("x-kubernetes-preserve-unknown-fields", .bool true)]
  | .list doc items => [typed "array", ("items", .object (described doc :: items.members))]
  | .object fields =>
    [typed "object", ("properties", .object (properties fields))] ++ requiredMember fields

/-- The fields of an object, each with its description and its presence. -/
def properties : List (Field Schema) → List (String × Json)
  | [] => []
  | ⟨name, doc, presence, value⟩ :: rest =>
    (name, .object (described doc :: (value.members ++ presence.members value))) :: properties rest

end

/-! ### Building fields -/

/-- A text of any kind. -/
def Schema.anyText : Schema := .text {}

/-- A field that must be there. -/
def required (name : String) (value : Schema) (doc : String) : Field Schema :=
  ⟨name, doc, .required, value⟩

/-- A field that may be left out. -/
def optional (name : String) (value : Schema) (doc : String) : Field Schema :=
  ⟨name, doc, .optional, value⟩

/-- A field that has a value also when it is not written. -/
def standard (name : String) (value : Schema) (unset : Json) (doc : String) : Field Schema :=
  ⟨name, doc, .standard unset, value⟩

end ServiceOperator.Manifest
