import ServiceOperator.Json.Basic
import ServiceOperator.StringMap
import ServiceOperator.Word

/-!
# Typed reading of JSON values

A typed document is read strictly by type: text, truth values and numbers are never turned into one
another, and a whole number has to be written without fraction and exponent and to fit its type.
Members that a document does not know are ignored, a known member that stands twice is refused.

How a member may be missing is the caller's choice for each one: `Fields.required` refuses,
`Fields.optional` reads an unset or `null` member as `none`, and `Fields.defaulted` takes a default
for an unset member but refuses `null`.
-/

namespace ServiceOperator.Json

/-- A reader of typed values, `none` for a value of another shape. -/
abbrev Decoder (α : Type) := Json → Option α

namespace Decode

/-- Any value at all, unchanged. -/
def any : Decoder Json := some

/-- A text. -/
def text : Decoder String := Json.text?

/-- A truth value. -/
def bool : Decoder Bool := Json.bool?

/-- A whole number within bounds. -/
def intWithin (low high : Int) : Decoder Int
  | .number (.int n) => if low ≤ n ∧ n ≤ high then some n else none
  | _ => none

/-- A signed 64-bit number. -/
def int64 : Decoder Int := intWithin (-Word.bound 63) (Word.bound 63 - 1)

/-- A natural number below a bound. -/
def natBelow (bound : Nat) : Decoder Nat
  | .number (.int (.ofNat n)) => if n < bound then some n else none
  | _ => none

/-- A natural number of sixteen bits. -/
def nat16 : Decoder Nat := natBelow (Word.bound 16)

/-- A natural number of thirty-two bits. -/
def nat32 : Decoder Nat := natBelow (Word.bound 32)

/-- A value or `null`. -/
def option {α : Type} (d : Decoder α) : Decoder (Option α)
  | .null => some none
  | j => (d j).map some

/-- Every item of a list read in order. -/
def all {α : Type} (d : Decoder α) : List Json → Option (List α)
  | [] => some []
  | j :: rest =>
    match d j, all d rest with
    | some a, some as => some (a :: as)
    | _, _ => none

/-- An array of values of one type. -/
def list {α : Type} (d : Decoder α) : Decoder (List α)
  | .array xs => all d xs
  | _ => none

/-- The members of an object, their values read in order. -/
def allMembers {α : Type} (d : Decoder α) : List (String × Json) → Option (List (String × α))
  | [] => some []
  | (k, j) :: rest =>
    match d j, allMembers d rest with
    | some a, some as => some ((k, a) :: as)
    | _, _ => none

/-- An object as a map; of members with one key the last counts. -/
def map {α : Type} (d : Decoder α) : Decoder (StringMap α)
  | .object ms => (allMembers d ms).map StringMap.ofList
  | _ => none

/-- One of a list of spellings, written as a text or as an object with that single key and
`null`. -/
def choice {α : Type} (spellings : List (String × α)) : Decoder α
  | .string s => spellings.lookup s
  | .object [(k, .null)] => spellings.lookup k
  | _ => none

end Decode

/-- The fields of a document: what is written for each, and whether by position. -/
structure Fields where
  /-- The value written for a field. -/
  value : String → Option Json
  /-- The fields were given as an array, in order and without names. -/
  positional : Bool

namespace Fields

/-- The known members of an object, each of which may stand once. -/
def ofMembers? (names : List String) (ms : List (String × Json)) : Option Fields :=
  if names.any fun n => (ms.filter fun m => m.1 == n).length > 1 then none
  else some ⟨fun n => ms.lookup n, false⟩

/-- The fields of a document that is an object. -/
def ofObject? (names : List String) : Json → Option Fields
  | .object ms => ofMembers? names ms
  | _ => none

/-- The fields of a document: an object with the named members, or an array of at most as many
values in the order of the names. -/
def of? (names : List String) : Json → Option Fields
  | .object ms => ofMembers? names ms
  | .array xs =>
    if xs.length ≤ names.length then some ⟨fun n => (names.zip xs).lookup n, true⟩ else none
  | _ => none

/-- A field that must be written. -/
def required {α : Type} (f : Fields) (name : String) (d : Decoder α) : Option α :=
  (f.value name).bind d

/-- A field that is unset when it is left out by name or `null`. By position it cannot be left
out. -/
def optional {α : Type} (f : Fields) (name : String) (d : Decoder α) : Option (Option α) :=
  match f.value name with
  | some j => Decode.option d j
  | none => if f.positional then none else some none

/-- A field with a default for when it is left out. -/
def defaulted {α : Type} (f : Fields) (name : String) (d : Decoder α) (default : α) : Option α :=
  match f.value name with
  | some j => d j
  | none => some default

/-- A field that is unset when it is left out or `null`. -/
def unset {α : Type} (f : Fields) (name : String) (d : Decoder α) : Option (Option α) :=
  f.defaulted name (Decode.option d) none

end Fields

end ServiceOperator.Json
