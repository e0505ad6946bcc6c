/-!
# JSON values

A value keeps the members of an object in the order in which they were written. Numbers are kept
exactly: whole numbers within the range of 64-bit words as integers, all others as a decimal
mantissa and exponent, which is what they stand for in text.
-/

namespace ServiceOperator

/-- A JSON number. -/
inductive Json.Number where
  /-- A number written without fraction and exponent that fits a signed or unsigned 64-bit word. -/
  | int (value : Int)
  /-- Any other number: `mantissa * 10 ^ exponent`, with its sign. -/
  | decimal (negative : Bool) (mantissa : Nat) (exponent : Int)
  deriving DecidableEq, Repr

/-- A JSON value. -/
inductive Json where
  | null
  | bool (value : Bool)
  | number (value : Json.Number)
  | string (value : String)
  | array (items : List Json)
  | object (members : List (String × Json))

namespace Json

instance : Inhabited Json := ⟨.null⟩

/-- A whole number. -/
def ofInt (n : Int) : Json := .number (.int n)

/-- A natural number. -/
def ofNat (n : Nat) : Json := .number (.int n)

/-- The value of an optional part: `null` when it is unset. -/
def ofOption {α : Type} (encode : α → Json) : Option α → Json
  | some a => encode a
  | none => .null

/-- An optional text: `null` when it is unset. -/
def ofText? (s : Option String) : Json := ofOption .string s

/-- The last value among the members with a key. -/
def lastOf (key : String) (members : List (String × Json)) : Option Json :=
  members.reverse.lookup key

/-- The members of an object, none for any other value. -/
def members : Json → List (String × Json)
  | .object ms => ms
  | _ => []

/-- The items of an array, none for any other value. -/
def items : Json → List Json
  | .array xs => xs
  | _ => []

/-- The value of an object's member. Of members with the same key the last counts. -/
def get? (j : Json) (key : String) : Option Json :=
  lastOf key j.members

/-- The value at a path of keys. -/
def path? (j : Json) : List String → Option Json
  | [] => some j
  | k :: rest => (j.get? k).bind fun v => v.path? rest
termination_by path => path.length

/-- The text of a string value. -/
def text? : Json → Option String
  | .string s => some s
  | _ => none

/-- The truth value of a boolean. -/
def bool? : Json → Option Bool
  | .bool b => some b
  | _ => none

/-- The value of a whole number. -/
def int? : Json → Option Int
  | .number (.int n) => some n
  | _ => none

/-- The absence of a value. -/
def isNull : Json → Bool
  | .null => true
  | _ => false

/-- One member of an object that is left out when its value is unset. -/
def member? {α : Type} (key : String) (encode : α → Json) : Option α → List (String × Json)
  | some a => [(key, encode a)]
  | none => []

end Json

end ServiceOperator
