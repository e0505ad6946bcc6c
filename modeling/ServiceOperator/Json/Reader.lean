import ServiceOperator.Json.Basic
import ServiceOperator.Text.WhiteSpace
import ServiceOperator.Word

/-!
# Reading JSON

The grammar is that of RFC 8259, without extensions. Besides malformed text the reader refuses
nesting of more than 127 arrays and objects, a number that is too large for a double, and an escape
of a surrogate that has no partner.
-/

namespace ServiceOperator.Json

/-- The deepest nesting of arrays and objects that is read. -/
def maxDepth : Nat := 127

/-- Everything from the first character that is not JSON white space. -/
def skipSpace (cs : List Char) : List Char :=
  cs.dropWhile fun c => c = ' ' || c = '\n' || c = '\r' || c = '\t'

/-- The value of a hexadecimal digit. -/
def hexDigit? (c : Char) : Option Nat :=
  let n := c.toNat
  if 48 ≤ n ∧ n ≤ 57 then some (n - 48)
  else if 65 ≤ n ∧ n ≤ 70 then some (n - 55)
  else if 97 ≤ n ∧ n ≤ 102 then some (n - 87)
  else none

/-- Four hexadecimal digits and what follows them. -/
def hexUnit? : List Char → Option (Nat × List Char)
  | a :: b :: c :: d :: rest => do
    let a ← hexDigit? a
    let b ← hexDigit? b
    let c ← hexDigit? c
    let d ← hexDigit? d
    some (((a * 16 + b) * 16 + c) * 16 + d, rest)
  | _ => none

/-- The character of an escape `\u`, which may take a second one to complete a surrogate pair. -/
def unicodeEscape? (cs : List Char) : Option (Char × List Char) := do
  let (unit, rest) ← hexUnit? cs
  if 0xD800 ≤ unit ∧ unit < 0xDC00 then
    match rest with
    | '\\' :: 'u' :: rest =>
      let (low, rest) ← hexUnit? rest
      if 0xDC00 ≤ low ∧ low < 0xE000 then
        some (Char.ofNat (0x10000 + (unit - 0xD800) * 0x400 + (low - 0xDC00)), rest)
      else none
    | _ => none
  else if 0xDC00 ≤ unit ∧ unit < 0xE000 then none
  else some (Char.ofNat unit, rest)

/-- The character of an escape with a single letter. -/
def letterEscape? : Char → Option Char
  | '"' => some '"'
  | '\\' => some '\\'
  | '/' => some '/'
  | 'b' => some (Char.ofNat 8)
  | 'f' => some (Char.ofNat 12)
  | 'n' => some '\n'
  | 'r' => some '\r'
  | 't' => some '\t'
  | _ => none

/-- The rest of a string after its opening quote. Each step takes at least one character, so the
number of characters bounds the number of steps. -/
def readString? : Nat → List Char → List Char → Option (String × List Char)
  | 0, _, _ => none
  | _ + 1, _, [] => none
  | _ + 1, read, '"' :: rest => some (String.ofList read.reverse, rest)
  | fuel + 1, read, '\\' :: 'u' :: rest =>
    match unicodeEscape? rest with
    | some (c, rest) => readString? fuel (c :: read) rest
    | none => none
  | fuel + 1, read, '\\' :: e :: rest =>
    match letterEscape? e with
    | some c => readString? fuel (c :: read) rest
    | none => none
  | fuel + 1, read, c :: rest =>
    if c.toNat < 32 ∨ c = '\\' then none else readString? fuel (c :: read) rest

/-- Digits at the head of a text, of which there must be one, and what follows them. -/
def readDigits? (cs : List Char) : Option (List Char × List Char) :=
  let digits := cs.takeWhile Text.isDigit
  if digits.isEmpty then none else some (digits, cs.dropWhile Text.isDigit)

/-- The digits of an integer part: a zero stands alone. -/
def readInteger? : List Char → Option (List Char × List Char)
  | '0' :: rest =>
    match rest with
    | c :: _ => if Text.isDigit c then none else some (['0'], rest)
    | [] => some (['0'], [])
  | cs => readDigits? cs

/-- The digits after a point, none without a point. -/
def readFraction? : List Char → Option (List Char × List Char)
  | '.' :: rest => readDigits? rest
  | cs => some ([], cs)

/-- The exponent after `e` or `E`, none without one. -/
def readExponent? : List Char → Option (Option Int × List Char)
  | e :: rest =>
    if e = 'e' ∨ e = 'E' then
      let (sign, rest) : Int × List Char := match rest with
        | '-' :: rest => (-1, rest)
        | '+' :: rest => (1, rest)
        | rest => (1, rest)
      (readDigits? rest).map fun (digits, rest) =>
        (some (sign * (Text.digitsValue digits : Int)), rest)
    else some (none, e :: rest)
  | [] => some (none, [])

/-- Whether `mantissa * 10 ^ exponent` rounds to a finite double: whether it lies below the middle
between the greatest double and the power of two above it. -/
def fitsDouble (mantissa : Nat) (exponent : Int) : Bool :=
  let digits := (toString mantissa).length
  if mantissa = 0 then true
  else if (digits : Int) + exponent ≤ 308 then true
  else if (digits : Int) + exponent > 310 then false
  else
    let limit := Nat.pow 2 1024 - Nat.pow 2 970
    match exponent with
    | .ofNat e => mantissa * Nat.pow 10 e < limit
    | .negSucc e => mantissa < limit * Nat.pow 10 (e + 1)

/-- A whole number that fits a signed or an unsigned 64-bit word. -/
def isWord (n : Int) : Bool :=
  -Word.bound 63 ≤ n && n < Word.bound 64

/-- A number at the head of a text. -/
def readNumber? (cs : List Char) : Option (Number × List Char) := do
  let (negative, cs) := match cs with
    | '-' :: rest => (true, rest)
    | cs => (false, cs)
  let (whole, cs) ← readInteger? cs
  let (fraction, cs) ← readFraction? cs
  let (exponent, cs) ← readExponent? cs
  let mantissa := Text.digitsValue (whole ++ fraction)
  let value : Int := if negative then -(mantissa : Int) else mantissa
  if fraction.isEmpty ∧ exponent.isNone ∧ isWord value ∧ ¬ (negative ∧ mantissa = 0) then
    some (.int value, cs)
  else
    let exponent := exponent.getD 0 - (fraction.length : Int)
    if fitsDouble mantissa exponent then some (.decimal negative mantissa exponent, cs) else none

mutual

/-- A value at the head of a text and what follows it. The fuel bounds the number of steps, the
depth the nesting that is still allowed. -/
def readValue? : Nat → Nat → List Char → Option (Json × List Char)
  | 0, _, _ => none
  | fuel + 1, depth, cs =>
    match skipSpace cs with
    | 'n' :: 'u' :: 'l' :: 'l' :: rest => some (.null, rest)
    | 't' :: 'r' :: 'u' :: 'e' :: rest => some (.bool true, rest)
    | 'f' :: 'a' :: 'l' :: 's' :: 'e' :: rest => some (.bool false, rest)
    | '"' :: rest => (readString? (rest.length + 1) [] rest).map fun (s, rest) => (.string s, rest)
    | '[' :: rest =>
      match depth with
      | 0 => none
      | depth + 1 =>
        match skipSpace rest with
        | ']' :: rest => some (.array [], rest)
        | rest => (readItems? fuel depth [] rest).map fun (xs, rest) => (.array xs, rest)
    | '\x7b' :: rest =>
      match depth with
      | 0 => none
      | depth + 1 =>
        match skipSpace rest with
        | '\x7d' :: rest => some (.object [], rest)
        | rest => (readMembers? fuel depth [] rest).map fun (ms, rest) => (.object ms, rest)
    | rest => (readNumber? rest).map fun (n, rest) => (.number n, rest)

/-- The items of an array up to its closing bracket. -/
def readItems? : Nat → Nat → List Json → List Char → Option (List Json × List Char)
  | 0, _, _, _ => none
  | fuel + 1, depth, read, cs =>
    match readValue? fuel depth cs with
    | none => none
    | some (x, rest) =>
      match skipSpace rest with
      | ',' :: rest => readItems? fuel depth (x :: read) rest
      | ']' :: rest => some ((x :: read).reverse, rest)
      | _ => none

/-- The members of an object up to its closing brace. -/
def readMembers? :
    Nat → Nat → List (String × Json) → List Char → Option (List (String × Json) × List Char)
  | 0, _, _, _ => none
  | fuel + 1, depth, read, cs =>
    match skipSpace cs with
    | '"' :: rest =>
      match readString? (rest.length + 1) [] rest with
      | none => none
      | some (key, rest) =>
        match skipSpace rest with
        | ':' :: rest =>
          match readValue? fuel depth rest with
          | none => none
          | some (value, rest) =>
            match skipSpace rest with
            | ',' :: rest => readMembers? fuel depth ((key, value) :: read) rest
            | '\x7d' :: rest => some (((key, value) :: read).reverse, rest)
            | _ => none
        | _ => none
    | _ => none

end

/-- The value that a text writes, if it writes one and nothing else. -/
def parse? (s : String) : Option Json :=
  let cs := s.toList
  match readValue? (2 * cs.length + 2) maxDepth cs with
  | some (j, rest) => if (skipSpace rest).isEmpty then some j else none
  | none => none

end ServiceOperator.Json
