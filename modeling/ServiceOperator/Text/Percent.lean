/-!
# Percent encoding

A byte that may not stand for itself is written as a percent sign and two upper-case hexadecimal
digits. Which bytes may stand is a parameter, so that the several parts of a URL share one encoder;
`percentDecode` reads every such escape back and leaves all other bytes alone.
-/

namespace ServiceOperator.Text

/-- The UTF-8 bytes of a list of characters. -/
def utf8Bytes (cs : List Char) : List UInt8 :=
  cs.flatMap String.utf8EncodeChar

/-- The upper-case hexadecimal digit of a value below sixteen. -/
def upperHexDigit (n : Nat) : Char :=
  if n < 10 then Char.ofNat (48 + n) else Char.ofNat (55 + n)

/-- The value of a hexadecimal digit of either case. -/
def hexValue? (c : Char) : Option Nat :=
  let n := c.toNat
  if 48 ≤ n ∧ n ≤ 57 then some (n - 48)
  else if 65 ≤ n ∧ n ≤ 70 then some (n - 55)
  else if 97 ≤ n ∧ n ≤ 102 then some (n - 87)
  else none

/-- A byte that stands for itself, or its escape. -/
def percentByte (reserved : UInt8 → Bool) (b : UInt8) : List Char :=
  if reserved b then ['%', upperHexDigit (b.toNat / 16), upperHexDigit (b.toNat % 16)]
  else [Char.ofNat b.toNat]

/-- The characters written byte by byte, the reserved bytes escaped. -/
def percentEncode (reserved : UInt8 → Bool) (cs : List Char) : List Char :=
  (utf8Bytes cs).flatMap (percentByte reserved)

/-- The bytes that a list of characters denotes once each `%` escape is read back. A percent sign
without two hexadecimal digits behind it stands for itself. -/
def percentDecode : List Char → List UInt8
  | [] => []
  | '%' :: a :: b :: rest =>
    match hexValue? a, hexValue? b with
    | some hi, some lo => UInt8.ofNat (16 * hi + lo) :: percentDecode rest
    | _, _ => 37 :: percentDecode (a :: b :: rest)
  | c :: rest => String.utf8EncodeChar c ++ percentDecode rest

/-- A control character, a delete, or a byte outside ASCII: always escaped. -/
def isControlByte (b : UInt8) : Bool :=
  b < 0x20 || b ≥ 0x7F

/-- A byte that one of the listed characters or the control set reserves. -/
def reservedByte (special : List Char) (b : UInt8) : Bool :=
  isControlByte b || special.any (fun c => c.toNat == b.toNat)

end ServiceOperator.Text
