import ServiceOperator.Json.Basic

/-!
# Writing JSON

Values are written without spaces. In strings the quote, the backslash and the control characters
are escaped and everything else stands for itself.
-/

namespace ServiceOperator.Json

/-- The hexadecimal digit of a value below sixteen. -/
def lowerHexDigit (n : Nat) : Char :=
  if n < 10 then Char.ofNat (48 + n) else Char.ofNat (87 + n)

/-- How one character is written inside a string. -/
def escapeChar (c : Char) : List Char :=
  if c = '"' then ['\\', '"']
  else if c = '\\' then ['\\', '\\']
  else if c = '\n' then ['\\', 'n']
  else if c = '\r' then ['\\', 'r']
  else if c = '\t' then ['\\', 't']
  else if c.toNat = 8 then ['\\', 'b']
  else if c.toNat = 12 then ['\\', 'f']
  else if c.toNat < 32 then
    ['\\', 'u', '0', '0', lowerHexDigit (c.toNat / 16), lowerHexDigit (c.toNat % 16)]
  else [c]

/-- A string with its quotes. -/
def printString (s : String) : String :=
  String.ofList ('"' :: s.toList.flatMap escapeChar ++ ['"'])

/-- A number. A decimal is written by its mantissa and exponent. -/
def Number.print : Number → String
  | .int n => toString n
  | .decimal negative mantissa exponent =>
    (if negative then "-" else "") ++ toString mantissa ++ "e" ++ toString exponent

mutual

/-- The text of a value. -/
def print : Json → String
  | .null => "null"
  | .bool true => "true"
  | .bool false => "false"
  | .number n => n.print
  | .string s => printString s
  | .array xs => "[" ++ printItems xs ++ "]"
  | .object ms => "\x7b" ++ printMembers ms ++ "\x7d"

/-- The items of an array, separated by commas. -/
def printItems : List Json → String
  | [] => ""
  | [x] => x.print
  | x :: rest => x.print ++ "," ++ printItems rest

/-- The members of an object, separated by commas. -/
def printMembers : List (String × Json) → String
  | [] => ""
  | [(k, v)] => printString k ++ ":" ++ v.print
  | (k, v) :: rest => printString k ++ ":" ++ v.print ++ "," ++ printMembers rest

end

end ServiceOperator.Json
