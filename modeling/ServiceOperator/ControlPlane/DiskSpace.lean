import ServiceOperator.Error
import ServiceOperator.Text.Quoted
import ServiceOperator.Text.WhiteSpace
import ServiceOperator.Word

/-!
# Disk sizes

A disk size is a positive whole number followed by a binary unit, with optional white space around
and between the two. It is counted in mebibytes, in words of 64 bits: the product of the number and
the unit is not checked and wraps around.
-/

namespace ServiceOperator.DiskSpace

/-- The mebibytes in one unit. -/
def unitSize? (unit : String) : Option Nat :=
  if unit = "MiB" then some 1
  else if unit = "GiB" then some 1024
  else if unit = "TiB" then some (1024 * 1024)
  else none

/-- The number at the head of a size: one or more digits whose value fits 64 bits. -/
def amount? (digits : List Char) : Option Nat :=
  let n := Text.digitsValue digits
  if digits.isEmpty ∨ Word.bound 64 ≤ n then none else some n

/-- The number of mebibytes that a size denotes, modulo the words of 64 bits. -/
def parse (value : String) : Except OperatorError Nat :=
  let trimmed := Text.trimChars value.toList
  match amount? (trimmed.takeWhile Text.isDigit) with
  | none => .error (.invalidSpec ("invalid diskSpace " ++ Text.quoted value))
  | some n =>
    let unit := String.ofList (Text.trimChars (trimmed.dropWhile Text.isDigit))
    match unitSize? unit with
    | none =>
      .error (.invalidSpec ("invalid diskSpace unit " ++ Text.quoted unit ++ " in " ++
        Text.quoted value ++ ", expected MiB, GiB or TiB"))
    | some size =>
      if n = 0 then .error (.invalidSpec ("diskSpace must be positive, got " ++ Text.quoted value))
      else .ok (n * size % Word.bound 64)

end ServiceOperator.DiskSpace
