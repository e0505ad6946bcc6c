/-!
# Punycode

The ASCII form of a text with other characters: its ASCII characters, then where the others go. The
others are told in ascending order, each by its distance from the one before, counted in places of
the growing text. A distance is written in base 36 with the lowest digit first; a digit below its
threshold is the last one, and thresholds adapt to the distances seen so far.
-/

namespace ServiceOperator.Text.Punycode

/-- The value of a digit of either case. -/
def digitValue? (c : Char) : Option Nat :=
  let n := c.toNat
  if 0x61 ≤ n ∧ n ≤ 0x7A then some (n - 0x61)
  else if 0x41 ≤ n ∧ n ≤ 0x5A then some (n - 0x41)
  else if 0x30 ≤ n ∧ n ≤ 0x39 then some (n - 0x30 + 26)
  else none

/-- The threshold of a digit, which grows with the place of the digit. -/
def threshold (place bias : Nat) : Nat :=
  Nat.max 1 (Nat.min 26 (place - bias))

/-- The bias for distances of about a size. -/
def biasFor (size : Nat) : Nat :=
  if 455 < size then 36 + biasFor (size / 35) else 36 * size / (size + 38)
termination_by size
decreasing_by exact Nat.div_lt_self (by omega) (by omega)

/-- The bias after a distance: the text has `length` characters by then. The first distance tells
less than those that follow. -/
def adapted (distance length : Nat) (isFirst : Bool) : Nat :=
  let size := if isFirst then distance / 700 else distance / 2
  biasFor (size + size / length)

/-- How far a text is decoded. -/
structure Progress where
  text : List Char
  /-- The code point of the latest character. -/
  codePoint : Nat
  /-- The place in the text from which the distance counts. -/
  start : Nat
  bias : Nat
  /-- The distance read so far, with the start. -/
  position : Nat
  weight : Nat
  /-- The place of the next digit of the distance. -/
  place : Nat

/-- A text before the first distance is read. -/
def Progress.initial (text : List Char) : Progress :=
  ⟨text, 128, 0, 72, 0, 1, 36⟩

/-- Puts the next character where the distance leads, if there is such a character. -/
def Progress.insert? (p : Progress) : Option Progress :=
  let length := p.text.length + 1
  let codePoint := p.codePoint + p.position / length
  let index := p.position % length
  if codePoint.isValidChar then
    some {
      text := p.text.insertIdx index (Char.ofNat codePoint)
      codePoint := codePoint
      start := index + 1
      bias := adapted (p.position - p.start) length (p.start = 0)
      position := index + 1
      weight := 1
      place := 36 }
  else none

/-- Reads one digit. -/
def Progress.read? (p : Progress) (digit : Nat) : Option Progress :=
  let limit := threshold p.place p.bias
  let p := { p with position := p.position + digit * p.weight }
  if digit < limit then p.insert?
  else some { p with weight := p.weight * (36 - limit), place := p.place + 36 }

/-- Reads digits, which must not end inside a distance. -/
def Progress.readAll? (p : Progress) : List Char → Option (List Char)
  | [] => if p.place = 36 then some p.text else none
  | c :: rest =>
    match (digitValue? c).bind p.read? with
    | some p => p.readAll? rest
    | none => none

/-- The text that an ASCII form stands for. A hyphen stands between the ASCII characters and the
rest unless there are none. -/
def decode? (cs : List Char) : Option (List Char) :=
  let reversed := cs.reverse
  let digits := (reversed.takeWhile fun c => c ≠ '-').reverse
  let ascii := (reversed.dropWhile fun c => c ≠ '-').drop 1
  if ascii.isEmpty then (Progress.initial []).readAll? cs
  else (Progress.initial ascii.reverse).readAll? digits

end ServiceOperator.Text.Punycode
