import ServiceOperator.Text.WhiteSpace
import ServiceOperator.Time.Duration

/-!
# Instants and their stamps

An instant is a second of universal time and a fraction of it; the fraction of a leap second goes
on beyond one whole second. Stamps are read and written as RFC 3339 texts: any offset is read, and
what is written is universal time with the fewest of 0, 3, 6 or 9 digits that lose nothing.
-/

namespace ServiceOperator

/-- A point in time. -/
structure Instant where
  /-- Seconds since the start of 1970, universal time. -/
  second : Int
  /-- Nanoseconds into the second; from one thousand million on they lie in a leap second. -/
  nanos : Nat
  deriving DecidableEq, Repr

namespace Instant

/-- A year whose February has twenty-nine days. -/
def isLeapYear (year : Int) : Bool :=
  year % 4 = 0 && (year % 100 ≠ 0 || year % 400 = 0)

/-- The number of days in a month. -/
def daysInMonth (year : Int) (month : Nat) : Nat :=
  match month with
  | 2 => if isLeapYear year then 29 else 28
  | 4 => 30
  | 6 => 30
  | 9 => 30
  | 11 => 30
  | _ => 31

/-- Days from the start of 1970 to a date. Years are counted from March, so that the day that some
years have more is the last of its year. -/
def daysFromDate (year : Int) (month day : Nat) : Int :=
  let y := if month ≤ 2 then year - 1 else year
  let monthFromMarch : Int := (month + 9) % 12
  let dayOfYear := (153 * monthFromMarch + 2) / 5 + day - 1
  let era := y / 400
  let yearOfEra := y % 400
  era * 146097 + yearOfEra * 365 + yearOfEra / 4 - yearOfEra / 100 + dayOfYear - 719468

/-- The date that lies a number of days after the start of 1970. -/
def dateFromDays (days : Int) : Int × Nat × Nat :=
  let z := days + 719468
  let era := z / 146097
  let dayOfEra := z % 146097
  let yearOfEra := (dayOfEra - dayOfEra / 1460 + dayOfEra / 36524 - dayOfEra / 146096) / 365
  let dayOfYear := dayOfEra - (365 * yearOfEra + yearOfEra / 4 - yearOfEra / 100)
  let monthFromMarch := (5 * dayOfYear + 2) / 153
  let day := dayOfYear - (153 * monthFromMarch + 2) / 5 + 1
  let month := if monthFromMarch < 10 then monthFromMarch + 3 else monthFromMarch - 9
  let year := yearOfEra + era * 400
  (if month ≤ 2 then year + 1 else year, month.toNat, day.toNat)

/-- The number in exactly `width` digits at the head of a text, and what follows it. -/
def number? (width : Nat) (cs : List Char) : Option (Nat × List Char) :=
  let digits := cs.take width
  if digits.length = width ∧ digits.all Text.isDigit then
    some (Text.digitsValue digits, cs.drop width)
  else none

/-- The rest of a text that starts with a character. -/
def after? (c : Char) : List Char → Option (List Char)
  | d :: rest => if d = c then some rest else none
  | [] => none

/-- The nanoseconds of a fraction with its point, of which nine digits count; none is zero. -/
def fraction? : List Char → Option (Nat × List Char)
  | '.' :: rest =>
    let digits := rest.takeWhile Text.isDigit
    if digits.isEmpty then none
    else
      let counted := digits.take 9
      some (Text.digitsValue counted * Nat.pow 10 (9 - counted.length), rest.dropWhile Text.isDigit)
  | cs => some (0, cs)

/-- The offset from universal time in seconds, written as `Z` or as a sign with hours and
minutes. -/
def offset? : List Char → Option (Int × List Char)
  | [] => none
  | c :: rest =>
    if c = 'Z' ∨ c = 'z' then some (0, rest)
    else do
      let sign : Int ← if c = '+' then some 1 else if c = '-' ∨ c.toNat = 0x2212 then some (-1)
        else none
      let (hours, rest) ← number? 2 rest
      let rest ← after? ':' rest
      let (minutes, rest) ← number? 2 rest
      if hours ≤ 23 ∧ minutes ≤ 59 then some (sign * ((hours * 60 + minutes) * 60 : Nat), rest)
      else none

/-- The instant that a stamp denotes. -/
def parse? (s : String) : Option Instant := do
  let (year, cs) ← number? 4 s.toList
  let cs ← after? '-' cs
  let (month, cs) ← number? 2 cs
  let cs ← after? '-' cs
  let (day, cs) ← number? 2 cs
  let cs ← match cs with
    | c :: rest => if c = 'T' ∨ c = 't' ∨ c = ' ' then some rest else none
    | [] => none
  let (hour, cs) ← number? 2 cs
  let cs ← after? ':' cs
  let (minute, cs) ← number? 2 cs
  let cs ← after? ':' cs
  let (second, cs) ← number? 2 cs
  let (nanos, cs) ← fraction? cs
  let (offset, cs) ← offset? cs
  if cs.isEmpty ∧ 1 ≤ month ∧ month ≤ 12 ∧ 1 ≤ day ∧ day ≤ daysInMonth year month ∧ hour ≤ 23 ∧
      minute ≤ 59 ∧ second ≤ 60 then
    let (second, leap) := if second = 60 then (59, 1000000000) else (second, 0)
    some ⟨daysFromDate year month day * 86400 + ((hour * 60 + minute) * 60 + second : Nat) - offset,
      nanos + leap⟩
  else none

/-- A number padded with zeros to a width. -/
def padded (width n : Nat) : String :=
  let digits := Nat.toDigits 10 n
  String.ofList (List.replicate (width - digits.length) '0' ++ digits)

/-- A year: four digits, with a sign if it has more or lies before year zero. -/
def yearText (year : Int) : String :=
  if 0 ≤ year ∧ year ≤ 9999 then padded 4 year.toNat
  else (if year < 0 then "-" else "+") ++ padded 4 year.natAbs

/-- A fraction of a second in the fewest of 0, 3, 6 or 9 digits that lose nothing. -/
def fractionText (nanos : Nat) : String :=
  if nanos = 0 then ""
  else if nanos % 1000000 = 0 then "." ++ padded 3 (nanos / 1000000)
  else if nanos % 1000 = 0 then "." ++ padded 6 (nanos / 1000)
  else "." ++ padded 9 nanos

/-- The stamp of an instant, in universal time. -/
def stamp (t : Instant) : String :=
  let (year, month, day) := dateFromDays (t.second / 86400)
  let ofDay := (t.second % 86400).toNat
  let second := ofDay % 60 + t.nanos / 1000000000
  yearText year ++ "-" ++ padded 2 month ++ "-" ++ padded 2 day ++ "T" ++
    padded 2 (ofDay / 3600) ++ ":" ++ padded 2 (ofDay / 60 % 60) ++ ":" ++ padded 2 second ++
    fractionText (t.nanos % 1000000000) ++ "+00:00"

/-- The nanoseconds from `start` to `t`. A leap second that lies between two times of day counts as
one second more. -/
def nanosSince (t start : Instant) : Int :=
  let leap : Int :=
    if t.second % 86400 > start.second % 86400 ∧ 1000000000 ≤ start.nanos then 1
    else if t.second % 86400 < start.second % 86400 ∧ 1000000000 ≤ t.nanos then -1
    else 0
  (t.second - start.second + leap) * 1000000000 + (t.nanos - start.nanos)

/-- The time that has passed since `start`, if `start` is not later. -/
def elapsedSince? (t start : Instant) : Option Duration :=
  let n := t.nanosSince start
  if 0 ≤ n then some ⟨n.toNat⟩ else none

end Instant

end ServiceOperator
