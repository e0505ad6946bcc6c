import ServiceOperator.Time.Duration

/-!
# Double-precision numbers

Times in seconds are counted in double precision, as everywhere where they are read. A number is a
whole multiple of a power of two, and every result is rounded to the nearest number of fifty-three
binary digits, on a tie to the even one. It is written with the fewest decimal digits that are read
back as the same number.
-/

namespace ServiceOperator

/-- The number `mantissa * 2 ^ exponent`, not negative. -/
structure Double where
  mantissa : Nat
  exponent : Int
  deriving DecidableEq, Repr

namespace Double

/-- Zero. -/
def zero : Double := ⟨0, 0⟩

/-- A quotient rounded to the nearest whole number, on a tie to the even one. -/
def roundedQuotient (n d : Nat) : Nat :=
  let q := n / d
  let r := n % d
  if 2 * r < d then q else if d < 2 * r then q + 1 else q + q % 2

/-- The numerator and denominator of `n / d * 2 ^ e`. -/
def scaled (n d : Nat) : Int → Nat × Nat
  | .ofNat e => (n * Nat.pow 2 e, d)
  | .negSucc e => (n, d * Nat.pow 2 (e + 1))

/-- The number nearest to a quotient. -/
def ofQuotient (n d : Nat) : Double :=
  if n = 0 ∨ d = 0 then zero
  else
    let guess : Int := 52 - (Int.ofNat n.log2 - Int.ofNat d.log2)
    let (a, b) := scaled n d guess
    let shift := if a / b < Nat.pow 2 52 then guess + 1 else guess
    let (a, b) := scaled n d shift
    ⟨roundedQuotient a b, -shift⟩

/-- A number as a quotient. -/
def quotient (x : Double) : Nat × Nat :=
  scaled x.mantissa 1 x.exponent

/-- The sum of two numbers. -/
def add (x y : Double) : Double :=
  let (a, b) := x.quotient
  let (c, d) := y.quotient
  ofQuotient (a * d + c * b) (b * d)

/-- A time in seconds. -/
def ofDuration (d : Duration) : Double :=
  (ofQuotient (d.nanos / 1000000000) 1).add (ofQuotient (d.nanos % 1000000000) 1000000000)

/-- The time of a number of seconds, to the nearest nanosecond. -/
def toDuration (x : Double) : Duration :=
  let (n, d) := x.quotient
  ⟨roundedQuotient (n * 1000000000) d⟩

/-- Twice a number. -/
def doubled (x : Double) : Double := ⟨x.mantissa, x.exponent + 1⟩

/-- Two quotients are equal. -/
def agree (x y : Double) : Bool :=
  let (a, b) := x.quotient
  let (c, d) := y.quotient
  a * d = c * b

/-- The number of digits of a quotient before its point, or minus the number of zeros after it. -/
def decimalMagnitude (n d : Nat) : Int :=
  if d ≤ n then (Nat.toDigits 10 (n / d)).length
  else 1 - ((Nat.toDigits 10 (d / n)).length : Int)

/-- The numerator and denominator of `n / d * 10 ^ e`. -/
def tenfold (n d : Nat) : Int → Nat × Nat
  | .ofNat e => (n * Nat.pow 10 e, d)
  | .negSucc e => (n, d * Nat.pow 10 (e + 1))

/-- A decimal number `digits * 10 ^ -places` that is read back as a given number, if the nearest one
or its neighbour is. -/
def decimalWith? (x : Double) (places : Int) : Option Nat :=
  let (n, d) := x.quotient
  let (a, b) := tenfold n d places
  let readsBack (digits : Nat) : Bool :=
    let (p, q) := tenfold digits 1 (-places)
    (ofQuotient p q).agree x
  let nearest := roundedQuotient a b
  let other := if nearest * b ≤ a then nearest + 1 else nearest - 1
  if readsBack nearest then some nearest else if readsBack other then some other else none

/-- The decimal number with the fewest digits that is read back, its digits and places, looked for
with one digit more each time. -/
def shortest (x : Double) : Nat → Int → Nat × Int
  | 0, places => ((x.decimalWith? places).getD 0, places)
  | more + 1, places =>
    match x.decimalWith? places with
    | some digits => (digits, places)
    | none => shortest x more (places + 1)

/-- Digits with a point before the last so many of them. -/
def pointed (digits : Nat) (places : Nat) : String :=
  let text := Nat.toDigits 10 digits
  let text := List.replicate (places + 1 - text.length) '0' ++ text
  let whole := text.take (text.length - places)
  let fraction := text.drop (text.length - places)
  if fraction.isEmpty then String.ofList whole else String.ofList (whole ++ '.' :: fraction)

/-- The number in decimal digits. -/
def text (x : Double) : String :=
  if x.mantissa = 0 then "0"
  else
    let (n, d) := x.quotient
    match x.shortest 17 (1 - decimalMagnitude n d) with
    | (digits, .ofNat places) => pointed digits places
    | (digits, .negSucc more) => toString (digits * Nat.pow 10 (more + 1))

end Double

end ServiceOperator
