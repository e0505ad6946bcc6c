import ServiceOperator.Proofs.Text.Trimming
import ServiceOperator.Proofs.Time.Calendar
import Mathlib.Data.Nat.Digits.Defs

/-!
# Stamps read back

The stamp of an instant denotes that instant again, as long as its year has four digits and no sign
(`parse?_stamp`): the year is the one part whose width a stamp does not fix, and the reader takes
four digits.  A leap second is written as the sixtieth second of its minute and read back as one
(`Instant.Valid`).

Behind its year a stamp has parts of fixed widths, and the fraction, which is as long as it has to
be and ends at the offset.  The reader is followed part by part: each lemma of the first half says
that one part is read whatever stands behind it, and `parse?_stamp_of_year` puts them together.
-/

namespace ServiceOperator

namespace Instant

open Text (isDigit digitsValue isDigit_eq digitsValue_eq)

/-! ## Padded numbers -/

section Padded

variable {width n : Nat} {c : Char}

theorem digitsValue_zeros (count : Nat) (cs : List Char) :
    digitsValue (List.replicate count '0' ++ cs) = digitsValue cs := by
  induction count with
  | zero => rfl
  | succ count ih => exact ih

theorem toList_padded (width n : Nat) : (padded width n).toList =
    List.replicate (width - (Nat.toDigits 10 n).length) '0' ++ Nat.toDigits 10 n := by
  simp [padded]

theorem length_padded (positive : 0 < width) (fits : n < 10 ^ width) :
    (padded width n).toList.length = width := by
  have short := Nat.toDigits_length 10 n width positive fits
  rw [toList_padded, List.length_append, List.length_replicate]
  omega

/-- A padded number consists of digits. -/
theorem isDigit_of_mem_padded (member : c ∈ (padded width n).toList) :
    isDigit c = true := by
  rw [toList_padded, List.mem_append] at member
  rcases member with zero | digit
  · rw [List.eq_of_mem_replicate zero]
    rfl
  · rw [isDigit_eq]
    exact Nat.isDigit_of_mem_toDigits (by decide) (by decide) digit

theorem digitsValue_padded (width n : Nat) : digitsValue (padded width n).toList = n := by
  rw [toList_padded, digitsValue_zeros, digitsValue_eq, Nat.ofDigitChars_ten_toDigits]

/-- A number is read back from its digits, whatever follows them. -/
theorem number?_padded (positive : 0 < width) (fits : n < 10 ^ width) (rest : List Char) :
    number? width ((padded width n).toList ++ rest) = some (n, rest) := by
  have length := length_padded positive fits
  have digits : (padded width n).toList.all isDigit = true :=
    List.all_eq_true.mpr fun _ => isDigit_of_mem_padded
  rw [number?, List.take_left' length, List.drop_left' length, digitsValue_padded]
  exact if_pos ⟨length, digits⟩

theorem number?_of_not_digit (other : isDigit c = false) (width : Nat) (rest : List Char) :
    number? (width + 1) (c :: rest) = none := by
  refine if_neg fun ⟨_, digits⟩ => ?_
  rw [List.take_succ_cons, List.all_cons, other] at digits
  exact Bool.false_ne_true digits

/-- The digits of a fraction count for what their places are worth. -/
theorem fraction?_padded {nanos : Nat} (positive : 0 < width) (short : width ≤ 9)
    (fits : n < 10 ^ width) (worth : n * 10 ^ (9 - width) = nanos) (other : isDigit c = false)
    (rest : List Char) :
    fraction? ('.' :: ((padded width n).toList ++ c :: rest)) = some (nanos, c :: rest) := by
  have length := length_padded positive fits
  have digits : ∀ d ∈ (padded width n).toList, isDigit d = true := fun _ => isDigit_of_mem_padded
  have stops : ∀ d ∈ (c :: rest).head?, isDigit d = false := by
    rintro d ⟨⟩
    exact other
  obtain ⟨taken, dropped⟩ := Text.span_iff.mpr
    ⟨(rfl : (padded width n).toList ++ c :: rest = _), digits, stops⟩
  have some : (padded width n).toList.isEmpty = false := by
    rw [List.isEmpty_eq_false_iff, ← List.length_pos_iff, length]
    exact positive
  have counted : (padded width n).toList.take 9 = (padded width n).toList :=
    List.take_of_length_le (length.trans_le short)
  rw [fraction?]
  simp only [taken, dropped, some, counted, length, digitsValue_padded]
  rw [if_neg Bool.false_ne_true]
  exact congrArg (fun nanos => Option.some (nanos, c :: rest)) worth

/-- A fraction of a second is read back, whatever follows it that is no part of a number. -/
theorem fraction?_fractionText (fits : n < 1000000000) (other : isDigit c = false)
    (apart : c ≠ '.') (rest : List Char) :
    fraction? ((fractionText n).toList ++ c :: rest) = some (n, c :: rest) := by
  have pointed (width : Nat) (digits : String) :
      ("." ++ digits).toList ++ c :: rest = '.' :: (digits.toList ++ c :: rest) := by
    rw [String.toList_append]
    rfl
  unfold fractionText
  split
  case isTrue whole =>
    rw [whole]
    unfold fraction?
    split
    case h_1 cs digits same => exact absurd (List.head_eq_of_cons_eq same) apart
    case h_2 => rfl
  case isFalse =>
    split
    case isTrue millis =>
      rw [pointed 3]
      exact fraction?_padded (by decide) (by decide) (by omega) (by omega) other rest
    case isFalse =>
      split
      case isTrue micros =>
        rw [pointed 6]
        exact fraction?_padded (by decide) (by decide) (by omega) (by omega) other rest
      case isFalse =>
        rw [pointed 9]
        exact fraction?_padded (by decide) (by decide) (by omega) (by omega) other rest

end Padded

/-! ## Stamps -/

theorem offset?_universal : offset? ['+', '0', '0', ':', '0', '0'] = some (0, []) := by decide

/-- An instant as a clock shows it: the fraction goes on for one second more only where a leap
second may lie, at the end of a minute. -/
structure Valid (t : Instant) : Prop where
  /-- The fraction ends with the leap second. -/
  nanos : t.nanos < 2000000000
  /-- A leap second is the last of its minute. -/
  leap : 1000000000 ≤ t.nanos → t.second % 60 = 59

/-- The year of an instant. -/
def year (t : Instant) : Int := (dateFromDays (t.second / 86400)).1

/-- The parts of a stamp, with what stands between them. -/
theorem toList_stamp (t : Instant) : t.stamp.toList =
    (yearText t.year).toList ++ '-' :: ((padded 2 (dateFromDays (t.second / 86400)).2.1).toList ++
      '-' :: ((padded 2 (dateFromDays (t.second / 86400)).2.2).toList ++
      'T' :: ((padded 2 ((t.second % 86400).toNat / 3600)).toList ++
      ':' :: ((padded 2 ((t.second % 86400).toNat / 60 % 60)).toList ++
      ':' :: ((padded 2 ((t.second % 86400).toNat % 60 + t.nanos / 1000000000)).toList ++
      ((fractionText (t.nanos % 1000000000)).toList ++ ['+', '0', '0', ':', '0', '0'])))))) := by
  have dash : "-".toList = ['-'] := rfl
  have time : "T".toList = ['T'] := rfl
  have colon : ":".toList = [':'] := rfl
  have universal : "+00:00".toList = ['+', '0', '0', ':', '0', '0'] := rfl
  simp only [stamp, year, String.toList_append, List.append_assoc, dash, time, colon, universal,
    List.cons_append, List.nil_append]

theorem bind_of_eq_some {α β : Type} {x : Option α} {a : α} {f : α → Option β}
    (found : x = some a) : (x >>= f) = f a := by
  rw [found]
  rfl

theorem after?_cons (c : Char) (rest : List Char) : after? c (c :: rest) = some rest :=
  if_pos rfl

theorem daysInMonth_le (year : Int) (month : Nat) : daysInMonth year month ≤ 31 := by
  unfold daysInMonth
  split
  · split <;> decide
  all_goals decide

/-- An instant is put together again from its day and from what a clock shows, where the sixtieth
second of a minute is a leap second. -/
theorem of_clock {t : Instant} (valid : t.Valid) :
    (let ofDay := (t.second % 86400).toNat
      let shown := ofDay % 60 + t.nanos / 1000000000
      let (second, leap) := if shown = 60 then (59, 1000000000) else (shown, 0)
      (⟨t.second / 86400 * 86400 + ((ofDay / 3600 * 60 + ofDay / 60 % 60) * 60 + second : Nat) - 0,
        t.nanos % 1000000000 + leap⟩ : Instant)) = t := by
  obtain ⟨bound, leap⟩ := valid
  have ofDay : ((t.second % 86400).toNat : Int) = t.second % 86400 :=
    Int.toNat_of_nonneg (Int.emod_nonneg _ (by decide))
  dsimp only
  by_cases late : 1000000000 ≤ t.nanos
  · have last := leap late
    have sixty : (t.second % 86400).toNat % 60 + t.nanos / 1000000000 = 60 := by omega
    have second : t.second / 86400 * 86400 + (((t.second % 86400).toNat / 3600 * 60 +
        (t.second % 86400).toNat / 60 % 60) * 60 + 59 : Nat) - 0 = t.second := by omega
    have nanos : t.nanos % 1000000000 + 1000000000 = t.nanos := by omega
    simp only [sixty, if_true]
    rw [second, nanos]
  · have early : (t.second % 86400).toNat % 60 + t.nanos / 1000000000 ≠ 60 := by omega
    have second : t.second / 86400 * 86400 + (((t.second % 86400).toNat / 3600 * 60 +
        (t.second % 86400).toNat / 60 % 60) * 60 +
        ((t.second % 86400).toNat % 60 + t.nanos / 1000000000) : Nat) - 0 = t.second := by omega
    have nanos : t.nanos % 1000000000 + 0 = t.nanos := by omega
    simp only [early, if_false]
    rw [second, nanos]

/-- The stamp of an instant in a year of four digits denotes the instant. -/
theorem parse?_stamp_of_year {t : Instant} (valid : t.Valid) (positive : 0 ≤ t.year)
    (four : t.year ≤ 9999) : parse? t.stamp = some t := by
  have bound := valid.nanos
  obtain ⟨monthPos, monthLe, dayPos, dayLe⟩ := dateFromDays_valid (t.second / 86400)
  have days := daysFromDate_dateFromDays (t.second / 86400)
  have yearText : yearText t.year = padded 4 t.year.toNat := if_pos ⟨positive, four⟩
  have text := toList_stamp t
  rw [yearText] at text
  unfold year at *
  generalize dateFromDays (t.second / 86400) = date at *
  obtain ⟨year, month, day⟩ := date
  dsimp only at *
  have dayShort : day ≤ 31 := dayLe.trans (daysInMonth_le _ _)
  have backYear : (year.toNat : Int) = year := Int.toNat_of_nonneg positive
  have ofDay : ((t.second % 86400).toNat : Int) = t.second % 86400 :=
    Int.toNat_of_nonneg (Int.emod_nonneg _ (by decide))
  unfold parse?
  rw [text]
  -- The parts of the text are read in the order in which they were written.
  refine (bind_of_eq_some (number?_padded (by decide) (by omega) _)).trans ?_
  refine (bind_of_eq_some (after?_cons '-' _)).trans ?_
  refine (bind_of_eq_some (number?_padded (by decide) (by omega) _)).trans ?_
  refine (bind_of_eq_some (after?_cons '-' _)).trans ?_
  refine (bind_of_eq_some (number?_padded (by decide) (by omega) _)).trans ?_
  dsimp only
  rw [if_pos (.inl rfl)]
  refine (bind_of_eq_some rfl).trans ?_
  refine (bind_of_eq_some (number?_padded (by decide) (by omega) _)).trans ?_
  refine (bind_of_eq_some (after?_cons ':' _)).trans ?_
  refine (bind_of_eq_some (number?_padded (by decide) (by omega) _)).trans ?_
  refine (bind_of_eq_some (after?_cons ':' _)).trans ?_
  refine (bind_of_eq_some (number?_padded (by decide) (by omega) _)).trans ?_
  refine (bind_of_eq_some (fraction?_fractionText (by omega) (by decide) (by decide) _)).trans ?_
  refine (bind_of_eq_some offset?_universal).trans ?_
  have dayFits : day ≤ daysInMonth year.toNat month := by rwa [backYear]
  dsimp only
  rw [if_pos ⟨rfl, monthPos, monthLe, dayPos, dayFits, by omega, by omega, by omega⟩, backYear,
    days]
  exact congrArg some (of_clock valid)

/-- A year that is no plain number of four digits is written with a sign, which no stamp is read
with. -/
theorem parse?_stamp_of_sign {t : Instant} (other : ¬ (0 ≤ t.year ∧ t.year ≤ 9999)) :
    parse? t.stamp = none := by
  have minus : "-".toList = ['-'] := rfl
  have plus : "+".toList = ['+'] := rfl
  have year : number? 4 t.stamp.toList = none := by
    rw [toList_stamp, yearText, if_neg other, String.toList_append, List.append_assoc]
    split
    · rw [minus]
      exact number?_of_not_digit rfl 3 _
    · rw [plus]
      exact number?_of_not_digit rfl 3 _
  unfold parse?
  rw [year]
  rfl

/-- **The stamp of an instant denotes the instant**, if its year is one of four digits; otherwise it
denotes none. -/
theorem parse?_stamp {t : Instant} (valid : t.Valid) :
    parse? t.stamp = if 0 ≤ t.year ∧ t.year ≤ 9999 then some t else none := by
  split
  case isTrue year => exact parse?_stamp_of_year valid year.1 year.2
  case isFalse year => exact parse?_stamp_of_sign year

/-- No time passes within an instant. -/
theorem nanosSince_self (t : Instant) : t.nanosSince t = 0 := by
  simp [nanosSince]

end Instant

end ServiceOperator
