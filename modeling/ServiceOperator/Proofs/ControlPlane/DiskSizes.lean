import Mathlib.Data.List.Basic
import ServiceOperator.Kinds.Service
import ServiceOperator.Proofs.Manifest.Patterns
import ServiceOperator.Proofs.Text.Trimming

/-!
# How the size of a disk is written

`DiskSpace.Written` is the grammar of sizes: decimal digits and a unit, with white space at will
around them and between them.  A size is read exactly if it is so written with a number that is
positive and fits 64 bits, it is then read as the number of its units, and anything else is refused
as invalid (`DiskSpace.read_by_one_grammar`).

The schema of a service gives a pattern for sizes of its own.  It is narrower: the texts that it
admits are those that are written without white space around them, with at most one blank before the
unit and no zero in front (`DiskSpace.admits_iff`), so what Kubernetes stores is read.

### Sizes beyond a word

That the number fits 64 bits is checked, that its mebibytes do is not: they are what is left of the
product in a word (`DiskSpace.parse_eq_ok_iff`).  A size is therefore accepted or refused by the
grammar alone, whatever it comes to (`DiskSpace.refused_iff`), and only what it is read as needs the
product to fit.  The pattern of the schema has no bound on the number either, which is why the main
statement asks for it on both sides.
-/

namespace ServiceOperator

open Text
open Manifest (Pattern diskSpacePattern)

namespace DiskSpace

/-- The units, with the mebibytes in one of each. -/
def units : List (String × Nat) :=
  [("MiB", 1), ("GiB", 1024), ("TiB", 1048576)]

/-- A size as it is written. -/
structure Written where
  before : List Char
  digits : List Char
  between : List Char
  unit : String
  /-- The mebibytes in one unit. -/
  each : Nat
  behind : List Char
  blankBefore : Blank before
  decimal : ∀ c ∈ digits, c.isDigit = true
  nonempty : digits ≠ []
  blankBetween : Blank between
  known : (unit, each) ∈ units
  blankBehind : Blank behind

namespace Written

/-- A size without the white space around it. -/
def core (w : Written) : List Char :=
  w.digits ++ (w.between ++ w.unit.toList)

/-- The text of a size. -/
def text (w : Written) : String :=
  String.ofList (w.before ++ (w.core ++ w.behind))

/-- The number that the digits denote. -/
def number (w : Written) : Nat :=
  Nat.ofDigitChars 10 w.digits 0

/-- The mebibytes of a size. -/
def mebibytes (w : Written) : Nat :=
  w.number * w.each

/-- The number is one that can be read: it is positive and fits 64 bits. -/
structure Countable (w : Written) : Prop where
  positive : 1 ≤ w.number
  fits : w.number < Word.bound 64

end Written

/-! ## The parts that are read -/

variable {value unit : String} {digits : List Char} {n each mib : Nat} {e : OperatorError}

/-- A number is read off digits of which there is at least one, if its value fits 64 bits. -/
theorem amount?_eq_some_iff :
    amount? digits = some n ↔ digits ≠ [] ∧ digitsValue digits = n ∧ n < Word.bound 64 := by
  unfold amount?
  dsimp only
  split
  case isTrue refused =>
    rw [List.isEmpty_iff] at refused
    refine iff_of_false (by simp) fun ⟨nonempty, same, fits⟩ => ?_
    rcases refused with empty | large
    · exact nonempty empty
    · omega
  case isFalse readable =>
    rw [List.isEmpty_iff, not_or, Nat.not_le] at readable
    rw [Option.some.injEq]
    constructor
    · rintro rfl
      exact ⟨readable.1, rfl, readable.2⟩
    · exact fun ⟨_, same, _⟩ => same

/-- The units that are known are those of the table. -/
theorem unitSize?_eq_some_iff : unitSize? unit = some each ↔ (unit, each) ∈ units := by
  unfold unitSize?
  simp only [units, List.mem_cons, Prod.mk.injEq, List.not_mem_nil, or_false]
  split
  case isTrue mib => simp [mib, eq_comm]
  case isFalse notMib =>
    split
    case isTrue gib => simp [gib, eq_comm]
    case isFalse notGib =>
      split
      case isTrue tib => simp [tib, eq_comm]
      case isFalse notTib => simp [notMib, notGib, notTib]

/-- A unit is neither digits nor white space where it starts, nor white space where it ends. -/
theorem unit_apart (known : (unit, each) ∈ units) :
    unit.toList ≠ [] ∧ Trimmed unit.toList ∧ ∀ c ∈ unit.toList.head?, isDigit c = false := by
  simp only [units, List.mem_cons, Prod.mk.injEq, List.not_mem_nil, or_false] at known
  rcases known with ⟨rfl, -⟩ | ⟨rfl, -⟩ | ⟨rfl, -⟩
  all_goals
    refine ⟨by decide, ⟨fun c first => ?_, fun c last => ?_⟩, fun c first => ?_⟩
    · cases first
      rfl
    · cases last
      rfl
    · cases first
      rfl

/-- What reading a size comes to: a number and the unit behind it. -/
theorem parse_eq_ok_iff_parts : parse value = .ok mib ↔ ∃ n each,
    amount? ((trimChars value.toList).takeWhile isDigit) = some n ∧
      unitSize? (String.ofList (trimChars ((trimChars value.toList).dropWhile isDigit))) =
          some each ∧
        n ≠ 0 ∧ n * each % Word.bound 64 = mib := by
  unfold parse
  dsimp only
  split
  case h_1 none => simp [none]
  case h_2 n some =>
    split
    case h_1 none => simp [some, none]
    case h_2 each some' =>
      split
      case isTrue zero => simp [some, zero]
      case isFalse positive => simp [some, some', positive]

/-- A size that is not read is refused as invalid, with the text in the message. -/
theorem refused_as_invalid (refused : parse value = .error e) :
    ∃ before behind, e = .invalidSpec (before ++ quoted value ++ behind) := by
  unfold parse at refused
  dsimp only at refused
  split at refused
  case h_1 =>
    cases refused
    exact ⟨"invalid diskSpace ", "", by rw [String.append_empty]⟩
  case h_2 =>
    split at refused
    case h_1 =>
      cases refused
      exact ⟨_, _, rfl⟩
    case h_2 =>
      split at refused
      case isTrue =>
        cases refused
        exact ⟨"diskSpace must be positive, got ", "", by rw [String.append_empty]⟩
      case isFalse => cases refused

/-! ## Sizes as they are written -/

namespace Written

variable (w : Written)

theorem digit {c : Char} (member : c ∈ w.digits) : isDigit c = true :=
  (isDigit_eq c).trans (w.decimal c member)

theorem digitsValue_digits : digitsValue w.digits = w.number :=
  digitsValue_eq w.digits

theorem unitSize?_unit : unitSize? w.unit = some w.each :=
  unitSize?_eq_some_iff.mpr w.known

/-- A size begins with a digit and ends with its unit, so that there is no white space to trim. -/
theorem trimmed_core : Trimmed w.core where
  first c head := by
    rw [core, List.head?_append_of_ne_nil _ w.nonempty] at head
    exact not_isWhiteSpace_of_isDigit (w.digit (List.mem_of_head? head))
  last c last := by
    obtain ⟨nonempty, trimmed, -⟩ := unit_apart w.known
    rw [core, ← List.append_assoc, List.getLast?_append_of_ne_nil _ nonempty] at last
    exact trimmed.last c last

theorem trimChars_text : trimChars w.text.toList = w.core :=
  trimChars_eq_iff.mpr
    ⟨w.trimmed_core, w.before, w.behind, String.toList_ofList, w.blankBefore, w.blankBehind⟩

/-- The digits end where the white space before the unit starts, or the unit. -/
theorem span_core : w.core.takeWhile isDigit = w.digits ∧
    w.core.dropWhile isDigit = w.between ++ w.unit.toList := by
  refine span_iff.mpr ⟨rfl, fun c => w.digit, fun c head => ?_⟩
  -- What follows the digits is white space, or the unit where there is none.
  cases between : w.between with
  | nil =>
      rw [between, List.nil_append] at head
      exact (unit_apart w.known).2.2 c head
  | cons d rest =>
      rw [between, List.cons_append, List.head?_cons, Option.mem_some_iff] at head
      have blank : isWhiteSpace d = true := w.blankBetween d (between ▸ List.mem_cons_self)
      rw [← head]
      exact Bool.eq_false_iff.mpr fun digit =>
        Bool.false_ne_true ((not_isWhiteSpace_of_isDigit digit).symm.trans blank)

theorem trimChars_unit : trimChars (w.between ++ w.unit.toList) = w.unit.toList :=
  trimChars_eq_iff.mpr
    ⟨(unit_apart w.known).2.1, w.between, [], by rw [List.append_nil], w.blankBetween, blank_nil⟩

/-- The two parts of a size are found in its text. -/
theorem parts_text : (trimChars w.text.toList).takeWhile isDigit = w.digits ∧
    String.ofList (trimChars ((trimChars w.text.toList).dropWhile isDigit)) = w.unit := by
  rw [w.trimChars_text, w.span_core.1, w.span_core.2, w.trimChars_unit, String.ofList_toList]
  exact ⟨rfl, rfl⟩

/-- A text is that of one number of one unit. -/
theorem same_parts {w v : Written} (same : w.text = v.text) :
    w.number = v.number ∧ w.each = v.each := by
  obtain ⟨digits, unit⟩ := w.parts_text
  obtain ⟨digits', unit'⟩ := v.parts_text
  rw [same] at digits unit
  have each : some w.each = some v.each := by
    rw [← w.unitSize?_unit, ← v.unitSize?_unit, ← unit, ← unit']
  exact ⟨congrArg (Nat.ofDigitChars 10 · 0) (digits.symm.trans digits'), Option.some.inj each⟩

/-- A text in which digits and a unit are found is written of them. -/
theorem exists_text {core digits rest unit : List Char} (trimmed : trimChars value.toList = core)
    (cut : core.takeWhile isDigit = digits ∧ core.dropWhile isDigit = rest)
    (trimmedRest : trimChars rest = unit) (nonempty : digits ≠ [])
    (known : (String.ofList unit, each) ∈ units) :
    ∃ w : Written, w.text = value ∧ w.digits = digits ∧ w.each = each := by
  obtain ⟨-, before, behind, whole, blankBefore, blankBehind⟩ := trimChars_eq_iff.mp trimmed
  obtain ⟨rfl, decimal, -⟩ := span_iff.mp cut
  obtain ⟨-, between, last, rfl, blankBetween, blankLast⟩ := trimChars_eq_iff.mp trimmedRest
  -- Nothing is left behind the unit in a trimmed text, but that need not be known here.
  let w : Written := {
    before := before
    digits := digits
    between := between
    unit := String.ofList unit
    each := each
    behind := last ++ behind
    blankBefore := blankBefore
    decimal := fun c member => (isDigit_eq c).symm.trans (decimal c member)
    nonempty := nonempty
    blankBetween := blankBetween
    known := known
    blankBehind := blankLast.append blankBehind }
  refine ⟨w, ?_, rfl, rfl⟩
  have joined : w.core ++ w.behind = digits ++ (between ++ (unit ++ last)) ++ behind := by
    simp [w, Written.core]
  rw [text, ← String.toList_inj, String.toList_ofList, joined, whole]

end Written

/-- **A size is read exactly if it is written as one**, as what a word holds of its mebibytes. -/
theorem parse_eq_ok_iff :
    parse value = .ok mib ↔
      ∃ w : Written, w.text = value ∧ w.Countable ∧ w.mebibytes % Word.bound 64 = mib := by
  rw [parse_eq_ok_iff_parts]
  constructor
  · rintro ⟨n, each, amount, unit, positive, rfl⟩
    obtain ⟨nonempty, same, fits⟩ := amount?_eq_some_iff.mp amount
    obtain ⟨w, rfl, digits, rfl⟩ := Written.exists_text rfl ⟨rfl, rfl⟩ rfl
      nonempty (unitSize?_eq_some_iff.mp unit)
    rw [← digits, w.digitsValue_digits] at same
    subst same
    exact ⟨w, rfl, ⟨Nat.one_le_iff_ne_zero.mpr positive, fits⟩, rfl⟩
  · rintro ⟨w, rfl, ⟨positive, fits⟩, rfl⟩
    obtain ⟨digits, unit⟩ := w.parts_text
    refine ⟨w.number, w.each, ?_, ?_, Nat.one_le_iff_ne_zero.mp positive, rfl⟩
    · rw [digits]
      exact amount?_eq_some_iff.mpr ⟨w.nonempty, w.digitsValue_digits, fits⟩
    · rw [unit]
      exact w.unitSize?_unit

theorem parse_of_fits {w : Written} (countable : w.Countable)
    (fits : w.mebibytes < Word.bound 64) : parse w.text = .ok w.mebibytes :=
  parse_eq_ok_iff.mpr ⟨w, rfl, countable, Nat.mod_eq_of_lt fits⟩

/-- What is refused is what is not written as a size, or with a number that cannot be read.  How
many mebibytes it comes to has no part in it. -/
theorem refused_iff : (∃ message, parse value = .error (.invalidSpec message)) ↔
    ¬ ∃ w : Written, w.text = value ∧ w.Countable := by
  constructor
  · rintro ⟨message, refused⟩ ⟨w, text, countable⟩
    cases refused.symm.trans (parse_eq_ok_iff.mpr ⟨w, text, countable, rfl⟩)
  · intro unwritten
    cases reading : parse value with
    | ok mib =>
        obtain ⟨w, text, countable, -⟩ := parse_eq_ok_iff.mp reading
        exact absurd ⟨w, text, countable⟩ unwritten
    | error e =>
        obtain ⟨before, behind, rfl⟩ := refused_as_invalid reading
        exact ⟨_, rfl⟩

/-- A number with leading zeros, and white space beyond ASCII. -/
example : parse "\u2003007\u00a0TiB\n" = .ok 7340032 := by decide

/-! ## Sizes that the schema admits -/

/-- What the texts of the pattern have in common, as sizes. -/
structure Written.Plain (w : Written) : Prop where
  before : w.before = []
  nonzero : ∀ c ∈ w.digits.head?, '1' ≤ c
  between : w.between = [] ∨ w.between = [' ']
  behind : w.behind = []

theorem Written.Plain.positive {w : Written} (plain : w.Plain) : 1 ≤ w.number := by
  unfold Written.number
  cases digits : w.digits with
  | nil => exact absurd digits w.nonempty
  | cons c rest => exact ofDigitChars_pos (plain.nonzero c (digits ▸ rfl))

/-- What the schema admits is a size that is written plainly. -/
theorem exists_plain_of_admits (admits : Pattern.diskSpace.Admits value.toList) :
    ∃ w : Written, w.text = value ∧ w.Plain := by
  obtain ⟨_, _, whole, ⟨c, rfl, least, most⟩, digits, _, rfl, decimal, between, _, rfl, gap, _, _,
    rfl, ⟨unit, known, rfl⟩, rfl⟩ := admits
  have known : ∃ each, (unit, each) ∈ units := by
    simp only [List.mem_cons, List.not_mem_nil, or_false] at known
    rcases known with rfl | rfl | rfl
    · exact ⟨1, by decide⟩
    · exact ⟨1024, by decide⟩
    · exact ⟨1048576, by decide⟩
  obtain ⟨each, known⟩ := known
  have first : c.isDigit = true := isDigit_iff.mpr ⟨Char.le_trans (by decide) least, most⟩
  let w : Written := {
    before := []
    digits := c :: digits
    between := between
    unit := unit
    each := each
    behind := []
    blankBefore := blank_nil
    decimal := List.forall_mem_cons.mpr ⟨first, fun d member => isDigit_iff.mpr (decimal d member)⟩
    nonempty := List.cons_ne_nil _ _
    blankBetween := by rcases gap with rfl | rfl <;> decide
    known := known
    blankBehind := blank_nil }
  refine ⟨w, ?_, rfl, ?_, gap, rfl⟩
  · rw [Written.text, ← String.toList_inj, String.toList_ofList, whole]
    simp [w, Written.core]
  · rintro d ⟨⟩
    exact least

/-- The schema admits every size that is written plainly. -/
theorem Written.Plain.admits {w : Written} (plain : w.Plain) :
    Pattern.diskSpace.Admits w.text.toList := by
  obtain ⟨before, nonzero, gap, behind⟩ := plain
  have text : w.text.toList = w.digits ++ (w.between ++ w.unit.toList) := by
    rw [Written.text, String.toList_ofList, before, behind, List.nil_append, List.append_nil,
      Written.core]
  have decimal := w.decimal
  cases digits : w.digits with
  | nil => exact absurd digits w.nonempty
  | cons c rest =>
      rw [digits] at text nonzero decimal
      obtain ⟨first, decimal⟩ := List.forall_mem_cons.mp decimal
      have known : ∃ unit ∈ ["MiB", "GiB", "TiB"], w.unit.toList = unit.toList :=
        ⟨w.unit, List.mem_map_of_mem (f := Prod.fst) w.known, rfl⟩
      refine ⟨[c], _, text, ⟨c, rfl, nonzero c rfl, (isDigit_iff.mp first).2⟩, rest, _, rfl,
        fun d member => isDigit_iff.mp (decimal d member), w.between, _, rfl, gap, w.unit.toList,
        [], by rw [List.append_nil], known, rfl⟩

/-- **The schema admits sizes only**, and of those the ones that are written plainly. -/
theorem admits_iff :
    Pattern.diskSpace.Admits value.toList ↔ ∃ w : Written, w.text = value ∧ w.Plain := by
  constructor
  · exact exists_plain_of_admits
  · rintro ⟨w, rfl, plain⟩
    exact plain.admits

/-- Every unit is of one mebibyte at least. -/
theorem each_pos (known : (unit, each) ∈ units) : 1 ≤ each := by
  simp only [units, List.mem_cons, Prod.mk.injEq, List.not_mem_nil, or_false] at known
  rcases known with ⟨-, rfl⟩ | ⟨-, rfl⟩ | ⟨-, rfl⟩ <;> decide

/-- A size that the schema admits is read, if its mebibytes fit 64 bits. -/
theorem parse_of_admits {w : Written} (admits : Pattern.diskSpace.Admits w.text.toList)
    (fits : w.mebibytes < Word.bound 64) : parse w.text = .ok w.mebibytes := by
  obtain ⟨v, same, plain⟩ := admits_iff.mp admits
  have positive : 1 ≤ w.number := (Written.same_parts same).1 ▸ plain.positive
  have bounded : w.number ≤ w.mebibytes := Nat.le_mul_of_pos_right _ (each_pos w.known)
  exact parse_of_fits ⟨positive, Nat.lt_of_le_of_lt bounded fits⟩ fits

/-- **Sizes are read by one grammar.**  Take any text.  Unless it is a size of so many mebibytes
that they do not fit 64 bits, it is read exactly if it is written as a size with a number that is
positive and fits 64 bits, and as the mebibytes of that size.  A text that is written as no such
size is refused as invalid, and no other text is.  The pattern in the schema of services is a
grammar of its own, and what it admits is a size, which is read if its mebibytes fit 64 bits. -/
theorem read_by_one_grammar (value : String) :
    ((∀ w : Written, w.text = value → w.Countable → w.mebibytes < Word.bound 64) →
      ∀ mib, parse value = .ok mib ↔
        ∃ w : Written, w.text = value ∧ w.Countable ∧ w.mebibytes = mib) ∧
    ((∃ message, parse value = .error (.invalidSpec message)) ↔
      ¬ ∃ w : Written, w.text = value ∧ w.Countable) ∧
    Pattern.diskSpace.spelling = diskSpacePattern ∧
    (Pattern.diskSpace.Admits value.toList → (∃ w : Written, w.text = value) ∧
      ∀ w : Written, w.text = value → w.mebibytes < Word.bound 64 →
        parse value = .ok w.mebibytes) := by
  refine ⟨fun allFit mib => ?_, refused_iff, Pattern.spelling_diskSpace, fun admits => ?_⟩
  · -- The word holds all of the mebibytes of any size that the text is written as.
    rw [parse_eq_ok_iff]
    refine exists_congr fun w => and_congr_right fun text => and_congr_right fun countable => ?_
    rw [Nat.mod_eq_of_lt (allFit w text countable)]
  obtain ⟨w, text, -⟩ := admits_iff.mp admits
  refine ⟨⟨w, text⟩, ?_⟩
  rintro w rfl fits
  exact parse_of_admits admits fits

/-- Six hundred gibibytes, with a blank before the unit. -/
def Written.sixHundred : Written where
  before := []
  digits := ['6', '0', '0']
  between := [' ']
  unit := "GiB"
  each := 1024
  behind := []
  blankBefore := by decide
  decimal := List.all_eq_true.mp rfl
  nonempty := by decide
  blankBetween := by decide
  known := by decide
  blankBehind := by decide

/-- The schema admits it, its mebibytes fit 64 bits, and it is read as what is written. -/
theorem read_by_one_grammar_sixHundred :
    (∀ w : Written, w.text = "600 GiB" → w.Countable → w.mebibytes < Word.bound 64) ∧
      Pattern.diskSpace.Admits "600 GiB".toList ∧ parse "600 GiB" = .ok 614400 ∧
        ∃ w : Written, w.text = "600 GiB" ∧ w.Countable ∧ w.mebibytes = 614400 := by
  have text : Written.sixHundred.text = "600 GiB" := by decide
  have fits : ∀ w : Written, w.text = "600 GiB" → w.Countable → w.mebibytes < Word.bound 64 := by
    intro w same _
    obtain ⟨number, each⟩ := Written.same_parts (same.trans text.symm)
    rw [Written.mebibytes, number, each]
    decide
  have admits : Pattern.diskSpace.Admits "600 GiB".toList :=
    admits_iff.mpr ⟨Written.sixHundred, text, rfl, by rintro c ⟨⟩; decide, .inr rfl, rfl⟩
  obtain ⟨reads, -, -, admitted⟩ := read_by_one_grammar "600 GiB"
  have read : parse "600 GiB" = .ok 614400 :=
    (admitted admits).2 Written.sixHundred text (by decide)
  exact ⟨fits, admits, read, (reads fits _).mp read⟩

end DiskSpace

/-- **A service that is stored has its requests.**  Where the schema admits the size of its disk,
and the mebibytes of it fit 64 bits, both the body that creates the service and the one that changes
it can be written. -/
theorem ServiceSpec.requests_of_admitted {s : ServiceSpec}
    (admitted : ∀ text ∈ s.diskSpace, Pattern.diskSpace.Admits text.toList)
    (fits : ∀ w : DiskSpace.Written, w.text ∈ s.diskSpace → w.mebibytes < Word.bound 64)
    (flavour : ServiceFlavour) (name : String) (vpcId : Option String) :
    (∃ body, s.createRequest flavour name vpcId = .ok body) ∧
      ∃ body, s.updateRequest flavour vpcId = .ok body := by
  have read : ∃ disk, s.diskSpaceMb = .ok disk := by
    unfold diskSpaceMb
    split
    case h_1 text declared =>
      obtain ⟨w, rfl, -⟩ := DiskSpace.admits_iff.mp (admitted text declared)
      exact ⟨_, congrArg _ (DiskSpace.parse_of_admits (admitted _ declared) (fits w declared))⟩
    case h_2 => exact ⟨none, rfl⟩
  obtain ⟨disk, read⟩ := read
  rw [createRequest, updateRequest, read]
  exact ⟨⟨_, rfl⟩, _, rfl⟩

end ServiceOperator
