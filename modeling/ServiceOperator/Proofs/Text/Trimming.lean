import Mathlib.Data.List.TakeWhile
import ServiceOperator.Text.WhiteSpace

/-!
# Texts read from their ends

A text is cut where the characters of a kind end (`span_iff`), and trimmed of the white space at
both ends.  What is left of a trimmed text is the one part of it that neither starts nor ends with
white space and has nothing but white space around it (`trimChars_eq_iff`).  Decimal digits denote
what the standard library takes them for.

Both reading functions are characterized by an equivalence, with the parts of the text on one side
and what is known of them on the other.  A proof about a text that is built from parts therefore
never runs a reader: it names the parts and checks the conditions at their borders.
-/

namespace ServiceOperator.Text

variable {cs before behind core : List Char} {p : Char → Bool}

/-! ## Digits -/

theorem isDigit_eq (c : Char) : isDigit c = c.isDigit := by
  rw [Bool.eq_iff_iff]
  simp only [isDigit, Char.isDigit, Bool.and_eq_true, decide_eq_true_eq]
  rfl

theorem digitsValue_eq (cs : List Char) : digitsValue cs = Nat.ofDigitChars 10 cs 0 :=
  Nat.ofDigitChars_eq_foldl.symm

theorem isDigit_iff {c : Char} : c.isDigit = true ↔ '0' ≤ c ∧ c ≤ '9' := by
  rw [← isDigit_eq, isDigit, Bool.and_eq_true, decide_eq_true_eq, decide_eq_true_eq]

/-- Further digits make no number smaller. -/
theorem le_ofDigitChars (digits : List Char) (init : Nat) :
    init ≤ Nat.ofDigitChars 10 digits init := by
  induction digits generalizing init with
  | nil => exact Nat.le_refl _
  | cons c digits ih =>
      rw [Nat.ofDigitChars_cons]
      have shifted : init ≤ 10 * init + (c.toNat - '0'.toNat) := by omega
      exact Nat.le_trans shifted (ih _)

/-- A number that starts with no zero is positive. -/
theorem ofDigitChars_pos {c : Char} {rest : List Char} (nonzero : '1' ≤ c) :
    1 ≤ Nat.ofDigitChars 10 (c :: rest) 0 := by
  have nonzero : 49 ≤ c.toNat := UInt32.le_iff_toNat_le.mp nonzero
  have zero : '0'.toNat = 48 := rfl
  have first : 1 ≤ 10 * 0 + (c.toNat - '0'.toNat) := by omega
  rw [Nat.ofDigitChars_cons]
  exact Nat.le_trans first (le_ofDigitChars rest _)

/-- A digit is not white space. -/
theorem not_isWhiteSpace_of_isDigit {c : Char} (digit : isDigit c = true) :
    isWhiteSpace c = false := by
  obtain ⟨least, most⟩ := isDigit_iff.mp ((isDigit_eq c).symm.trans digit)
  have least : 48 ≤ c.toNat := UInt32.le_iff_toNat_le.mp least
  have most : c.toNat ≤ 57 := UInt32.le_iff_toNat_le.mp most
  simp only [isWhiteSpace, Bool.or_eq_false_iff, Bool.and_eq_false_iff, decide_eq_false_iff_not,
    beq_eq_false_iff_ne]
  omega

/-! ## Cutting -/

/-- A text is cut behind its leading characters of a kind. -/
theorem span_iff : cs.takeWhile p = before ∧ cs.dropWhile p = behind ↔
    cs = before ++ behind ∧ (∀ c ∈ before, p c = true) ∧ ∀ c ∈ behind.head?, p c = false := by
  constructor
  · rintro ⟨rfl, rfl⟩
    refine ⟨(List.takeWhile_append_dropWhile ..).symm, fun c member => ?_, fun c first => ?_⟩
    · exact List.all_eq_true.mp List.all_takeWhile c member
    · have stopped := List.head?_dropWhile_not p cs
      rw [Option.mem_def.mp first] at stopped
      exact stopped
  · rintro ⟨rfl, kind, stops⟩
    rw [List.takeWhile_append_of_pos kind, List.dropWhile_append_of_pos kind]
    cases behind with
    | nil => simp
    | cons c behind => simp [stops c rfl]

/-- What is left behind the leading characters of a kind. -/
theorem dropWhile_eq_iff : cs.dropWhile p = behind ↔
    ∃ before, cs = before ++ behind ∧ (∀ c ∈ before, p c = true) ∧
      ∀ c ∈ behind.head?, p c = false := by
  constructor
  · intro left
    exact ⟨_, span_iff.mp ⟨rfl, left⟩⟩
  · rintro ⟨before, split⟩
    exact (span_iff.mpr split).2

/-! ## Trimming -/

/-- A text of white space only. -/
def Blank (cs : List Char) : Prop :=
  ∀ c ∈ cs, isWhiteSpace c = true

instance (cs : List Char) : Decidable (Blank cs) :=
  decidable_of_iff (cs.all isWhiteSpace = true) List.all_eq_true

/-- A text that neither starts nor ends with white space. -/
structure Trimmed (cs : List Char) : Prop where
  first : ∀ c ∈ cs.head?, isWhiteSpace c = false
  last : ∀ c ∈ cs.getLast?, isWhiteSpace c = false

theorem blank_nil : Blank [] := List.forall_mem_nil _

theorem Blank.append (blank : Blank before) (blank' : Blank behind) : Blank (before ++ behind) :=
  List.forall_mem_append.mpr ⟨blank, blank'⟩

/-- **What trimming leaves.** -/
theorem trimChars_eq_iff : trimChars cs = core ↔
    Trimmed core ∧
      ∃ before behind, cs = before ++ (core ++ behind) ∧ Blank before ∧ Blank behind := by
  rw [trimChars, List.reverse_eq_iff, dropWhile_eq_iff]
  constructor
  · rintro ⟨tail, split, blankTail, last⟩
    obtain ⟨before, whole, blank, first⟩ :=
      dropWhile_eq_iff.mp (rfl : cs.dropWhile isWhiteSpace = _)
    have left : cs.dropWhile isWhiteSpace = core ++ tail.reverse := by
      rw [← List.reverse_inj, split, List.reverse_append, List.reverse_reverse]
    rw [left] at whole first
    refine ⟨⟨fun c head => first c ?_, fun c final => last c ?_⟩, before, tail.reverse, whole,
      blank, fun c member => blankTail c (List.mem_reverse.mp member)⟩
    · rw [List.head?_append, Option.mem_def.mp head]
      rfl
    · rwa [← List.getLast?_eq_head?_reverse]
  · rintro ⟨trimmed, before, behind, rfl, blank, blankBehind⟩
    -- Text without a core is blank, and trimming stops at its other end.
    cases core with
    | nil =>
        have nothing : (before ++ ([] ++ behind)).dropWhile isWhiteSpace = [] :=
          List.dropWhile_eq_nil_iff.mpr (blank.append blankBehind)
        exact ⟨[], by rw [nothing]; rfl, by simp, by simp⟩
    | cons c core =>
        have left :
            (before ++ (c :: core ++ behind)).dropWhile isWhiteSpace = c :: core ++ behind :=
          dropWhile_eq_iff.mpr ⟨before, rfl, blank, trimmed.first⟩
        refine ⟨behind.reverse, by rw [left, List.reverse_append],
          fun c member => blankBehind c (List.mem_reverse.mp member),
          fun d head => trimmed.last d ?_⟩
        rwa [List.getLast?_eq_head?_reverse]

end ServiceOperator.Text
