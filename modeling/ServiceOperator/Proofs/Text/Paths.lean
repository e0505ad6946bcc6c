import ServiceOperator.Text.Percent

/-!
# Texts in paths

A path holds texts apart by slashes, and by writing what might be taken for one in percent escapes.
Both can be undone.

* What is encoded is read back, whatever else is reserved, as long as the percent sign and
  everything that is no plain ASCII is (`percentDecode_percentEncode`), and the bytes that are read
  determine their characters (`utf8Bytes_inj`).
* Texts without slashes are read back from the path that puts a slash before each of them
  (`slashed_inj`).

### Two directions

Decoding is total: a percent sign that no two digits follow stands for itself.  So there are texts
that are not the encoding of anything and still are read, and it is only from the encoded side that
nothing is lost.  Whoever builds a path from texts that it did not encode, or does not keep to
segments without slashes, has neither law.
-/

namespace ServiceOperator.Text

variable {reserved : UInt8 → Bool} {cs ds : List Char} {c : Char} {b : UInt8}

/-! ## Bytes -/

theorem utf8Bytes_inj (same : utf8Bytes cs = utf8Bytes ds) : cs = ds := by
  have encoded : cs.utf8Encode = ds.utf8Encode := congrArg List.toByteArray same
  rw [← String.toByteArray_ofList, ← String.toByteArray_ofList] at encoded
  exact String.ofList_injective (String.toByteArray_inj.mp encoded)

/-- A byte of ASCII in a character is the whole character. -/
theorem eq_of_mem_utf8EncodeChar (member : b ∈ String.utf8EncodeChar c) (plain : b.toNat < 0x80) :
    c.toNat = b.toNat := by
  unfold String.utf8EncodeChar at member
  change c.val.toNat = b.toNat
  generalize c.val.toNat = v at member ⊢
  dsimp only at member
  -- The bytes of a character beyond ASCII all lie outside ASCII.
  have beyond {n : Nat} (outside : 0x80 ≤ n ∧ n < 0x100) : b ≠ UInt8.ofNat n := by
    rintro rfl
    rw [UInt8.toNat_ofNat'] at plain
    omega
  split at member
  case isTrue small =>
      rw [List.mem_singleton.mp member, UInt8.toNat_ofNat']
      omega
  case isFalse large =>
      exfalso
      split at member
      case isTrue =>
          simp only [List.mem_cons, List.not_mem_nil, or_false] at member
          rcases member with first | second
          · exact beyond (by omega) first
          · exact beyond (by omega) second
      case isFalse =>
          split at member
          case isTrue =>
              simp only [List.mem_cons, List.not_mem_nil, or_false] at member
              rcases member with first | second | third
              · exact beyond (by omega) first
              · exact beyond (by omega) second
              · exact beyond (by omega) third
          case isFalse =>
              simp only [List.mem_cons, List.not_mem_nil, or_false] at member
              rcases member with first | second | third | fourth
              · exact beyond (by omega) first
              · exact beyond (by omega) second
              · exact beyond (by omega) third
              · exact beyond (by omega) fourth

/-- A character of plain ASCII is one byte, its own number. -/
theorem utf8EncodeChar_ofNat {n : Nat} (plain : n < 0x80) :
    String.utf8EncodeChar (Char.ofNat n) = [UInt8.ofNat n] := by
  have value : (Char.ofNat n).val.toNat = n := by
    rw [Char.ofNat, dif_pos (.inl (by omega))]
    rfl
  unfold String.utf8EncodeChar
  rw [value]
  exact if_pos (by omega)

/-! ## Escapes -/

theorem hexValue?_upperHexDigit {n : Nat} (digit : n < 16) :
    hexValue? (upperHexDigit n) = some n := by
  have all : ∀ n < 16, hexValue? (upperHexDigit n) = some n := by decide
  exact all n digit

theorem upperHexDigit_isAlphanum {n : Nat} (digit : n < 16) :
    (upperHexDigit n).isAlphanum = true := by
  have all : ∀ n < 16, (upperHexDigit n).isAlphanum = true := by decide
  exact all n digit

theorem percentDecode_cons (other : c ≠ '%') (rest : List Char) :
    percentDecode (c :: rest) = String.utf8EncodeChar c ++ percentDecode rest := by
  rw [percentDecode]
  rintro a b rest same
  exact absurd same other

/-- What is not reserved is plain ASCII. -/
theorem plain_of_not_reserved (controls : ∀ b, isControlByte b = true → reserved b = true)
    (free : reserved b = false) : 0x20 ≤ b.toNat ∧ b.toNat < 0x7F := by
  have plain : isControlByte b = false := by
    cases control : isControlByte b with
    | false => rfl
    | true => cases free.symm.trans (controls b control)
  unfold isControlByte at plain
  simp only [Bool.or_eq_false_iff, decide_eq_false_iff_not, UInt8.le_iff_toNat_le,
    UInt8.lt_iff_toNat_lt] at plain
  exact ⟨Nat.le_of_not_lt plain.1, Nat.lt_of_not_le plain.2⟩

/-- A byte is read back, escaped or not. -/
theorem percentDecode_percentByte (controls : ∀ b, isControlByte b = true → reserved b = true)
    (escape : reserved 0x25 = true) (rest : List Char) :
    percentDecode (percentByte reserved b ++ rest) = b :: percentDecode rest := by
  have bound := b.toNat_lt
  unfold percentByte
  cases taken : reserved b with
  | true =>
      rw [if_pos rfl, List.cons_append, List.cons_append, List.cons_append, List.nil_append,
        percentDecode, hexValue?_upperHexDigit (by omega), hexValue?_upperHexDigit (by omega)]
      have same : 16 * (b.toNat / 16) + b.toNat % 16 = b.toNat := by omega
      dsimp only
      rw [same, UInt8.ofNat_toNat]
  | false =>
      obtain ⟨-, plain⟩ := plain_of_not_reserved controls taken
      have other : Char.ofNat b.toNat ≠ '%' := by
        intro same
        have bytes := congrArg String.utf8EncodeChar same
        rw [utf8EncodeChar_ofNat (by omega), UInt8.ofNat_toNat] at bytes
        have percent : b = 0x25 := List.head_eq_of_cons_eq bytes
        rw [percent, escape] at taken
        cases taken
      rw [if_neg Bool.false_ne_true, List.singleton_append, percentDecode_cons other,
        utf8EncodeChar_ofNat (by omega), UInt8.ofNat_toNat]
      rfl

/-- **What was encoded is read back.** -/
theorem percentDecode_percentEncode (controls : ∀ b, isControlByte b = true → reserved b = true)
    (escape : reserved 0x25 = true) : percentDecode (percentEncode reserved cs) = utf8Bytes cs := by
  unfold percentEncode
  induction utf8Bytes cs with
  | nil => rfl
  | cons b rest ih => rw [List.flatMap_cons, percentDecode_percentByte controls escape, ih]

/-- A character that stands in an encoded text belongs to an escape, or stands for itself. -/
theorem mem_percentEncode (controls : ∀ b, isControlByte b = true → reserved b = true)
    (member : c ∈ percentEncode reserved cs) :
    c = '%' ∨ c.isAlphanum = true ∨ c ∈ cs ∧ ∃ b, c.toNat = b.toNat ∧ reserved b = false := by
  obtain ⟨b, bytes, stands⟩ := List.mem_flatMap.mp member
  have bound := b.toNat_lt
  unfold percentByte at stands
  cases taken : reserved b with
  | true =>
      rw [taken, if_pos rfl] at stands
      simp only [List.mem_cons, List.not_mem_nil, or_false] at stands
      rcases stands with rfl | rfl | rfl
      · exact .inl rfl
      · exact .inr (.inl (upperHexDigit_isAlphanum (by omega)))
      · exact .inr (.inl (upperHexDigit_isAlphanum (by omega)))
  | false =>
      rw [taken, if_neg Bool.false_ne_true, List.mem_singleton] at stands
      obtain ⟨d, listed, encoded⟩ := List.mem_flatMap.mp bytes
      obtain ⟨-, plain⟩ := plain_of_not_reserved controls taken
      have value := eq_of_mem_utf8EncodeChar encoded (by omega)
      have same : c = d := by rw [stands, ← value, Char.ofNat_toNat]
      exact .inr (.inr ⟨same ▸ listed, b, same ▸ value, taken⟩)

/-! ## Slashes -/

section Slashes

variable {s : String} {xs ys : List String}

/-- A text without slashes. -/
abbrev Slashless (s : String) : Prop := '/' ∉ s.toList

/-- The characters of texts, with a slash before each. -/
def slashed (xs : List String) : List Char :=
  xs.flatMap fun s => '/' :: s.toList

/-- A text without slashes is what comes before the next slash. -/
theorem takeWhile_slashless (plain : Slashless s) (rest : List String) :
    (s.toList ++ slashed rest).takeWhile (fun c => c ≠ '/') = s.toList := by
  rw [List.takeWhile_append_of_pos]
  · cases rest <;> simp [slashed]
  · intro c member
    refine decide_eq_true ?_
    rintro rfl
    exact plain member

/-- **Texts without slashes are read back from their path.** -/
theorem slashed_inj (plain : ∀ s ∈ xs, Slashless s) (plain' : ∀ s ∈ ys, Slashless s)
    (same : slashed xs = slashed ys) : xs = ys := by
  induction xs generalizing ys with
  | nil =>
      cases ys with
      | nil => rfl
      | cons t ys => cases same
  | cons s xs ih =>
      cases ys with
      | nil => cases same
      | cons t ys =>
          obtain ⟨plainHead, plain⟩ := List.forall_mem_cons.mp plain
          obtain ⟨plainHead', plain'⟩ := List.forall_mem_cons.mp plain'
          simp only [slashed, List.flatMap_cons, List.cons_append, List.cons.injEq,
            true_and] at same
          have heads := congrArg (List.takeWhile fun c => c ≠ '/') same
          rw [← slashed, ← slashed, takeWhile_slashless plainHead,
            takeWhile_slashless plainHead'] at heads
          rw [heads] at same
          rw [String.toList_inj.mp heads, ih plain plain' (List.append_cancel_left same)]

end Slashes

end ServiceOperator.Text
