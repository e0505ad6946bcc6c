import ServiceOperator.Proofs.Json.MergePatch
import ServiceOperator.Proofs.StringMap

/-!
# Reading what was written

A typed document is written field by field, and an unset field is left out or written as `null`.  So
that it is read as it was written, each field has to be told apart from the others, and the value of
each field has to be read as it was written and not to be taken for an unset one.

* `Reads` is the second half, for one value: a decoder undoes the encoder and nothing is written as
  `null`.  Texts, truth values, numbers, maps, lists and spellings have it.
* `Slots.Holds` is the first half, for a whole document: fields with different names hold, among the
  members that are written, what was written for each (`Slots.holds_members`).

With both at hand, each field of a record is read by one of four lemmas (`Fields.required_of_slot`
and its siblings).  In the other direction, a field that was read has whatever its decoder yields
(`Fields.required_yields` and its siblings), such as the bounds of a number.
-/

namespace ServiceOperator

namespace Json

/-! ## One value -/

/-- A value is read as it was written, and not written as `null`. -/
structure Reads {α : Type} (d : Decoder α) (encode : α → Json) (a : α) : Prop where
  present : (encode a).isNull = false
  same : d (encode a) = some a

theorem reads_text {s : String} : Reads Decode.text .string s := ⟨rfl, rfl⟩

theorem reads_bool {b : Bool} : Reads Decode.bool .bool b := ⟨rfl, rfl⟩

theorem reads_nat32 {n : Nat} (small : n < Word.bound 32) : Reads Decode.nat32 .ofNat n :=
  ⟨rfl, Decode.nat32_ofNat small⟩

theorem reads_int64 {n : Int} (fits : -Word.bound 63 ≤ n ∧ n ≤ Word.bound 63 - 1) :
    Reads Decode.int64 .ofInt n :=
  ⟨rfl, Decode.int64_ofInt fits.1 fits.2⟩

section

variable {α : Type} {d : Decoder α} {encode : α → Json}

/-- A list whose elements are read as they were written is read so as a whole. -/
theorem all_map {l : List α} (same : ∀ a ∈ l, d (encode a) = some a) :
    Decode.all d (l.map encode) = some l := by
  induction l with
  | nil => rfl
  | cons a l ih =>
      obtain ⟨first, same⟩ := List.forall_mem_cons.mp same
      rw [List.map_cons, Decode.all, first, ih same]

/-- Members whose values are read as they were written are read so together. -/
theorem allMembers_map {l : List (String × α)} (same : ∀ e ∈ l, d (encode e.2) = some e.2) :
    Decode.allMembers d (l.map fun e => (e.1, encode e.2)) = some l := by
  induction l with
  | nil => rfl
  | cons e l ih =>
      obtain ⟨first, same⟩ := List.forall_mem_cons.mp same
      rw [List.map_cons, Decode.allMembers, first, ih same]

theorem reads_list {l : List α} (same : ∀ a ∈ l, d (encode a) = some a) :
    Reads (Decode.list d) (fun l => .array (l.map encode)) l :=
  ⟨rfl, all_map same⟩

/-- A map of values that are read as they were written. -/
theorem reads_map {m : StringMap α} (same : ∀ e ∈ m.toList, d (encode e.2) = some e.2) :
    Reads (Decode.map d)
      (fun m : StringMap α => .object (m.toList.map fun e => (e.1, encode e.2))) m := by
  refine ⟨rfl, ?_⟩
  change (Decode.allMembers d _).map StringMap.ofList = _
  rw [allMembers_map same, Option.map_some, StringMap.ofList_toList]

theorem reads_choice {spellings : List (String × α)} {text : α → String} {a : α}
    (spelled : spellings.lookup (text a) = some a) :
    Reads (Decode.choice spellings) (fun a => .string (text a)) a :=
  ⟨rfl, spelled⟩

end

/-! ## A whole document -/

/-- The fields of a document in order, each with what is written for it. -/
abbrev Slots := List (String × Option Json)

namespace Slots

variable {slots first second : Slots} {name : String} {o : Option Json}
  {ms : List (String × Json)}

/-- The members that are written. -/
def members (slots : Slots) : List (String × Json) :=
  slots.flatMap fun slot => member? slot.1 id slot.2

@[simp] theorem members_nil : members [] = [] := rfl

@[simp] theorem members_some {v : Json} :
    members ((name, some v) :: slots) = (name, v) :: members slots := rfl

@[simp] theorem members_map {α : Type} {encode : α → Json} {a : Option α} :
    members ((name, a.map encode) :: slots) = member? name encode a ++ members slots := by
  cases a <;> rfl

@[simp] theorem members_append {others : Slots} :
    members (slots ++ others) = slots.members ++ others.members :=
  List.flatMap_append

/-- Among some members each field has what is written for it, and nothing else. -/
def Holds (slots : Slots) (ms : List (String × Json)) : Prop :=
  ∀ slot ∈ slots, valuesOf slot.1 ms = slot.2.toList

/-- A name that no field has is not written. -/
theorem valuesOf_members_of_not_mem (unnamed : name ∉ slots.map Prod.fst) :
    valuesOf name slots.members = [] := by
  induction slots with
  | nil => rfl
  | cons slot slots ih =>
      rw [List.map_cons, List.mem_cons, not_or] at unnamed
      obtain ⟨other, unnamed⟩ := unnamed
      rw [members, List.flatMap_cons, valuesOf_append, valuesOf_member?_of_ne (Ne.symm other)]
      exact ih unnamed

/-- Fields with different names hold what is written for them. -/
theorem holds_members (distinct : (slots.map Prod.fst).Nodup) : slots.Holds slots.members := by
  induction slots with
  | nil => exact List.forall_mem_nil _
  | cons slot slots ih =>
      rw [List.map_cons, List.nodup_cons] at distinct
      obtain ⟨once, distinct⟩ := distinct
      have split (name : String) : valuesOf name (members (slot :: slots)) =
          valuesOf name (member? slot.1 id slot.2) ++ valuesOf name (members slots) := by
        rw [members, List.flatMap_cons, valuesOf_append]
        rfl
      intro other known
      rw [split]
      rcases List.mem_cons.mp known with rfl | later
      · rw [valuesOf_member?_self, valuesOf_members_of_not_mem once, List.map_id, List.append_nil]
      · have different : slot.1 ≠ other.1 := by
          intro same
          exact once (same ▸ List.mem_map_of_mem later)
        rw [valuesOf_member?_of_ne different, ih distinct other later, List.nil_append]

/-- A document that holds its fields can be read off its members, as no known name stands twice. -/
theorem Holds.ofMembers? (holds : slots.Holds ms) :
    Fields.ofMembers? (slots.map Prod.fst) ms = some (firstOf ms) := by
  refine Fields.ofMembers?_eq_some_iff.mpr ⟨?_, rfl⟩
  intro name known
  obtain ⟨slot, member, rfl⟩ := List.mem_map.mp known
  rw [holds slot member]
  cases slot.2 <;> simp

/-- A document is read as it was written if it can be read off what its fields hold. -/
theorem reads {α : Type} {d : Decoder α} {encode : α → Json} {a : α} (slots : Slots)
    (written : encode a = .object slots.members) (distinct : (slots.map Prod.fst).Nodup)
    (read : ∀ ms, Fields.ofMembers? (slots.map Prod.fst) ms = some (firstOf ms) → slots.Holds ms →
      d (.object ms) = some a) : Reads d encode a := by
  have holds := holds_members distinct
  constructor
  · rw [written]
    rfl
  · rw [written]
    exact read _ holds.ofMembers? holds

theorem Holds.of_append {others : Slots} (holds : Holds (slots ++ others) ms) :
    slots.Holds ms ∧ others.Holds ms :=
  List.forall_mem_append.mp holds

/-- Fields with the same names that hold their values among the same members are the same. -/
theorem Holds.unique (names : first.map Prod.fst = second.map Prod.fst) (holds : first.Holds ms)
    (holds' : second.Holds ms) : first = second := by
  induction first generalizing second with
  | nil => exact (List.map_eq_nil_iff.mp names.symm).symm
  | cons slot first ih =>
      cases second with
      | nil => cases names
      | cons slot' second =>
          obtain ⟨sameName, names⟩ := List.cons.inj names
          obtain ⟨value, holds⟩ := List.forall_mem_cons.mp holds
          obtain ⟨value', holds'⟩ := List.forall_mem_cons.mp holds'
          have sameValue : slot.2 = slot'.2 := by
            rw [sameName] at value
            exact Option.ext fun v => by
              rw [← Option.mem_toList, ← Option.mem_toList, ← value, ← value']
          rw [Prod.ext sameName sameValue, ih names holds holds']

/-- **Fields with the same distinct names that write the same members are the same.** -/
theorem eq_of_members_eq (names : first.map Prod.fst = second.map Prod.fst)
    (distinct : (first.map Prod.fst).Nodup) (same : first.members = second.members) :
    first = second := by
  have holds := holds_members distinct
  rw [same] at holds
  exact holds.unique names (holds_members (names ▸ distinct))

end Slots

/-! ## One field -/

namespace Fields

variable {α : Type} {d : Decoder α} {encode : α → Json} {a default : α} {o : Option α}
  {name : String} {ms : List (String × Json)}

theorem required_of_slot (slot : valuesOf name ms = (some (encode a)).toList)
    (reads : Reads d encode a) : (firstOf ms).required name d = some a := by
  have value : (firstOf ms).value name = some (encode a) := congrArg List.head? slot
  rw [required, value]
  exact reads.same

/-- A field with a default is written in any case, and then its default has no part in the
reading. -/
theorem defaulted_of_slot (slot : valuesOf name ms = (some (encode a)).toList)
    (reads : Reads d encode a) : (firstOf ms).defaulted name d default = some a := by
  have value : (firstOf ms).value name = some (encode a) := congrArg List.head? slot
  rw [defaulted, value]
  exact reads.same

/-- A field that is left out if it is unset. -/
theorem unset_of_slot (slot : valuesOf name ms = (o.map encode).toList)
    (reads : ∀ a, o = some a → Reads d encode a) : (firstOf ms).unset name d = some o := by
  cases o with
  | none =>
      have value : (firstOf ms).value name = none := congrArg List.head? slot
      rw [unset, defaulted, value]
  | some a =>
      obtain ⟨present, same⟩ := reads a rfl
      have value : (firstOf ms).value name = some (encode a) := congrArg List.head? slot
      rw [unset, defaulted, value]
      change Decode.option d (encode a) = _
      rw [Decode.option_of_present present, same]
      rfl

/-- A field that is written as `null` if it is unset. -/
theorem unset_of_nullable (slot : valuesOf name ms = (some (ofOption encode o)).toList)
    (reads : ∀ a, o = some a → Reads d encode a) : (firstOf ms).unset name d = some o := by
  cases o with
  | none =>
      have value : (firstOf ms).value name = some .null := congrArg List.head? slot
      rw [unset, defaulted, value]
      rfl
  | some a => exact unset_of_slot slot reads

end Fields

/-! ## What was read -/

/-- A number that is read as one of thirty-two bits fits them. -/
theorem Decode.nat32_yields {j : Json} {n : Nat} (read : Decode.nat32 j = some n) :
    n < Word.bound 32 := by
  unfold Decode.nat32 Decode.natBelow at read
  split at read
  · split at read
    case isTrue small => exact Option.some.inj read ▸ small
    case isFalse => cases read
  · cases read

/-- A number that is read as an integer of sixty-four bits fits them. -/
theorem Decode.int64_yields {j : Json} {n : Int} (read : Decode.int64 j = some n) :
    -Word.bound 63 ≤ n ∧ n ≤ Word.bound 63 - 1 := by
  unfold Decode.int64 Decode.intWithin at read
  split at read
  · split at read
    case isTrue fits => exact Option.some.inj read ▸ fits
    case isFalse => cases read
  · cases read

namespace Fields

variable {α : Type} {d : Decoder α} {P : α → Prop} {a default : α} {o : Option α} {f : Fields}
  {name : String}

theorem required_yields (yields : ∀ {j a}, d j = some a → P a)
    (read : f.required name d = some a) : P a := by
  obtain ⟨j, -, read⟩ := Option.bind_eq_some_iff.mp read
  exact yields read

/-- A field with a default has it too, if the default does. -/
theorem defaulted_yields (yields : ∀ {j a}, d j = some a → P a) (fallback : P default)
    (read : f.defaulted name d default = some a) : P a := by
  unfold defaulted at read
  split at read
  · exact yields read
  · exact Option.some.inj read ▸ fallback

/-- An optional field has it wherever it is set. -/
theorem unset_yields (yields : ∀ {j a}, d j = some a → P a) (read : f.unset name d = some o) :
    ∀ a, o = some a → P a := by
  refine defaulted_yields (P := fun o => ∀ a, o = some a → P a) ?_ ?_ read
  · intro j o read a set
    cases absent : j.isNull with
    | true =>
        cases j with
        | null => cases (Option.some.inj read).trans set
        | _ => cases absent
    | false =>
        rw [Decode.option_of_present absent, Option.map_eq_some_iff] at read
        obtain ⟨b, read, rfl⟩ := read
        exact Option.some.inj set ▸ yields read
  · rintro a ⟨⟩

end Fields

end Json

end ServiceOperator
