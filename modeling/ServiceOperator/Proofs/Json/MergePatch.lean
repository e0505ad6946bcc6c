import ServiceOperator.Json.Decode
import ServiceOperator.Json.MergePatch

/-!
# Merge patches, name by name

An object may hold several members of one name.  Whoever reads it sees the first of them, the last
of them, or that there is more than one, so an object is known by the values that it holds for each
name (`valuesOf`).  A merge patch that holds no name twice acts on each name by itself
(`valuesOf_mergeMembers`): it leaves alone what it does not name, `null` removes all values of a
name, and any other value is merged into the last one and stands in the place of the first.

### How a document is known

`valuesOf` is all that the lemmas on documents speak of.  For each way of reading members and of
writing them there is one lemma that says what it does to the values of the name itself, and one
that it leaves the values of all other names alone.  With these in hand a document is never opened
again: what a patch makes of a record, in particular, is said name by name, and each field of a
record depends on the values of its own name alone (`Fields.required_congr`).
-/

namespace ServiceOperator.Json

/-- The values of the members with a name, in order. -/
def valuesOf (name : String) (ms : List (String × Json)) : List Json :=
  (ms.filter fun m => m.1 == name).map Prod.snd

variable {name k : String} {v : Json} {ms target patch : List (String × Json)}

/-! ## Reading -/

@[simp] theorem valuesOf_nil : valuesOf name [] = [] := rfl

@[simp] theorem valuesOf_cons_self : valuesOf k ((k, v) :: ms) = v :: valuesOf k ms := by
  simp [valuesOf]

theorem valuesOf_cons_of_ne (other : k ≠ name) :
    valuesOf name ((k, v) :: ms) = valuesOf name ms := by
  simp [valuesOf, other]

theorem valuesOf_append (ms ms' : List (String × Json)) :
    valuesOf name (ms ++ ms') = valuesOf name ms ++ valuesOf name ms' := by
  simp [valuesOf]

theorem valuesOf_member?_self {α : Type} {encode : α → Json} {a : Option α} :
    valuesOf k (member? k encode a) = a.toList.map encode := by
  cases a <;> simp [member?, valuesOf]

theorem valuesOf_member?_of_ne {α : Type} {encode : α → Json} {a : Option α} (other : k ≠ name) :
    valuesOf name (member? k encode a) = [] := by
  cases a <;> simp [member?, valuesOf, other]

/-- A lookup takes the first of the values of a name. -/
theorem lookup_eq_head? : ms.lookup name = (valuesOf name ms).head? := by
  induction ms with
  | nil => rfl
  | cons m ms ih =>
      obtain ⟨k, v⟩ := m
      by_cases same : k = name
      · subst same
        simp
      · have other : (name == k) = false := beq_false_of_ne (Ne.symm same)
        rw [valuesOf_cons_of_ne same, List.lookup_cons, other]
        exact ih

/-- A reader that lets later members override earlier ones takes the last of them. -/
theorem lastOf_eq_getLast? : lastOf name ms = (valuesOf name ms).getLast? := by
  have reversed : valuesOf name ms.reverse = (valuesOf name ms).reverse := by
    simp [valuesOf]
  rw [lastOf, lookup_eq_head?, reversed, List.head?_reverse]

/-! ## Writing -/

theorem valuesOf_eraseMember_self : valuesOf k (eraseMember k ms) = [] := by
  simp [valuesOf, eraseMember]

/-- To erase a member leaves the values of all other names alone. -/
theorem valuesOf_eraseMember_of_ne (other : k ≠ name) :
    valuesOf name (eraseMember k ms) = valuesOf name ms := by
  unfold valuesOf eraseMember
  rw [List.filter_filter]
  congr 2
  funext m
  grind

/-- A member that is set takes the place of the first value of its name, and the others stay
behind it. -/
theorem valuesOf_setMember_self :
    valuesOf k (setMember k v ms) = v :: (valuesOf k ms).tail := by
  induction ms with
  | nil => simp [setMember]
  | cons m ms ih =>
      obtain ⟨key, old⟩ := m
      unfold setMember
      by_cases same : key = k
      · subst same
        simp
      · rw [if_neg same, valuesOf_cons_of_ne same, valuesOf_cons_of_ne same, ih]

/-- To set a member leaves the values of all other names alone. -/
theorem valuesOf_setMember_of_ne (other : k ≠ name) :
    valuesOf name (setMember k v ms) = valuesOf name ms := by
  induction ms with
  | nil => simp [setMember, valuesOf_cons_of_ne other]
  | cons m ms ih =>
      obtain ⟨key, old⟩ := m
      unfold setMember
      by_cases same : key = k
      · subst same
        rw [if_pos rfl, valuesOf_cons_of_ne other, valuesOf_cons_of_ne other]
      · rw [if_neg same]
        by_cases found : key = name
        · subst found
          simp [ih]
        · rw [valuesOf_cons_of_ne found, valuesOf_cons_of_ne found, ih]

/-! ## Merging -/

/-- The values of a name once a value has been merged into them. -/
def mergedInto (old : List Json) (v : Json) : List Json :=
  if v.isNull then [] else mergePatch (old.getLast?.getD .null) v :: old.tail

/-- One member of a patch, applied. -/
def mergeMember (target : List (String × Json)) (k : String) (v : Json) : List (String × Json) :=
  if v.isNull then eraseMember k target
  else setMember k (mergePatch ((lastOf k target).getD .null) v) target

theorem mergeMembers_cons :
    mergeMembers target ((k, v) :: patch) = mergeMembers (mergeMember target k v) patch := by
  rw [mergeMembers]
  rfl

/-- One member of a patch merges its value into those of its name. -/
theorem valuesOf_mergeMember_self :
    valuesOf k (mergeMember target k v) = mergedInto (valuesOf k target) v := by
  unfold mergeMember mergedInto
  split
  · exact valuesOf_eraseMember_self
  · rw [valuesOf_setMember_self, lastOf_eq_getLast?]

/-- One member of a patch leaves the values of all other names alone. -/
theorem valuesOf_mergeMember_of_ne (other : k ≠ name) :
    valuesOf name (mergeMember target k v) = valuesOf name target := by
  unfold mergeMember
  split
  · exact valuesOf_eraseMember_of_ne other
  · exact valuesOf_setMember_of_ne other

/-- What a patch does not name, it leaves alone. -/
theorem valuesOf_mergeMembers_of_not_mem (unnamed : name ∉ patch.map Prod.fst) :
    valuesOf name (mergeMembers target patch) = valuesOf name target := by
  induction patch generalizing target with
  | nil => rw [mergeMembers]
  | cons m patch ih =>
      obtain ⟨k, v⟩ := m
      rw [List.map_cons, List.mem_cons, not_or] at unnamed
      obtain ⟨other, unnamed⟩ := unnamed
      rw [mergeMembers_cons, ih unnamed, valuesOf_mergeMember_of_ne (Ne.symm other)]

/-- **What a patch names, it merges**, each name by itself. -/
theorem valuesOf_mergeMembers (distinct : (patch.map Prod.fst).Nodup) (named : (name, v) ∈ patch) :
    valuesOf name (mergeMembers target patch) = mergedInto (valuesOf name target) v := by
  induction patch generalizing target with
  | nil => cases named
  | cons m patch ih =>
      obtain ⟨k, w⟩ := m
      rw [List.map_cons, List.nodup_cons] at distinct
      obtain ⟨once, distinct⟩ := distinct
      rw [mergeMembers_cons]
      rcases List.mem_cons.mp named with here | later
      · cases here
        rw [valuesOf_mergeMembers_of_not_mem once, valuesOf_mergeMember_self]
      · have other : k ≠ name := by
          rintro rfl
          exact once (List.mem_map.mpr ⟨_, later, rfl⟩)
        rw [ih distinct later, valuesOf_mergeMember_of_ne other]

/-- A value that is not an object takes the place of the target. -/
theorem mergePatch_of_flat (flat : ∀ members, v ≠ .object members) (t : Json) :
    mergePatch t v = v := by
  rw [mergePatch]
  exact flat

/-- A flat value that is merged into one value at most is the only one afterwards. -/
theorem mergedInto_of_flat {old : List Json} (single : old.length ≤ 1)
    (flat : ∀ members, v ≠ .object members) (present : v.isNull = false) :
    mergedInto old v = [v] := by
  have last : old.tail = [] := by
    apply List.eq_nil_of_length_eq_zero
    rw [List.length_tail]
    omega
  rw [mergedInto, if_neg (Bool.eq_false_iff.mp present), mergePatch_of_flat flat, last]

/-! ## Known members -/

theorem length_valuesOf : (valuesOf name ms).length = (ms.filter fun m => m.1 == name).length :=
  List.length_map ..

/-- The fields of an object: of each the first value. -/
def firstOf (ms : List (String × Json)) : Fields :=
  ⟨fun name => (valuesOf name ms).head?, false⟩

/-- The fields of an object are refused exactly if it holds several values for one of them. -/
theorem Fields.ofMembers?_eq_some_iff {names : List String} {f : Fields} :
    Fields.ofMembers? names ms = some f ↔
      (∀ name ∈ names, (valuesOf name ms).length ≤ 1) ∧ f = firstOf ms := by
  have repeats : (names.any fun n => (ms.filter fun m => m.1 == n).length > 1) = true ↔
      ¬ ∀ name ∈ names, (valuesOf name ms).length ≤ 1 := by
    simp [length_valuesOf]
  have fields : (⟨fun n => ms.lookup n, false⟩ : Fields) = firstOf ms := by
    unfold firstOf
    simp only [lookup_eq_head?]
  unfold Fields.ofMembers?
  rw [fields]
  by_cases single : ∀ name ∈ names, (valuesOf name ms).length ≤ 1
  · rw [if_neg fun repeated => repeats.mp repeated single, Option.some_inj, eq_comm]
    exact (and_iff_right single).symm
  · rw [if_pos (repeats.mpr single)]
    exact iff_of_false (by simp) fun known => single known.1

/-- A document whose fields can be told apart holds no known name twice. -/
theorem Fields.single_of_of? {names : List String} {j : Json} {f : Fields}
    (read : Fields.of? names j = some f) :
    ∀ name ∈ names, (valuesOf name j.members).length ≤ 1 := by
  intro name known
  cases j with
  | object ms => exact (Fields.ofMembers?_eq_some_iff.mp read).1 name known
  | _ => exact Nat.zero_le 1

/-! ## One field -/

/-- The values of a member that is left out when it is `null`. -/
def unlessNull (v : Json) : List Json :=
  if v.isNull then [] else [v]

theorem Decode.int64_ofInt {n : Int} (low : -Word.bound 63 ≤ n) (high : n ≤ Word.bound 63 - 1) :
    Decode.int64 (.ofInt n) = some n :=
  if_pos ⟨low, high⟩

theorem Decode.nat32_ofNat {n : Nat} (small : n < Word.bound 32) :
    Decode.nat32 (.ofNat n) = some n :=
  if_pos small

section

variable {α : Type} {d : Decoder α} {encode : α → Json}

theorem Decode.option_of_present (present : v.isNull = false) :
    Decode.option d v = (d v).map some := by
  cases v with
  | null => cases present
  | _ => rfl

namespace Fields

/-- A required field depends on its own values alone. -/
theorem required_congr {other : List (String × Json)}
    (same : valuesOf name ms = valuesOf name other) :
    (firstOf ms).required name d = (firstOf other).required name d := by
  have value : (firstOf ms).value name = (firstOf other).value name := congrArg List.head? same
  rw [required, value]
  rfl

theorem optional_of_single (only : valuesOf name ms = [v]) :
    (firstOf ms).optional name d = Decode.option d v := by
  have value : (firstOf ms).value name = some v := congrArg List.head? only
  rw [optional, value]

/-- A field with a default is read as it was written. -/
theorem defaulted_of_values {a : α} (default : α) (values : valuesOf name ms = unlessNull v)
    (present : v.isNull = false) (read : d v = some a) :
    (firstOf ms).defaulted name d default = some a := by
  rw [unlessNull, present] at values
  have value : (firstOf ms).value name = some v := congrArg List.head? values
  rw [defaulted, value]
  exact read

/-- An optional field is read as it was written. -/
theorem unset_of_values {o : Option α} (values : valuesOf name ms = unlessNull (ofOption encode o))
    (read : ∀ a, o = some a → (encode a).isNull = false ∧ d (encode a) = some a) :
    (firstOf ms).unset name d = some o := by
  cases o with
  | none =>
      have value : (firstOf ms).value name = none := congrArg List.head? values
      rw [unset, defaulted, value]
  | some a =>
      obtain ⟨present, same⟩ := read a rfl
      refine defaulted_of_values none values present ?_
      change Decode.option d (encode a) = _
      rw [Decode.option_of_present present, same]
      rfl

theorem text_of_values {o : Option String} (values : valuesOf name ms = unlessNull (.ofText? o)) :
    (firstOf ms).unset name Decode.text = some o :=
  unset_of_values values fun _ _ => ⟨rfl, rfl⟩

/-- An optional integer is read as it was written, if it fits. -/
theorem int64_of_values {o : Option Int}
    (values : valuesOf name ms = unlessNull (ofOption .ofInt o))
    (fits : ∀ n, o = some n → -Word.bound 63 ≤ n ∧ n ≤ Word.bound 63 - 1) :
    (firstOf ms).unset name Decode.int64 = some o := by
  refine unset_of_values values ?_
  intro n set
  obtain ⟨low, high⟩ := fits n set
  exact ⟨rfl, Decode.int64_ofInt low high⟩

end Fields

end

end ServiceOperator.Json
