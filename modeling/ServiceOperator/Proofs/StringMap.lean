import ServiceOperator.StringMap

/-!
# Lookups in maps

A map is looked up by its entries.  What was inserted is found under its key and changes nothing
under the others (`StringMap.get?_insert`), so that a map made of entries with distinct keys holds
these and no others (`StringMap.get?_ofList`).  A map is the map of its entries
(`StringMap.ofList_toList`).
-/

namespace ServiceOperator.StringMap

variable {α : Type} {k name : String} {v : α} {l : List (String × α)} {m : StringMap α}

/-! ## Lookups -/

/-- The entry in front is found by its key, and the others behind it. -/
theorem lookup_cons (e : String × α) :
    (e :: l).lookup name = if name = e.1 then some e.2 else l.lookup name := by
  rw [List.lookup_cons]
  by_cases same : name = e.1
  · simp [same]
  · simp [same, beq_false_of_ne same]

/-- What was entered into a list is found under its key, and everything else as before. -/
theorem lookup_insertEntry :
    (insertEntry k v l).lookup name = if name = k then some v else l.lookup name := by
  induction l with
  | nil => exact lookup_cons (k, v)
  | cons e l ih =>
      unfold insertEntry
      by_cases before : k < e.1
      · rw [if_pos before, lookup_cons]
      · rw [if_neg before]
        by_cases behind : e.1 < k
        · rw [if_pos behind, lookup_cons, ih, lookup_cons]
          by_cases first : name = e.1
          · rw [if_pos first, if_neg (first ▸ String.ne_of_lt behind), if_pos first]
          · rw [if_neg first, if_neg first]
        · have replaced : k = e.1 :=
            String.le_antisymm (String.not_lt.mp behind) (String.not_lt.mp before)
          rw [if_neg behind, lookup_cons, lookup_cons, ← replaced]
          by_cases same : name = k
          · rw [if_pos same, if_pos same]
          · rw [if_neg same, if_neg same, if_neg same]

theorem get?_insert : (m.insert k v).get? name = if name = k then some v else m.get? name :=
  lookup_insertEntry

theorem mem_of_get? (found : m.get? name = some v) : (name, v) ∈ m.toList := by
  obtain ⟨before, after, split, -⟩ := List.lookup_eq_some_iff.mp found
  rw [toList, split]
  simp

theorem not_mem_of_get? (missing : m.get? name = none) : name ∉ m.toList.map Prod.fst := by
  have missing := List.lookup_eq_none_iff.mp missing
  simp only [List.mem_map, not_exists, not_and]
  intro e member same
  simpa [same] using missing e member

/-- What is found after entries with distinct keys were inserted is one of them, or was there
before. -/
theorem get?_foldl_insert_of_distinct (distinct : (l.map Prod.fst).Nodup) :
    (l.foldl (fun m e => m.insert e.1 e.2) m).get? name = (l.lookup name).or (m.get? name) := by
  induction l generalizing m with
  | nil => rfl
  | cons e l ih =>
      obtain ⟨fresh, distinct⟩ := List.nodup_cons.mp distinct
      rw [List.foldl_cons, ih distinct, get?_insert, lookup_cons]
      by_cases same : name = e.1
      · have missing : l.lookup name = none := by
          refine List.lookup_eq_none_iff.mpr fun d member => ?_
          have other : name ≠ d.1 := fun again =>
            fresh (same ▸ again ▸ List.mem_map_of_mem member)
          simpa using other
        rw [missing, if_pos same, if_pos same]
        rfl
      · rw [if_neg same, if_neg same]

/-- A map of entries with distinct keys holds these entries and no others. -/
theorem get?_ofList (distinct : (l.map Prod.fst).Nodup) :
    (ofList l).get? name = some v ↔ (name, v) ∈ l := by
  have found : (ofList l).get? name = l.lookup name :=
    (get?_foldl_insert_of_distinct distinct).trans (Option.or_none ..)
  rw [found, List.lookup_eq_some_iff]
  constructor
  · rintro ⟨before, after, rfl, -⟩
    simp
  · intro member
    obtain ⟨before, after, rfl⟩ := List.append_of_mem member
    refine ⟨before, after, rfl, fun e earlier => ?_⟩
    rw [List.map_append] at distinct
    have apart :=
      (List.nodup_append.mp distinct).2.2 e.1 (List.mem_map_of_mem earlier) name (by simp)
    simpa using apart.symm

/-! ## Entries in order -/

/-- A key that is greater than all others is entered at the end. -/
theorem insertEntry_of_lt (below : ∀ e ∈ l, e.1 < k) : insertEntry k v l = l ++ [(k, v)] := by
  induction l with
  | nil => rfl
  | cons e l ih =>
      obtain ⟨first, below⟩ := List.forall_mem_cons.mp below
      rw [insertEntry, if_neg (String.lt_asymm first), if_pos first, ih below]
      rfl

/-- Entries that are inserted in ascending order, behind smaller ones, are appended. -/
theorem entries_foldl_insert (m : StringMap α)
    (ascending : (m.entries ++ l).Pairwise fun a b => a.1 < b.1) :
    (l.foldl (fun m e => m.insert e.1 e.2) m).entries = m.entries ++ l := by
  induction l generalizing m with
  | nil => simp
  | cons e l ih =>
      have below : ∀ d ∈ m.entries, d.1 < e.1 := fun d member =>
        (List.pairwise_append.mp ascending).2.2 d member e (List.mem_cons_self ..)
      have entered : (m.insert e.1 e.2).entries = m.entries ++ [e] := insertEntry_of_lt below
      have ascending : ((m.insert e.1 e.2).entries ++ l).Pairwise fun a b => a.1 < b.1 := by
        rw [entered, List.append_assoc]
        exact ascending
      rw [List.foldl_cons, ih _ ascending, entered, List.append_assoc]
      rfl

/-- A map is the map of its entries. -/
theorem ofList_toList (m : StringMap α) : ofList m.toList = m := by
  refine ext_entries ?_
  rw [ofList, entries_foldl_insert empty (by simpa [toList] using m.ascending)]
  rfl

end ServiceOperator.StringMap
