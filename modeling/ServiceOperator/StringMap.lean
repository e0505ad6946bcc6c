/-!
# Maps keyed by strings

A map is its list of entries in strictly ascending key order, so two maps with the same entries are
equal and the order in which entries are shown is the order of their keys.
-/

namespace ServiceOperator

/-- A finite map from strings, kept as entries in strictly ascending key order. -/
structure StringMap (α : Type) where
  /-- The entries, by ascending key. -/
  entries : List (String × α)
  /-- No key stands twice, and each stands before every greater one. -/
  ascending : entries.Pairwise fun a b => a.1 < b.1

namespace StringMap

variable {α β : Type}

theorem ext_entries {m n : StringMap α} (h : m.entries = n.entries) : m = n := by
  cases m; cases n; cases h; rfl

instance [DecidableEq α] : DecidableEq (StringMap α) := fun m n =>
  if h : m.entries = n.entries then isTrue (ext_entries h)
  else isFalse fun e => h (e ▸ rfl)

/-- The map without entries. -/
def empty : StringMap α := ⟨[], List.Pairwise.nil⟩

instance : EmptyCollection (StringMap α) := ⟨empty⟩

instance : Inhabited (StringMap α) := ⟨empty⟩

/-- The entries with the value at `k` set, in order. -/
def insertEntry (k : String) (v : α) : List (String × α) → List (String × α)
  | [] => [(k, v)]
  | e :: rest =>
    if k < e.1 then (k, v) :: e :: rest
    else if e.1 < k then e :: insertEntry k v rest
    else (k, v) :: rest

private theorem key_of_mem_insertEntry {k : String} {v : α} {x : String × α} :
    ∀ {l : List (String × α)}, x ∈ insertEntry k v l → x.1 = k ∨ x ∈ l
  | [], h => by
    simp only [insertEntry, List.mem_singleton] at h
    exact .inl (h ▸ rfl)
  | e :: rest, h => by
    unfold insertEntry at h
    split at h
    · rcases List.mem_cons.mp h with rfl | h
      · exact .inl rfl
      · exact .inr h
    · split at h
      · rcases List.mem_cons.mp h with rfl | h
        · exact .inr (List.mem_cons_self)
        · exact (key_of_mem_insertEntry h).imp id (List.mem_cons_of_mem e)
      · rcases List.mem_cons.mp h with rfl | h
        · exact .inl rfl
        · exact .inr (List.mem_cons_of_mem e h)

private theorem ascending_insertEntry {k : String} {v : α} :
    ∀ {l : List (String × α)}, l.Pairwise (fun a b => a.1 < b.1) →
      (insertEntry k v l).Pairwise fun a b => a.1 < b.1
  | [], _ => by simp [insertEntry]
  | e :: rest, h => by
    obtain ⟨head, tail⟩ := List.pairwise_cons.mp h
    unfold insertEntry
    split
    · rename_i lt
      refine List.pairwise_cons.mpr ⟨fun x hx => ?_, h⟩
      rcases List.mem_cons.mp hx with rfl | hx
      · exact lt
      · exact String.lt_trans lt (head x hx)
    · split
      · rename_i lt
        refine List.pairwise_cons.mpr ⟨fun x hx => ?_, ascending_insertEntry tail⟩
        rcases key_of_mem_insertEntry hx with rfl | hx
        · exact lt
        · exact head x hx
      · rename_i notLt notGt
        have same : k = e.1 :=
          String.le_antisymm (String.not_lt.mp notGt) (String.not_lt.mp notLt)
        refine List.pairwise_cons.mpr ⟨fun x hx => ?_, tail⟩
        exact same ▸ head x hx

/-- The map with the value at `k` set to `v`. -/
def insert (m : StringMap α) (k : String) (v : α) : StringMap α :=
  ⟨insertEntry k v m.entries, ascending_insertEntry m.ascending⟩

/-- The map of a list of pairs; of two pairs with one key the later wins. -/
def ofList (l : List (String × α)) : StringMap α :=
  l.foldl (fun m e => m.insert e.1 e.2) empty

/-- The value at a key. -/
def get? (m : StringMap α) (k : String) : Option α :=
  m.entries.lookup k

/-- The entries by ascending key. -/
def toList (m : StringMap α) : List (String × α) :=
  m.entries

/-- A map without entries. -/
def isEmpty (m : StringMap α) : Bool :=
  m.entries.isEmpty

/-- The number of entries. -/
def size (m : StringMap α) : Nat :=
  m.entries.length

@[simp] theorem entries_empty : (empty : StringMap α).entries = [] := rfl

@[simp] theorem toList_empty : (empty : StringMap α).toList = [] := rfl

@[simp] theorem isEmpty_empty : (empty : StringMap α).isEmpty = true := rfl

end StringMap

end ServiceOperator
