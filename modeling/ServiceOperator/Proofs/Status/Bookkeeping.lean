import Mathlib.Data.List.Nodup
import ServiceOperator.Proofs.Status.Conditions

/-!
# The books that conditions keep

A list of conditions is kept like a book: a setting changes one entry in its place or adds one at
the end, and touches no other.  A pass sets conditions more than once, so what matters is what
several settings come to.

* `Amends` is a series of settings, all with one stamp and no two of one type.  Two settings of one
  type that agree on the status are one (`set_set`), so that a series in which no status is taken
  back has this form.
* `Follows` is what such a series makes of one entry: the time of its last transition moves to the
  stamp exactly if its status differs from the one at the start.
* `Booked` is what it makes of the whole list (`Amends.booked`), by induction over the settings: a
  setting meets the entry that it changes as it was at the start, since no setting before it was of
  the same type.

### Why the first of its type

A list may hold two conditions of one type; the operator does not write such a list, but it reads
what is stored.  A setting goes to the first of them, and so does every reader.  The second one is
an entry like any other, so the law about a place in the list asks whether an earlier place has the
type, and not whether the types are distinct.
-/

namespace ServiceOperator

namespace Condition

variable {type type' status reason message stamp : String} {types : List String} {c d : Condition}
  {conditions before after : List Condition} {i : Nat}

/-- Some condition is of a type. -/
def Mentions (conditions : List Condition) (type : String) : Prop :=
  type ∈ conditions.map Condition.type

instance : Decidable (Mentions conditions type) :=
  inferInstanceAs (Decidable (type ∈ conditions.map Condition.type))

/-! ## One setting -/

/-- A setting leaves the types of all entries as they are, and adds one that is missing. -/
theorem types_set : (set type status reason message stamp conditions).map Condition.type =
    if Mentions conditions type then conditions.map Condition.type
    else conditions.map Condition.type ++ [type] := by
  induction conditions with
  | nil => simp [set, Mentions]
  | cons c rest ih =>
      by_cases same : c.type = type
      · simp [set, Mentions, same, update]
      · have missed : Mentions (c :: rest) type ↔ Mentions rest type := by
          simp [Mentions, Ne.symm same]
        simp only [set, same, if_false, List.map_cons, ih, missed]
        split <;> simp

theorem mentions_set : Mentions (set type status reason message stamp conditions) type := by
  rw [Mentions, types_set]
  split
  case isTrue mentioned => exact mentioned
  case isFalse => simp

theorem Mentions.set (mentions : Mentions conditions type') :
    Mentions (set type status reason message stamp conditions) type' := by
  rw [Mentions, types_set]
  split
  case isTrue => exact mentions
  case isFalse => exact List.mem_append_left _ mentions

theorem mentions_of_isTrue (holds : isTrue conditions type = true) : Mentions conditions type := by
  rw [isTrue] at holds
  cases found : find? conditions type with
  | none => simp [found] at holds
  | some c => exact List.mem_map.mpr ⟨c, List.mem_of_find?_eq_some found, type_of_find? found⟩

/-- A setting changes an entry only if it is the first of its type. -/
theorem getElem?_set (stands : conditions[i]? = some c) :
    (set type status reason message stamp conditions)[i]? = some c ∨
      c.type = type ∧ (∀ b ∈ conditions.take i, b.type ≠ type) ∧
        (set type status reason message stamp conditions)[i]? =
          some (c.update status reason message stamp) := by
  induction conditions generalizing i with
  | nil => simp at stands
  | cons first rest ih =>
      by_cases same : first.type = type
      · rw [set, if_pos same]
        cases i with
        | zero =>
            obtain rfl : first = c := by simpa using stands
            exact .inr ⟨same, by simp, by simp⟩
        | succ i => exact .inl (by simpa using stands)
      · rw [set, if_neg same]
        cases i with
        | zero => exact .inl (by simpa using stands)
        | succ i =>
            have stands : rest[i]? = some c := by simpa using stands
            refine (ih stands).imp (by simp) ?_
            rintro ⟨ofType, first, updated⟩
            refine ⟨ofType, ?_, by simpa using updated⟩
            rw [List.take_succ_cons, List.forall_mem_cons]
            exact ⟨same, first⟩

/-- Behind the entries that were there stands at most the one that a setting adds. -/
theorem added_of_set (behind : conditions.length ≤ i)
    (stands : (set type status reason message stamp conditions)[i]? = some d) :
    d = ⟨type, status, some reason, some message, some stamp⟩ := by
  induction conditions generalizing i with
  | nil =>
      rw [set] at stands
      exact (List.mem_singleton.mp (List.mem_of_getElem? stands))
  | cons first rest ih =>
      cases i with
      | zero => simp at behind
      | succ i =>
          have behind : rest.length ≤ i := by simpa using behind
          rw [set] at stands
          split at stands
          · have past : rest[i]? = none := List.getElem?_eq_none behind
            simp [past] at stands
          · exact ih behind (by simpa using stands)

/-- **Two settings of one type that agree on the status are one.** -/
theorem set_set {reason' message' : String} :
    set type status reason' message' stamp (set type status reason message stamp conditions) =
      set type status reason' message' stamp conditions := by
  induction conditions with
  | nil => simp [set, update]
  | cons c rest ih =>
      by_cases same : c.type = type
      · simp [set, same, update]
      · simp [set, same, ih]

/-! ## Series of settings -/

/-- Conditions come from others by settings with one stamp, one for each of some types. -/
inductive Amends (stamp : String) : List String → List Condition → List Condition → Prop
  | nothing (conditions : List Condition) : Amends stamp [] conditions conditions
  | set {types : List String} {before after : List Condition} {type status reason message : String}
      (earlier : Amends stamp types before after) (fresh : type ∉ types) :
      Amends stamp (type :: types) before (Condition.set type status reason message stamp after)

/-- What a setting makes of an entry: the time of the last transition is that of the setting if the
status is another, and stays if it was known and the status is the same. -/
structure Follows (stamp : String) (c d : Condition) : Prop where
  type : d.type = c.type
  flipped : d.status ≠ c.status → d.lastTransitionTime = some stamp
  steady : d.status = c.status → ∀ time, c.lastTransitionTime = some time →
    d.lastTransitionTime = some time
  unset : c.lastTransitionTime = none → d.lastTransitionTime = some stamp

/-- To update an entry follows it. -/
theorem follows_update : Follows stamp c (c.update status reason message stamp) where
  type := rfl
  flipped other := by
    have other : ¬ c.status = status := Ne.symm other
    rw [update, if_neg other]
  steady same time known := by
    have same : c.status = status := same.symm
    rw [update, if_pos same, known]
    rfl
  unset unknown := by
    rw [update, unknown]
    simp

/-- The types that a series finds keep their places, and those that it adds are new and distinct. -/
theorem Amends.types_eq (amends : Amends stamp types before after) :
    ∃ added, after.map Condition.type = before.map Condition.type ++ added ∧ added.Nodup ∧
      ∀ type ∈ added, type ∈ types ∧ ¬ Mentions before type := by
  induction amends with
  | nothing => exact ⟨[], by simp⟩
  | @set types before after type _ _ _ earlier fresh ih =>
      obtain ⟨added, same, once, new⟩ := ih
      rw [types_set]
      split
      case isTrue =>
        refine ⟨added, same, once, ?_⟩
        intro other member
        exact ⟨List.mem_cons_of_mem _ (new other member).1, (new other member).2⟩
      case isFalse missing =>
        rw [Mentions, same, List.mem_append, not_or] at missing
        refine ⟨added ++ [type], by simp [same], ?_, ?_⟩
        · refine List.nodup_append.mpr ⟨once, by simp, ?_⟩
          rintro other member _ last rfl
          exact missing.2 (List.mem_singleton.mp last ▸ member)
        · intro other member
          rcases List.mem_append.mp member with member | last
          · exact ⟨List.mem_cons_of_mem _ (new other member).1, (new other member).2⟩
          · obtain rfl := List.mem_singleton.mp last
            exact ⟨List.mem_cons_self .., missing.1⟩

/-- The entries before a place have the types that they had at the start. -/
theorem Amends.types_take (amends : Amends stamp types before after) (within : i ≤ before.length) :
    (after.take i).map Condition.type = (before.take i).map Condition.type := by
  obtain ⟨added, same, -⟩ := amends.types_eq
  rw [List.map_take, List.map_take, same, List.take_append_of_le_length (by simpa using within)]

/-- All types that were set are there. -/
theorem Amends.mentions (amends : Amends stamp types before after) (isSet : type ∈ types) :
    Mentions after type := by
  induction amends with
  | nothing => simp at isSet
  | set earlier fresh ih =>
      rcases List.mem_cons.mp isSet with rfl | earlier
      · exact mentions_set
      · exact (ih earlier).set

/-- **What becomes of an entry.**  It stays in its place; it is as it was, or it is the first of one
of the types and follows what it was. -/
theorem Amends.kept (amends : Amends stamp types before after) (stands : before[i]? = some c) :
    ∃ d, after[i]? = some d ∧
      (d = c ∨ c.type ∈ types ∧ (∀ b ∈ before.take i, b.type ≠ c.type) ∧ Follows stamp c d) := by
  induction amends with
  | nothing => exact ⟨c, stands, .inl rfl⟩
  | @set types before after type status reason message earlier fresh ih =>
      obtain ⟨d, there, became⟩ := ih stands
      rcases getElem?_set there with untouched | ⟨ofType, first, updated⟩
      · refine ⟨d, untouched, became.imp_right ?_⟩
        rintro ⟨known, follows⟩
        exact ⟨List.mem_cons_of_mem _ known, follows⟩
      · rcases became with rfl | ⟨known, -, follows⟩
        · have within : i ≤ before.length :=
            (List.getElem?_eq_some_iff.mp stands).elim fun lt _ => Nat.le_of_lt lt
          refine ⟨_, updated, .inr ⟨ofType ▸ List.mem_cons_self .., ?_, follows_update⟩⟩
          have first : type ∉ (after.take i).map Condition.type := by
            simpa only [List.mem_map, not_exists, not_and] using first
          rw [earlier.types_take within] at first
          intro b member sameType
          exact first (List.mem_map.mpr ⟨b, member, sameType.trans ofType⟩)
        · -- An entry that was changed is of an earlier type, and this one is fresh.
          exact absurd (ofType ▸ follows.type ▸ known) fresh

/-- An entry that is added is of one of the types, and of one that was missing. -/
theorem Amends.added_type (amends : Amends stamp types before after) (behind : before.length ≤ i)
    (stands : after[i]? = some d) : d.type ∈ types ∧ ¬ Mentions before d.type := by
  obtain ⟨added, same, -, new⟩ := amends.types_eq
  have placed : (after.map Condition.type)[i]? = some d.type := by simp [stands]
  rw [same, List.getElem?_append_right (by simpa using behind)] at placed
  exact new _ (List.mem_of_getElem? placed)

/-- An entry that is added has the stamp for its time. -/
theorem Amends.added_time (amends : Amends stamp types before after) (behind : before.length ≤ i)
    (stands : after[i]? = some d) : d.lastTransitionTime = some stamp := by
  induction amends generalizing d with
  | nothing => simp [List.getElem?_eq_none behind] at stands
  | @set types before after type status reason message earlier fresh ih =>
      by_cases last : after.length ≤ i
      · rw [added_of_set last stands]
      · obtain ⟨b, there⟩ : ∃ b, after[i]? = some b := ⟨_, List.getElem?_eq_getElem (by omega)⟩
        rcases getElem?_set there with untouched | ⟨ofType, -, -⟩
        · obtain rfl : b = d := Option.some.inj (untouched.symm.trans stands)
          exact ih behind there
        · exact absurd (ofType ▸ (earlier.added_type behind there).1) fresh

/-! ## The whole book -/

/-- What a pass makes of the conditions of its record.  The entries that were there keep their
places, and only the first that reports convergence and the first that reports failure may change;
an entry is added at the end, and only for a type that was missing. -/
structure Booked (stamp : String) (before after : List Condition) : Prop where
  kept : ∀ (i : Nat) (c : Condition), before[i]? = some c → ∃ d, after[i]? = some d ∧
    (d = c ∨ (c.type = running ∨ c.type = error) ∧ (∀ b ∈ before.take i, b.type ≠ c.type) ∧
      Follows stamp c d)
  appended : ∀ (i : Nat) (d : Condition), before.length ≤ i → after[i]? = some d →
    (d.type = running ∨ d.type = error) ∧ ¬ Mentions before d.type ∧
      d.lastTransitionTime = some stamp
  once : ∀ type, (after.map Condition.type).count type = (before.map Condition.type).count type ∨
    ¬ Mentions before type ∧ (after.map Condition.type).count type = 1

/-- A type that is added is there once, and the entries of all other types are as many as before. -/
theorem Amends.once (amends : Amends stamp types before after) :
    (after.map Condition.type).count type = (before.map Condition.type).count type ∨
      ¬ Mentions before type ∧ (after.map Condition.type).count type = 1 := by
  obtain ⟨added, same, nodup, new⟩ := amends.types_eq
  rw [same, List.count_append]
  by_cases member : type ∈ added
  · have missing := (new type member).2
    refine .inr ⟨missing, ?_⟩
    rw [List.count_eq_zero_of_not_mem missing, List.count_eq_one_of_mem nodup member]
  · exact .inl (by rw [List.count_eq_zero_of_not_mem member, Nat.add_zero])

/-- **A series of settings of the two conditions of a status keeps the book.** -/
theorem Amends.booked (amends : Amends stamp types before after)
    (known : ∀ type ∈ types, type = running ∨ type = error) : Booked stamp before after where
  kept i c stands := by
    obtain ⟨d, there, became⟩ := amends.kept stands
    refine ⟨d, there, became.imp_right ?_⟩
    rintro ⟨member, first, follows⟩
    exact ⟨known _ member, first, follows⟩
  appended i d behind stands := by
    obtain ⟨member, missing⟩ := amends.added_type behind stands
    exact ⟨known _ member, missing, amends.added_time behind stands⟩
  once _ := amends.once

end Condition

end ServiceOperator
