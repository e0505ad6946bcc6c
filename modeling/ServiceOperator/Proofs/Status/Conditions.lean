import ServiceOperator.Status.ResourceStatus

/-!
# Setting conditions

A pass touches its conditions only through `Condition.set`, so everything that a later pass can
learn from them follows from what one setting does to the first condition of each type.

* The first condition of the set type carries what was set, and the first one of any other type is
  as before (`find?_set_self`, `find?_set_of_ne`).
* `Stands` is the form in which a condition survives: it reports a status, a reason and a message,
  and has a time of its last transition.  A condition that stands is a fixed point of being set to
  what it reports, **whatever the stamp** (`Stands.set_eq`): this is where the clock drops out of a
  repeated pass.
* `Tidy` is what settings make of a list that was tidy, or empty: it reports convergence and failure
  at most once each, and nothing else (`Tidy.set`).
-/

namespace ServiceOperator

namespace Condition

variable {type status reason message stamp type' : String} {conditions : List Condition}

@[simp] theorem find?_nil (type : String) : find? [] type = none := rfl

theorem find?_cons (c : Condition) (rest : List Condition) (type : String) :
    find? (c :: rest) type = if c.type = type then some c else find? rest type := by
  by_cases same : c.type = type
  · simp [find?, same]
  · simp [find?, same]

/-- The condition that is set: the first of its type updated, or a new one. -/
theorem find?_set_self :
    find? (set type status reason message stamp conditions) type =
      some (((find? conditions type).map (·.update status reason message stamp)).getD
        ⟨type, status, some reason, some message, some stamp⟩) := by
  induction conditions with
  | nil => simp [set, find?_cons]
  | cons c rest ih =>
      by_cases same : c.type = type
      · simp [set, find?_cons, same, update]
      · simp [set, find?_cons, same, ih]

/-- The first condition of another type is as it was before. -/
theorem find?_set_of_ne (other : type' ≠ type) :
    find? (set type status reason message stamp conditions) type' = find? conditions type' := by
  induction conditions with
  | nil => simp [set, find?_cons, Ne.symm other]
  | cons c rest ih =>
      by_cases same : c.type = type
      · subst same
        simp [set, find?_cons, update, Ne.symm other]
      · simp [set, find?_cons, same, ih]

@[simp] theorem reason?_set_self :
    reason? (set type status reason message stamp conditions) type = some reason := by
  rw [reason?, find?_set_self]
  cases find? conditions type <;> rfl

theorem reason?_set_of_ne (other : type' ≠ type) :
    reason? (set type status reason message stamp conditions) type' = reason? conditions type' := by
  rw [reason?, find?_set_of_ne other, reason?]

theorem isTrue_set_self :
    isTrue (set type status reason message stamp conditions) type = decide (status = "True") := by
  rw [isTrue, find?_set_self]
  cases find? conditions type <;> rfl

theorem isTrue_set_of_ne (other : type' ≠ type) :
    isTrue (set type status reason message stamp conditions) type' = isTrue conditions type' := by
  rw [isTrue, find?_set_of_ne other, isTrue]

/-! ## Conditions that stand -/

/-- The first condition of a type reports this status, reason and message, and has a time of its
last transition. -/
def Stands (conditions : List Condition) (type status reason message : String) : Prop :=
  ∃ time, find? conditions type = some ⟨type, status, some reason, some message, some time⟩

theorem type_of_find? {c : Condition} (found : find? conditions type = some c) : c.type = type := by
  simpa using List.find?_some found

/-- What has been set stands. -/
theorem stands_set : Stands (set type status reason message stamp conditions) type status reason
    message := by
  rw [Stands, find?_set_self]
  cases found : find? conditions type with
  | none => exact ⟨stamp, rfl⟩
  | some c =>
      have same := type_of_find? found
      simp only [Option.map_some, Option.getD_some, update, same]
      exact ⟨_, rfl⟩

theorem Stands.isTrue (stands : Stands conditions type status reason message)
    (holds : status = "True") : isTrue conditions type = true := by
  obtain ⟨time, found⟩ := stands
  simp [Condition.isTrue, found, holds]

theorem Stands.set_of_ne {status' reason' message' : String} (other : type ≠ type')
    (stands : Stands conditions type status reason message) :
    Stands (set type' status' reason' message' stamp conditions) type status reason message := by
  rw [Stands, find?_set_of_ne other]
  exact stands

/-- Setting a condition to what it reports already changes nothing, not even its time. -/
theorem Stands.set_eq (stands : Stands conditions type status reason message) :
    set type status reason message stamp conditions = conditions := by
  obtain ⟨time, found⟩ := stands
  induction conditions with
  | nil => simp at found
  | cons c rest ih =>
      rw [find?_cons] at found
      by_cases same : c.type = type
      · rw [if_pos same] at found
        cases found
        simp [set, update]
      · rw [if_neg same] at found
        simp [set, same, ih found]

/-! ## Lists that are tidy -/

/-- A condition gives a reason and a message, and has a time of its last transition. -/
structure Complete (c : Condition) : Prop where
  reason : c.reason.isSome = true
  message : c.message.isSome = true
  time : c.lastTransitionTime.isSome = true

/-- The conditions report convergence and failure and nothing else, each at most once, and all that
they report is complete. -/
structure Tidy (conditions : List Condition) : Prop where
  types : ∀ c ∈ conditions, c.type = running ∨ c.type = error
  once : (conditions.map Condition.type).Nodup
  complete : ∀ c ∈ conditions, c.Complete

theorem tidy_nil : Tidy [] := ⟨by simp, by simp, by simp⟩

theorem complete_update {c : Condition} : (c.update status reason message stamp).Complete :=
  ⟨rfl, rfl, rfl⟩

/-- A condition of a list in which one was set is from before, or is the one that was set. -/
theorem mem_set {c : Condition} (member : c ∈ set type status reason message stamp conditions) :
    c ∈ conditions ∨ c.type = type ∧ c.Complete := by
  induction conditions with
  | nil =>
      rw [List.mem_singleton.mp member]
      exact .inr ⟨rfl, rfl, rfl, rfl⟩
  | cons d rest ih =>
      rw [set] at member
      by_cases same : d.type = type
      · rw [if_pos same] at member
        rcases List.mem_cons.mp member with rfl | behind
        · exact .inr ⟨same, complete_update⟩
        · exact .inl (List.mem_cons_of_mem _ behind)
      · rw [if_neg same] at member
        rcases List.mem_cons.mp member with rfl | behind
        · exact .inl (List.mem_cons_self ..)
        · exact (ih behind).imp_left (List.mem_cons_of_mem _)

/-- Setting a condition in place keeps the types, and adding one adds a type that is new. -/
theorem nodup_types_set (once : (conditions.map Condition.type).Nodup) :
    ((set type status reason message stamp conditions).map Condition.type).Nodup := by
  induction conditions with
  | nil => simp [set]
  | cons c rest ih =>
      obtain ⟨fresh, once⟩ := List.nodup_cons.mp once
      rw [set]
      by_cases same : c.type = type
      · rw [if_pos same]
        exact List.nodup_cons.mpr ⟨fresh, once⟩
      · rw [if_neg same]
        refine List.nodup_cons.mpr ⟨?_, ih once⟩
        intro again
        obtain ⟨d, member, sameType⟩ := List.mem_map.mp again
        rcases mem_set member with before | ⟨isSet, -⟩
        · exact fresh (List.mem_map.mpr ⟨d, before, sameType⟩)
        · exact same (sameType.symm.trans isSet)

/-- **A setting of one of the two conditions keeps a list tidy.** -/
theorem Tidy.set (tidy : Tidy conditions) (known : type = running ∨ type = error) :
    Tidy (set type status reason message stamp conditions) where
  types c member := by
    rcases mem_set member with before | ⟨isSet, -⟩
    · exact tidy.types c before
    · rw [isSet]
      exact known
  once := nodup_types_set tidy.once
  complete c member := by
    rcases mem_set member with before | ⟨-, complete⟩
    · exact tidy.complete c before
    · exact complete

/-! ## Lists that are compared -/

@[simp] theorem agrees_refl (c : Condition) : c.agrees c = true := by
  simp [agrees]

@[simp] theorem listAgrees_refl (conditions : List Condition) :
    listAgrees conditions conditions = true := by
  simp only [listAgrees, decide_true, Bool.true_and, List.all_eq_true, List.any_eq_true]
  intro c member
  exact ⟨c, member, agrees_refl c⟩

end Condition

/-! ## The two conditions of a status -/

namespace ResourceStatus

variable {s : ResourceStatus} {holds : Bool} {reason : Reason} {message stamp : String}

theorem running_ne_error : Condition.running ≠ Condition.error := by decide

@[simp] theorem isRunning_setRunning :
    (s.setRunning holds reason message stamp).isRunning = holds := by
  rw [isRunning, setRunning, Condition.isTrue_set_self]
  cases holds <;> rfl

@[simp] theorem isRunning_setError :
    (s.setError holds reason message stamp).isRunning = s.isRunning :=
  Condition.isTrue_set_of_ne running_ne_error

@[simp] theorem isFailing_setError : (s.setError holds reason message stamp).isFailing = holds := by
  rw [isFailing, setError, Condition.isTrue_set_self]
  cases holds <;> rfl

@[simp] theorem isFailing_setRunning :
    (s.setRunning holds reason message stamp).isFailing = s.isFailing :=
  Condition.isTrue_set_of_ne (Ne.symm running_ne_error)

/-- The reason that the status gives for the last failure, or for there being none. -/
def errorReason? (s : ResourceStatus) : Option String :=
  Condition.reason? s.conditions Condition.error

@[simp] theorem errorReason?_setError :
    (s.setError holds reason message stamp).errorReason? = some reason.text :=
  Condition.reason?_set_self

@[simp] theorem errorReason?_setRunning :
    (s.setRunning holds reason message stamp).errorReason? = s.errorReason? :=
  Condition.reason?_set_of_ne (Ne.symm running_ne_error)

theorem tidy_setRunning (tidy : Condition.Tidy s.conditions) :
    Condition.Tidy (s.setRunning holds reason message stamp).conditions :=
  tidy.set (.inl rfl)

theorem tidy_setError (tidy : Condition.Tidy s.conditions) :
    Condition.Tidy (s.setError holds reason message stamp).conditions :=
  tidy.set (.inr rfl)

/-- A status that differs in nothing has not changed. -/
@[simp] theorem changed_self (s : ResourceStatus) : changed (some s) s = false := by
  simp [changed, agrees]

end ResourceStatus

/-- No two reasons are spelled alike. -/
theorem Reason.text_injective {a b : Reason} (same : a.text = b.text) : a = b := by
  cases a <;> cases b <;> first | rfl | exact absurd same (by decide)

end ServiceOperator
