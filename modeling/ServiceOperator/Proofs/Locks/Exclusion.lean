import Mathlib.Data.List.Nodup
import ServiceOperator.Locks.Keyed

/-!
# At most one owner for each key

Callers take their steps in any order, and the table forgets a key between the step that gives its
mutex up and the step that looks after it.  Two callers could then hold two mutexes for one key.
What rules it out is that all callers of a key refer to one mutex, the one in the table.

`Sound` says so, together with what a mutex does by itself: a caller has one reference, and a mutex
one owner.  What a step can do at all is said once, by `step_moves`.  Each step keeps `Sound`
(`Sound.step`), so it holds whatever the order of the steps is (`Sound.steps`).  The two things that
follow are `Sound.owner_unique`, for the owners of a key, and `Sound.table_step`, for its entry.

A step changes the list of callers by one of three operations.  The lemmas about `Exclusive` say for
each of them when it keeps the owners apart.

### The step that would break it

The dangerous step is `sweep`, which takes an entry out of the table while other callers go about.
It is safe because it looks at the references first: an entry to which a caller refers is left alone
(`Sound.sweep_table`).  A caller that comes afterwards finds no entry and gets a new mutex, and by
then no one is left who could hold the old one.  This is what the reference count of the program is
for, and `tracked` is its meaning.
-/

namespace ServiceOperator

/-- Every caller refers to a single mutex, and every mutex has a single owner. -/
structure Exclusive (calls : List LockCall) : Prop where
  callers : (calls.map LockCall.caller).Nodup
  owners : ∀ c ∈ calls, ∀ d ∈ calls, c.stage.isOwner = true → d.stage.isOwner = true →
    c.mutex = d.mutex → c = d

namespace KeyedLocks

/-- All callers of a key refer to the mutex in the table. -/
structure Sound (s : KeyedLocks) : Prop where
  exclusive : Exclusive s.calls
  tracked : ∀ c ∈ s.calls, s.table.lookup c.key = some c.mutex

variable {s : KeyedLocks} {calls : List LockCall} {c d : LockCall} {caller mutex : Nat}

/-! ## What the operations do to a list of callers -/

theorem mem_without : c ∈ without caller calls ↔ c ∈ calls ∧ c.caller ≠ caller := by
  simp [without]

/-- At another stage a caller keeps its key and its mutex, and the others keep theirs as well as
their stages. -/
theorem mem_withStage {stage : LockStage} (member : d ∈ withStage caller stage calls) :
    ∃ c ∈ calls, (c.caller = caller ∧ d = { c with stage := stage }) ∨
      (c.caller ≠ caller ∧ d = c) := by
  obtain ⟨c, member, same⟩ := List.mem_map.mp member
  refine ⟨c, member, ?_⟩
  split at same
  case isTrue own => exact .inl ⟨own, same.symm⟩
  case isFalse other => exact .inr ⟨other, same.symm⟩

theorem mem_withStage_of_ne {stage : LockStage} (member : c ∈ calls) (other : c.caller ≠ caller) :
    c ∈ withStage caller stage calls :=
  List.mem_map.mpr ⟨c, member, if_neg other⟩

@[simp] theorem map_caller_withStage {stage : LockStage} :
    (withStage caller stage calls).map LockCall.caller = calls.map LockCall.caller := by
  rw [withStage, List.map_map]
  congr 1
  funext c
  simp only [Function.comp_apply]
  split <;> rfl

/-- A mutex is handed to one caller that waits for it, if there is one. -/
theorem handOver_cases (mutex : Nat) (calls : List LockCall) :
    handOver mutex calls = calls ∨
      ∃ before c after, calls = before ++ c :: after ∧ c.mutex = mutex ∧ c.stage = .queued ∧
        handOver mutex calls = before ++ { c with stage := .granted } :: after := by
  induction calls with
  | nil => exact .inl rfl
  | cons c rest ih =>
      by_cases waits : c.mutex = mutex ∧ c.stage = .queued
      · exact .inr ⟨[], c, rest, rfl, waits.1, waits.2, by simp [handOver, waits]⟩
      · have behind : handOver mutex (c :: rest) = c :: handOver mutex rest := by
          rw [handOver, if_neg waits]
        rcases ih with same | ⟨before, d, after, rfl, isMutex, queued, handed⟩
        · exact .inl (by rw [behind, same])
        · exact .inr ⟨c :: before, d, after, rfl, isMutex, queued, by rw [behind, handed]; rfl⟩

/-- Handing a mutex over changes no references. -/
theorem mem_handOver (member : d ∈ handOver mutex calls) :
    d ∈ calls ∨ ∃ c ∈ calls, c.mutex = mutex ∧ d = { c with stage := .granted } := by
  rcases handOver_cases mutex calls with same | ⟨before, c, after, rfl, isMutex, -, handed⟩
  · exact .inl (same ▸ member)
  · rw [handed, List.mem_append, List.mem_cons] at member
    rcases member with member | rfl | member
    · exact .inl (by simp [member])
    · exact .inr ⟨c, by simp, isMutex, rfl⟩
    · exact .inl (by simp [member])

/-- A caller that does not wait is passed over. -/
theorem mem_handOver_of_ne (member : c ∈ calls) (other : c.stage ≠ .queued) :
    c ∈ handOver mutex calls := by
  rcases handOver_cases mutex calls with same | ⟨before, d, after, rfl, -, queued, handed⟩
  · rwa [same]
  · rw [handed, List.mem_append, List.mem_cons]
    rcases List.mem_append.mp member with member | member
    · exact .inl member
    · rcases List.mem_cons.mp member with rfl | member
      · exact absurd queued other
      · exact .inr (.inr member)

@[simp] theorem map_caller_handOver :
    (handOver mutex calls).map LockCall.caller = calls.map LockCall.caller := by
  rcases handOver_cases mutex calls with same | ⟨before, c, after, rfl, -, -, handed⟩
  · rw [same]
  · simp [handed]

end KeyedLocks

/-! ## What keeps the owners apart -/

namespace Exclusive

open KeyedLocks

variable {calls : List LockCall} {c d : LockCall} {caller mutex : Nat}

/-- A caller has one reference. -/
theorem eq_of_caller (h : Exclusive calls) (hc : c ∈ calls) (hd : d ∈ calls)
    (same : c.caller = d.caller) : c = d :=
  List.inj_on_of_nodup_map h.callers hc hd same

theorem without (h : Exclusive calls) : Exclusive (without caller calls) where
  callers := h.callers.sublist (List.filter_sublist.map _)
  owners c hc d hd := h.owners c (mem_without.mp hc).1 d (mem_without.mp hd).1

/-- A further caller that owns nothing. -/
theorem append (h : Exclusive calls) (new : ∀ d ∈ calls, d.caller ≠ c.caller)
    (waits : c.stage.isOwner = false) : Exclusive (calls ++ [c]) where
  callers := by
    rw [List.map_append, List.nodup_append]
    refine ⟨h.callers, List.nodup_singleton _, ?_⟩
    intro caller earlier other last
    obtain ⟨d, member, rfl⟩ := List.mem_map.mp earlier
    obtain rfl : other = c.caller := List.mem_singleton.mp last
    exact new d member
  owners d hd e he ownsD ownsE := by
    have old {f : LockCall} (member : f ∈ calls ++ [c]) (owns : f.stage.isOwner = true) :
        f ∈ calls := by
      rcases List.mem_append.mp member with member | last
      · exact member
      · obtain rfl := List.mem_singleton.mp last
        simp [waits] at owns
    exact h.owners d (old hd ownsD) e (old he ownsE) ownsD ownsE

/-- A caller that becomes the owner of a mutex that no one else owns. -/
theorem withStage {stage : LockStage} (h : Exclusive calls) (hc : c ∈ calls)
    (free : ∀ d ∈ calls, d.stage.isOwner = true → d.mutex = c.mutex → d = c) :
    Exclusive (withStage c.caller stage calls) where
  callers := by
    rw [map_caller_withStage]
    exact h.callers
  owners := by
    intro d hd e he ownsD ownsE same
    obtain ⟨d₀, memberD, ⟨callerD, rfl⟩ | ⟨otherD, rfl⟩⟩ := mem_withStage hd
    · obtain rfl := h.eq_of_caller memberD hc callerD
      obtain ⟨e₀, memberE, ⟨callerE, rfl⟩ | ⟨otherE, rfl⟩⟩ := mem_withStage he
      · rw [h.eq_of_caller memberE hc callerE]
      · exact absurd (congrArg LockCall.caller (free e memberE ownsE same.symm)) otherE
    · obtain ⟨e₀, memberE, ⟨callerE, rfl⟩ | ⟨otherE, rfl⟩⟩ := mem_withStage he
      · obtain rfl := h.eq_of_caller memberE hc callerE
        exact absurd (congrArg LockCall.caller (free d memberD ownsD same)) otherD
      · exact h.owners d memberD e memberE ownsD ownsE same

/-- A mutex that no one owns is handed to one caller. -/
theorem handOver (h : Exclusive calls)
    (free : ∀ d ∈ calls, d.mutex = mutex → d.stage.isOwner = false) :
    Exclusive (handOver mutex calls) where
  callers := by
    rw [map_caller_handOver]
    exact h.callers
  owners := by
    rcases handOver_cases mutex calls with same | ⟨before, c, after, split, rfl, -, handed⟩
    · rw [same]
      exact h.owners
    · have old {d : LockCall} (member : d ∈ before ++ { c with stage := .granted } :: after) :
          d = { c with stage := .granted } ∨ d ∈ calls := by
        rw [List.mem_append, List.mem_cons] at member
        rw [split, List.mem_append, List.mem_cons]
        tauto
      rw [handed]
      intro d hd e he ownsD ownsE same
      rcases old hd with rfl | memberD
      · rcases old he with rfl | memberE
        · rfl
        · simp [free e memberE same.symm] at ownsE
      · rcases old he with rfl | memberE
        · simp [free d memberD same] at ownsD
        · exact h.owners d memberD e memberE ownsD ownsE same

/-- Without the owner of a mutex no one owns it. -/
theorem free_without (h : Exclusive calls) (hc : c ∈ calls) (owns : c.stage.isOwner = true) :
    ∀ d ∈ KeyedLocks.without c.caller calls, d.mutex = c.mutex → d.stage.isOwner = false := by
  intro d member same
  obtain ⟨member, other⟩ := mem_without.mp member
  by_contra ownsToo
  have ownsToo : d.stage.isOwner = true := by simpa using ownsToo
  exact other (congrArg LockCall.caller (h.owners d member c hc ownsToo owns same))

end Exclusive

/-! ## What each step keeps -/

namespace KeyedLocks

variable {s : KeyedLocks} {c d : LockCall} {caller : Nat} {key : String}

theorem mem_of_find? (found : s.find? caller = some c) : c ∈ s.calls ∧ c.caller = caller :=
  ⟨List.mem_of_find?_eq_some found, by simpa using List.find?_some found⟩

theorem caller_ne_of_isNew (new : s.isNew caller = true) : ∀ d ∈ s.calls, d.caller ≠ caller := by
  rw [isNew, Bool.and_eq_true] at new
  simpa [find?] using new.1

/-- The table without a key still holds the others. -/
theorem lookup_filter_ne {table : List (String × Nat)} {other : String} (different : other ≠ key) :
    (table.filter fun e => e.1 ≠ key).lookup other = table.lookup other := by
  induction table with
  | nil => rfl
  | cons e table ih =>
      by_cases same : e.1 = key
      · have unlike : (other == e.1) = false := by simpa [same] using different
        rw [List.filter_cons_of_neg (by simpa using same), List.lookup_cons, unlike, ih]
      · rw [List.filter_cons_of_pos (by simpa using same), List.lookup_cons, List.lookup_cons, ih]

/-- Looking after the table concerns no caller that refers to a mutex. -/
theorem sweep_calls : (s.sweep caller key).calls = s.calls := by
  unfold sweep
  dsimp only
  split
  · split <;> rfl
  · rfl

/-- What a step does: what its caller does at its stage, or nothing. -/
inductive Moves (s : KeyedLocks) : LockStep → KeyedLocks → Prop
  | still {a : LockStep} : Moves s a s
  | lookUp {caller : Nat} {key : String} (new : s.isNew caller = true) :
      Moves s (.lookUp caller key) (s.lookUp caller key)
  | acquire {c : LockCall} (member : c ∈ s.calls) (referring : c.stage = .referring) :
      Moves s (.acquire c.caller) (s.acquire c)
  | notice {c : LockCall} (member : c ∈ s.calls) (granted : c.stage = .granted) :
      Moves s (.notice c.caller) { s with calls := withStage c.caller .holding s.calls }
  | cancel {c : LockCall} (member : c ∈ s.calls) (early : c.stage ≠ .holding) :
      Moves s (.cancel c.caller) (s.cancel c)
  | release {c : LockCall} (member : c ∈ s.calls) (holding : c.stage = .holding) :
      Moves s (.release c.caller) (s.release c)
  | sweep {caller : Nat} {key : String} : Moves s (.sweep caller) (s.sweep caller key)

/-- A step does what its caller is at the stage to do, or nothing. -/
theorem step_moves (s : KeyedLocks) (a : LockStep) : s.Moves a (s.step a) := by
  -- A caller that is not at the stage for its step leaves everything as it is.
  cases a with
  | lookUp caller key =>
      rw [step]
      split
      case isTrue new => exact .lookUp new
      case isFalse => exact .still
  | acquire caller =>
      rw [step]
      split
      case h_1 c found =>
        obtain ⟨member, rfl⟩ := mem_of_find? found
        split
        case isTrue referring => exact .acquire member referring
        case isFalse => exact .still
      case h_2 => exact .still
  | notice caller =>
      rw [step]
      split
      case h_1 c found =>
        obtain ⟨member, rfl⟩ := mem_of_find? found
        split
        case isTrue granted => exact .notice member granted
        case isFalse => exact .still
      case h_2 => exact .still
  | cancel caller =>
      rw [step]
      split
      case h_1 c found =>
        obtain ⟨member, rfl⟩ := mem_of_find? found
        split
        case isTrue => exact .still
        case isFalse early => exact .cancel member early
      case h_2 => exact .still
  | release caller =>
      rw [step]
      split
      case h_1 c found =>
        obtain ⟨member, rfl⟩ := mem_of_find? found
        split
        case isTrue holding => exact .release member holding
        case isFalse => exact .still
      case h_2 => exact .still
  | sweep caller =>
      rw [step]
      split
      · exact .sweep
      · exact .still

namespace Sound

theorem empty : KeyedLocks.empty.Sound where
  exclusive := ⟨List.nodup_nil, by simp [KeyedLocks.empty]⟩
  tracked := by simp [KeyedLocks.empty]

/-- A look-up adds a caller that refers to the mutex in the table, which it puts there if there
is none. -/
theorem lookUp (sound : s.Sound) (new : s.isNew caller = true) : (s.lookUp caller key).Sound := by
  have apart := caller_ne_of_isNew new
  unfold KeyedLocks.lookUp
  cases found : s.table.lookup key with
  | some mutex =>
      refine ⟨sound.exclusive.append apart rfl, fun d member => ?_⟩
      rcases List.mem_append.mp member with member | last
      · exact sound.tracked d member
      · obtain rfl := List.mem_singleton.mp last
        exact found
  | none =>
      refine ⟨sound.exclusive.append apart rfl, fun d member => ?_⟩
      rw [List.lookup_append]
      rcases List.mem_append.mp member with member | last
      · rw [sound.tracked d member, Option.some_or]
      · obtain rfl := List.mem_singleton.mp last
        simp [found]

theorem tracked_withStage {stage : LockStage} (sound : s.Sound)
    (member : d ∈ withStage caller stage s.calls) : s.table.lookup d.key = some d.mutex := by
  obtain ⟨e, inCalls, ⟨-, rfl⟩ | ⟨-, rfl⟩⟩ := mem_withStage member
  · exact sound.tracked e inCalls
  · exact sound.tracked d inCalls

/-- A caller that asks for its mutex becomes its owner if no one is, or waits behind the others. -/
theorem acquire (sound : s.Sound) (member : c ∈ s.calls) : (s.acquire c).Sound := by
  unfold KeyedLocks.acquire
  split
  case isTrue owned =>
    refine ⟨sound.exclusive.without.append (fun d inRest => (mem_without.mp inRest).2) rfl,
      fun d inCalls => ?_⟩
    rcases List.mem_append.mp inCalls with inRest | last
    · exact sound.tracked d (mem_without.mp inRest).1
    · obtain rfl := List.mem_singleton.mp last
      exact sound.tracked c member
  case isFalse free =>
    refine ⟨sound.exclusive.withStage member ?_, fun d inCalls => sound.tracked_withStage inCalls⟩
    intro d inCalls owns same
    have owned : s.isOwned c.mutex = true :=
      List.any_eq_true.mpr ⟨d, inCalls, by simp [same, owns]⟩
    exact absurd owned free

/-- A caller that notices that it owns its mutex was its owner before. -/
theorem notice (sound : s.Sound) (member : c ∈ s.calls) (granted : c.stage = .granted) :
    { s with calls := withStage c.caller .holding s.calls }.Sound where
  exclusive := sound.exclusive.withStage member fun d inCalls owns same =>
    sound.exclusive.owners d inCalls c member owns (by rw [granted]; rfl) same
  tracked _ inCalls := sound.tracked_withStage inCalls

/-- An owner goes, and its mutex is handed over. -/
theorem handOver (sound : s.Sound) (member : c ∈ s.calls) (owns : c.stage.isOwner = true) :
    { s with calls := KeyedLocks.handOver c.mutex (without c.caller s.calls) }.Sound where
  exclusive := sound.exclusive.without.handOver (sound.exclusive.free_without member owns)
  tracked d inCalls := by
    rcases mem_handOver inCalls with inRest | ⟨e, inRest, -, rfl⟩
    · exact sound.tracked d (mem_without.mp inRest).1
    · exact sound.tracked e (mem_without.mp inRest).1

/-- A caller that stops gives up its reference, and its mutex if it was to have it next. -/
theorem cancel (sound : s.Sound) (member : c ∈ s.calls) : (s.cancel c).Sound := by
  unfold KeyedLocks.cancel
  split
  case isTrue granted => exact sound.handOver member (by rw [granted]; rfl)
  case isFalse =>
    exact ⟨sound.exclusive.without, fun d inRest => sound.tracked d (mem_without.mp inRest).1⟩

theorem release (sound : s.Sound) (member : c ∈ s.calls) (holds : c.stage = .holding) :
    (s.release c).Sound := by
  have handed := sound.handOver member (by rw [holds]; rfl)
  exact ⟨handed.exclusive, handed.tracked⟩

/-- An entry is taken out of the table only if no one refers to its mutex. -/
theorem sweep_table (sound : s.Sound) (member : c ∈ s.calls) :
    (s.sweep caller key).table.lookup c.key = some c.mutex := by
  have tracked := sound.tracked c member
  unfold KeyedLocks.sweep
  dsimp only
  split
  case h_1 mutex found =>
    split
    case isTrue => exact tracked
    case isFalse unreferred =>
      have other : c.key ≠ key := by
        rintro rfl
        have same : c.mutex = mutex := Option.some.inj (tracked.symm.trans found)
        exact unreferred (List.any_eq_true.mpr ⟨c, member, by simp [same]⟩)
      exact (lookup_filter_ne other).trans tracked
  case h_2 => exact tracked

/-- To look after an entry concerns the table only, and no entry that anyone refers to. -/
theorem sweep (sound : s.Sound) : (s.sweep caller key).Sound := by
  constructor
  · rw [sweep_calls]
    exact sound.exclusive
  · intro d member
    rw [sweep_calls] at member
    exact sound.sweep_table member

/-- **The step law of the locks.** -/
theorem step (sound : s.Sound) (a : LockStep) : (s.step a).Sound := by
  have moves := s.step_moves a
  generalize s.step a = s' at moves ⊢
  cases moves with
  | still => exact sound
  | lookUp new => exact sound.lookUp new
  | acquire member referring => exact sound.acquire member
  | notice member granted => exact sound.notice member granted
  | cancel member early => exact sound.cancel member
  | release member holding => exact sound.release member holding
  | sweep => exact sound.sweep

theorem steps (sound : s.Sound) (l : List LockStep) : (s.steps l).Sound := by
  induction l generalizing s with
  | nil => exact sound
  | cons a l ih => exact ih (sound.step a)

/-! ## What follows -/

/-- A key has one owner. -/
theorem owner_unique (sound : s.Sound) (hc : c ∈ s.calls) (hd : d ∈ s.calls)
    (ownsC : c.stage.isOwner = true) (ownsD : d.stage.isOwner = true) (same : c.key = d.key) :
    c = d := by
  -- Both refer to the mutex in the table.
  have sameMutex : some c.mutex = some d.mutex := by
    rw [← sound.tracked c hc, ← sound.tracked d hd, same]
  exact sound.exclusive.owners c hc d hd ownsC ownsD (Option.some.inj sameMutex)

/-- The entry of a key stays, with its mutex, in each step before which a caller refers to it. -/
theorem table_step (sound : s.Sound) (member : c ∈ s.calls) (a : LockStep) :
    (s.step a).table.lookup c.key = some c.mutex := by
  have tracked := sound.tracked c member
  have moves := s.step_moves a
  generalize s.step a = s' at moves ⊢
  cases moves with
  | still => exact tracked
  | lookUp new =>
      unfold KeyedLocks.lookUp
      split
      · exact tracked
      · rw [List.lookup_append, tracked, Option.some_or]
  | acquire =>
      unfold KeyedLocks.acquire
      split <;> exact tracked
  | notice => exact tracked
  | cancel => exact tracked
  | release => exact tracked
  | sweep => exact sound.sweep_table member

/-- A caller holds its mutex until it gives it up itself. -/
theorem holding_step (sound : s.Sound) (member : c ∈ s.calls) (holds : c.stage = .holding)
    {a : LockStep} (other : a ≠ .release c.caller) : c ∈ (s.step a).calls := by
  -- Callers at another stage are other callers.
  have differs {d : LockCall} (inCalls : d ∈ s.calls) (early : d.stage ≠ .holding) :
      c.caller ≠ d.caller := by
    intro same
    obtain rfl := sound.exclusive.eq_of_caller member inCalls same
    exact early holds
  have waitsNot : c.stage ≠ .queued := by simp [holds]
  have moves := s.step_moves a
  generalize s.step a = s' at moves ⊢
  cases moves with
  | still => exact member
  | lookUp new =>
      unfold KeyedLocks.lookUp
      split <;> exact List.mem_append_left _ member
  | acquire inCalls referring =>
      have different := differs inCalls (by simp [referring])
      unfold KeyedLocks.acquire
      split
      · exact List.mem_append_left _ (mem_without.mpr ⟨member, different⟩)
      · exact mem_withStage_of_ne member different
  | notice inCalls granted =>
      exact mem_withStage_of_ne member (differs inCalls (by simp [granted]))
  | cancel inCalls early =>
      have inRest := mem_without.mpr ⟨member, differs inCalls early⟩
      unfold KeyedLocks.cancel
      dsimp only
      split
      · exact mem_handOver_of_ne inRest waitsNot
      · exact inRest
  | @release d inCalls holding =>
      have different : c.caller ≠ d.caller := fun same => other (by rw [same])
      exact mem_handOver_of_ne (mem_without.mpr ⟨member, different⟩) waitsNot
  | sweep =>
      rw [sweep_calls]
      exact member

end Sound

end KeyedLocks

end ServiceOperator
