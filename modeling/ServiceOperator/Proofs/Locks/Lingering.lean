import Mathlib.Data.List.Induction
import ServiceOperator.Proofs.Locks.Exclusion

/-!
# Entries that linger

A caller that held its mutex looks after the table when it goes, so the entry of a key goes together
with the last caller that uses the key.  A caller that stops before it holds its mutex does not look
after the table.  If it is the last one to use the key, the entry stays until the key is used again.

The users of a key are the callers that refer to its mutex and those that have still to look after
its entry.  Only a look-up brings a user, and only a caller that stops or looks after the table is
gone (`mem_users_of_step`, `mem_users_step`).  As each entry has a mutex of its own (`Tidy`), the
last user of a key leaves the table in one of two ways (`Tidy.last_user`), and the entry of a key
without users stays as it is (`idle_step`).

### Two ways to stop using a key

A holder releases its mutex and then sweeps the table, in two steps, and stays a user between the
two.  A caller that is cancelled never looks after the table.  The difference shows only when such a
caller is the last one: `Tidy.last_user` says that a step which leaves a key without users is either
a sweep, which takes the entry out, or a cancel, which leaves it.  `Abandoned` records the second
case and lasts as long as the key is not used again, so `lingers_iff_abandoned` needs no condition
on the steps.
-/

namespace ServiceOperator

/-- The caller and the key that it uses. -/
def LockCall.use (c : LockCall) : Nat × String := (c.caller, c.key)

namespace KeyedLocks

/-- The callers that refer to a mutex or have still to look after the table, with their keys. -/
def users (s : KeyedLocks) : List (Nat × String) :=
  s.calls.map LockCall.use ++ s.leaving

/-- No one uses a key. -/
def Idle (s : KeyedLocks) (key : String) : Prop := ∀ u ∈ s.users, u.2 ≠ key

instance (s : KeyedLocks) (key : String) : Decidable (s.Idle key) :=
  inferInstanceAs (Decidable (∀ u ∈ s.users, u.2 ≠ key))

/-- A key that no one uses has an entry. -/
def Lingers (s : KeyedLocks) (key : String) : Prop :=
  s.Idle key ∧ (s.table.lookup key).isSome = true

/-- The last caller that used a key stopped before it held the mutex, and no one has used the key
since then. -/
inductive Abandoned (key : String) : List LockStep → Prop
  | cancel {l : List LockStep} {c : LockCall} (member : c ∈ (empty.steps l).calls)
      (used : c.key = key) (early : c.stage ≠ .holding)
      (idle : (empty.steps (l ++ [.cancel c.caller])).Idle key) :
      Abandoned key (l ++ [.cancel c.caller])
  | later {l : List LockStep} {a : LockStep} (abandoned : Abandoned key l)
      (idle : (empty.steps (l ++ [a])).Idle key) : Abandoned key (l ++ [a])

variable {s : KeyedLocks} {a : LockStep} {calls : List LockCall} {c : LockCall} {u : Nat × String}
  {caller mutex : Nat} {key : String}

theorem steps_concat (s : KeyedLocks) (l : List LockStep) (a : LockStep) :
    s.steps (l ++ [a]) = (s.steps l).step a := by
  simp [steps]

/-! ## Who comes and who goes -/

theorem mem_users : u ∈ s.users ↔ (∃ c ∈ s.calls, c.use = u) ∨ u ∈ s.leaving := by
  simp [users]

theorem use_mem_users (member : c ∈ s.calls) : c.use ∈ s.users :=
  mem_users.mpr (.inl ⟨c, member, rfl⟩)

@[simp] theorem map_use_withStage {stage : LockStage} :
    (withStage caller stage calls).map LockCall.use = calls.map LockCall.use := by
  rw [withStage, List.map_map]
  congr 1
  funext c
  simp only [Function.comp_apply]
  split <;> rfl

@[simp] theorem map_use_handOver :
    (handOver mutex calls).map LockCall.use = calls.map LockCall.use := by
  rcases handOver_cases mutex calls with same | ⟨before, c, after, rfl, -, -, handed⟩
  · rw [same]
  · rw [handed]
    simp [LockCall.use]

/-- Without a caller the uses of the others remain. -/
theorem mem_map_use_without :
    u ∈ (without caller calls).map LockCall.use ↔ u ∈ calls.map LockCall.use ∧ u.1 ≠ caller := by
  constructor
  · intro member
    obtain ⟨c, inRest, rfl⟩ := List.mem_map.mp member
    obtain ⟨inCalls, other⟩ := mem_without.mp inRest
    exact ⟨List.mem_map_of_mem inCalls, other⟩
  · rintro ⟨member, other⟩
    obtain ⟨c, inCalls, rfl⟩ := List.mem_map.mp member
    exact List.mem_map_of_mem (mem_without.mpr ⟨inCalls, other⟩)

/-- One caller and the others. -/
theorem mem_map_use_iff (exclusive : Exclusive calls) (member : c ∈ calls) :
    u ∈ calls.map LockCall.use ↔ u ∈ (without c.caller calls).map LockCall.use ∨ u = c.use := by
  constructor
  · intro used
    by_cases own : u.1 = c.caller
    · obtain ⟨d, inCalls, rfl⟩ := List.mem_map.mp used
      exact .inr (congrArg LockCall.use (exclusive.eq_of_caller inCalls member own))
    · exact .inl (mem_map_use_without.mpr ⟨used, own⟩)
  · rintro (inRest | rfl)
    · exact (mem_map_use_without.mp inRest).1
    · exact List.mem_map_of_mem member

theorem mem_users_lookUp : u ∈ (s.lookUp caller key).users ↔ u ∈ s.users ∨ u = (caller, key) := by
  unfold lookUp
  split <;> simp only [users, List.map_append, List.mem_append, List.map_cons, List.map_nil,
    List.mem_singleton, LockCall.use] <;> tauto

/-- To ask for a mutex brings no user and takes none away. -/
theorem mem_users_acquire (exclusive : Exclusive s.calls) (member : c ∈ s.calls) :
    u ∈ (s.acquire c).users ↔ u ∈ s.users := by
  unfold acquire
  split
  · rw [users, users, List.map_append, List.mem_append, List.mem_append, List.mem_append,
      mem_map_use_iff exclusive member]
    simp [LockCall.use]
  · simp [users]

/-- A holder that goes is a user until it has looked after the table. -/
theorem mem_users_release (exclusive : Exclusive s.calls) (member : c ∈ s.calls) :
    u ∈ (s.release c).users ↔ u ∈ s.users := by
  rw [release, users, users, map_use_handOver, List.mem_append, List.mem_append, List.mem_append,
    mem_map_use_iff exclusive member, List.mem_singleton]
  change _ ∨ _ ∨ u = c.use ↔ _
  tauto

/-- A caller that stops is a user no longer, whatever it has left. -/
theorem users_cancel :
    (s.cancel c).users = (without c.caller s.calls).map LockCall.use ++ s.leaving := by
  unfold cancel users
  dsimp only
  split
  · rw [map_use_handOver]
  · rfl

/-- A caller that has looked after the table is a user no longer. -/
theorem users_sweep :
    (s.sweep caller key).users =
      s.calls.map LockCall.use ++ s.leaving.filter fun l => l.1 ≠ caller := by
  unfold sweep users
  dsimp only
  split
  · split <;> rfl
  · rfl

/-- Only a caller that stops, or looks after the table, is gone. -/
theorem mem_users_step (exclusive : Exclusive s.calls) (member : u ∈ s.users) :
    u ∈ (s.step a).users ∨ a = .cancel u.1 ∨ a = .sweep u.1 := by
  have moves := s.step_moves a
  generalize s.step a = s' at moves ⊢
  cases moves with
  | still => exact .inl member
  | lookUp => exact .inl (mem_users_lookUp.mpr (.inl member))
  | acquire inCalls => exact .inl ((mem_users_acquire exclusive inCalls).mpr member)
  | notice => exact .inl (by simpa [users] using member)
  | @cancel c inCalls =>
      by_cases own : u.1 = c.caller
      · exact .inr (.inl (by rw [own]))
      · rw [users_cancel, List.mem_append, mem_map_use_without]
        rcases List.mem_append.mp member with refers | leaves
        · exact .inl (.inl ⟨refers, own⟩)
        · exact .inl (.inr leaves)
  | release inCalls => exact .inl ((mem_users_release exclusive inCalls).mpr member)
  | @sweep caller key =>
      by_cases own : u.1 = caller
      · exact .inr (.inr (by rw [own]))
      · rw [users_sweep, List.mem_append, List.mem_filter]
        rcases List.mem_append.mp member with refers | leaves
        · exact .inl (.inl refers)
        · exact .inl (.inr ⟨leaves, by simpa using own⟩)

/-- Only a look-up brings a user. -/
theorem mem_users_of_step (exclusive : Exclusive s.calls) (member : u ∈ (s.step a).users) :
    u ∈ s.users ∨ a = .lookUp u.1 u.2 ∧ s.isNew u.1 = true := by
  have moves := s.step_moves a
  generalize s.step a = s' at moves member
  cases moves with
  | still => exact .inl member
  | lookUp new =>
      rcases mem_users_lookUp.mp member with old | rfl
      · exact .inl old
      · exact .inr ⟨rfl, new⟩
  | acquire inCalls => exact .inl ((mem_users_acquire exclusive inCalls).mp member)
  | notice => exact .inl (by simpa [users] using member)
  | cancel =>
      rw [users_cancel, List.mem_append, mem_map_use_without] at member
      exact .inl (List.mem_append.mpr (member.imp_left And.left))
  | release inCalls => exact .inl ((mem_users_release exclusive inCalls).mp member)
  | sweep =>
      rw [users_sweep, List.mem_append, List.mem_filter] at member
      exact .inl (List.mem_append.mpr (member.imp_right And.left))

/-- A new caller uses no key. -/
theorem caller_ne_of_isNew_of_mem (new : s.isNew caller = true) (member : u ∈ s.users) :
    u.1 ≠ caller := by
  rcases mem_users.mp member with ⟨c, inCalls, rfl⟩ | leaves
  · exact caller_ne_of_isNew new c inCalls
  · rintro rfl
    rw [isNew, Bool.and_eq_true, Bool.not_eq_true', List.any_eq_false] at new
    exact new.2 u leaves (by simp)

/-! ## A mutex for each entry -/

/-- Each caller uses one key, and each entry has a mutex of its own. -/
structure Tidy (s : KeyedLocks) : Prop where
  sound : s.Sound
  below : ∀ e ∈ s.table, e.2 < s.fresh
  apart : ∀ e ∈ s.table, ∀ f ∈ s.table, e.2 = f.2 → e = f
  single : ∀ u ∈ s.users, ∀ v ∈ s.users, u.1 = v.1 → u = v

theorem mem_of_lookup {table : List (String × Nat)} (entry : table.lookup key = some mutex) :
    (key, mutex) ∈ table := by
  obtain ⟨before, after, rfl, -⟩ := List.lookup_eq_some_iff.mp entry
  simp

theorem lookup_filter_self {table : List (String × Nat)} :
    (table.filter fun e => e.1 ≠ key).lookup key = none := by
  rw [List.lookup_eq_none_iff]
  intro e member
  simpa using Ne.symm (of_decide_eq_true (List.mem_filter.mp member).2)

/-- A caller that stops goes from its own mutex. -/
theorem step_cancel (s : KeyedLocks) (caller : Nat) :
    s.step (.cancel caller) = s ∨
      ∃ c ∈ s.calls, c.caller = caller ∧ c.stage ≠ .holding ∧
        s.step (.cancel caller) = s.cancel c := by
  rw [step]
  split
  case h_1 c found =>
    obtain ⟨member, own⟩ := mem_of_find? found
    split
    case isTrue => exact .inl rfl
    case isFalse early => exact .inr ⟨c, member, own, early, rfl⟩
  case h_2 => exact .inl rfl

/-- A caller looks after the entry of the key that it left. -/
theorem step_sweep (s : KeyedLocks) (caller : Nat) :
    s.step (.sweep caller) = s ∨
      ∃ key, (caller, key) ∈ s.leaving ∧ s.step (.sweep caller) = s.sweep caller key := by
  rw [step]
  split
  case h_1 leaver key found =>
    have own : leaver = caller := by simpa using List.find?_some found
    exact .inr ⟨key, own ▸ List.mem_of_find?_eq_some found, rfl⟩
  case h_2 => exact .inl rfl

/-- What a step does to the table: nothing, or a further entry with a new mutex for a caller that
comes, or an entry taken out by a caller that goes. -/
theorem table_step_cases (s : KeyedLocks) (a : LockStep) :
    ((s.step a).table = s.table ∧ (s.step a).fresh = s.fresh) ∨
    (∃ u ∈ (s.step a).users,
      (s.step a).table = s.table ++ [(u.2, s.fresh)] ∧ (s.step a).fresh = s.fresh + 1) ∨
    (∃ u ∈ s.leaving,
      (s.step a).table = s.table.filter (fun e => e.1 ≠ u.2) ∧ (s.step a).fresh = s.fresh) := by
  -- Only who looks a key up puts an entry in, and only who looks after the table takes one out.
  by_cases looksAfter : ∃ caller, a = .sweep caller
  · obtain ⟨caller, rfl⟩ := looksAfter
    rcases s.step_sweep caller with still | ⟨key, leaves, sweeps⟩
    · rw [still]
      exact .inl ⟨rfl, rfl⟩
    · rw [sweeps, sweep]
      dsimp only
      split
      · split
        · exact .inl ⟨rfl, rfl⟩
        · exact .inr (.inr ⟨(caller, key), leaves, rfl, rfl⟩)
      · exact .inl ⟨rfl, rfl⟩
  · have moves := s.step_moves a
    generalize s.step a = s' at moves ⊢
    cases moves with
    | still => exact .inl ⟨rfl, rfl⟩
    | @lookUp caller key =>
        have comes : (caller, key) ∈ (s.lookUp caller key).users := mem_users_lookUp.mpr (.inr rfl)
        unfold lookUp at comes ⊢
        split at comes
        · exact .inl ⟨rfl, rfl⟩
        · exact .inr (.inl ⟨(caller, key), comes, rfl, rfl⟩)
    | acquire =>
        unfold acquire
        split <;> exact .inl ⟨rfl, rfl⟩
    | notice => exact .inl ⟨rfl, rfl⟩
    | cancel => exact .inl ⟨rfl, rfl⟩
    | release => exact .inl ⟨rfl, rfl⟩
    | sweep => exact absurd ⟨_, rfl⟩ looksAfter

/-- No step changes the entry of a key that is not in use before it and after it. -/
theorem idle_step (before : s.Idle key) (after : (s.step a).Idle key) :
    (s.step a).table.lookup key = s.table.lookup key := by
  rcases s.table_step_cases a with ⟨same, -⟩ | ⟨u, comes, more, -⟩ | ⟨u, leaves, fewer, -⟩
  · rw [same]
  · have other : (key == u.2) = false := by simpa using (after u comes).symm
    rw [more, List.lookup_append, List.lookup_cons, other, List.lookup_nil, Option.or_none]
  · rw [fewer]
    exact lookup_filter_ne (before u (mem_users.mpr (.inr leaves))).symm

namespace Tidy

theorem empty : KeyedLocks.empty.Tidy := by
  refine ⟨.empty, ?_, ?_, ?_⟩ <;> simp [KeyedLocks.empty, users]

/-- Every step keeps each caller to one key and each entry to a mutex of its own. -/
theorem step (tidy : s.Tidy) (a : LockStep) : (s.step a).Tidy where
  sound := tidy.sound.step a
  below := by
    rcases s.table_step_cases a with ⟨same, fresh⟩ | ⟨u, -, more, fresh⟩ | ⟨u, -, fewer, fresh⟩
    · rw [same, fresh]
      exact tidy.below
    · rw [more, fresh]
      intro e member
      rcases List.mem_append.mp member with old | last
      · exact Nat.lt_succ_of_lt (tidy.below e old)
      · obtain rfl := List.mem_singleton.mp last
        exact Nat.lt_succ_self _
    · rw [fewer, fresh]
      exact fun e member => tidy.below e (List.mem_of_mem_filter member)
  apart := by
    rcases s.table_step_cases a with ⟨same, -⟩ | ⟨u, -, more, -⟩ | ⟨u, -, fewer, -⟩
    · rw [same]
      exact tidy.apart
    · rw [more]
      intro e he f hf same
      rcases List.mem_append.mp he with oldE | lastE <;>
        rcases List.mem_append.mp hf with oldF | lastF
      · exact tidy.apart e oldE f oldF same
      · obtain rfl := List.mem_singleton.mp lastF
        exact absurd same (Nat.ne_of_lt (tidy.below e oldE))
      · obtain rfl := List.mem_singleton.mp lastE
        exact absurd same.symm (Nat.ne_of_lt (tidy.below f oldF))
      · rw [List.mem_singleton.mp lastE, List.mem_singleton.mp lastF]
    · rw [fewer]
      exact fun e he f hf => tidy.apart e (List.mem_of_mem_filter he) f (List.mem_of_mem_filter hf)
  single := by
    intro u hu v hv same
    -- A caller that looks a key up uses none before, so it does not come to use two.
    have exclusive := tidy.sound.exclusive
    rcases mem_users_of_step exclusive hu with oldU | ⟨isLookUp, newU⟩ <;>
      rcases mem_users_of_step exclusive hv with oldV | ⟨isLookUp', newV⟩
    · exact tidy.single u oldU v oldV same
    · exact absurd same (caller_ne_of_isNew_of_mem newV oldU)
    · exact absurd same.symm (caller_ne_of_isNew_of_mem newU oldV)
    · obtain ⟨-, keys⟩ := LockStep.lookUp.inj (isLookUp.symm.trans isLookUp')
      exact Prod.ext same keys

theorem steps (l : List LockStep) : (KeyedLocks.empty.steps l).Tidy := by
  induction l using List.reverseRecOn with
  | nil => exact .empty
  | append_singleton l a ih =>
      rw [steps_concat]
      exact ih.step a

/-- Only callers of a key refer to the mutex of its entry. -/
theorem key_of_mutex (tidy : s.Tidy) (entry : s.table.lookup key = some mutex)
    (member : c ∈ s.calls) (refers : c.mutex = mutex) : c.key = key := by
  have own := mem_of_lookup (tidy.sound.tracked c member)
  have same := tidy.apart _ own _ (mem_of_lookup entry) refers
  exact congrArg Prod.fst same

/-! ## What becomes of an entry -/

/-- The entry of a key that no one refers to is taken out. -/
theorem lookup_sweep (tidy : s.Tidy) (unreferred : ∀ c ∈ s.calls, c.key ≠ key) :
    (s.sweep caller key).table.lookup key = none := by
  unfold KeyedLocks.sweep
  dsimp only
  split
  case h_1 mutex entry =>
    have free : ¬ s.isReferred mutex = true := by
      intro referred
      obtain ⟨c, member, refers⟩ := List.any_eq_true.mp referred
      exact unreferred c member (tidy.key_of_mutex entry member (by simpa using refers))
    rw [KeyedLocks.isReferred] at free
    rw [KeyedLocks.isReferred, if_neg free]
    exact lookup_filter_self
  case h_2 untracked => exact untracked

/-- The last user of a key stops, and its entry stays, or looks after the table, and its entry is
taken out. -/
theorem last_user (tidy : s.Tidy) (member : u ∈ s.users) (used : u.2 = key)
    (idle : (s.step a).Idle key) :
    (∃ c ∈ s.calls, c.key = key ∧ c.stage ≠ .holding ∧ a = .cancel c.caller ∧
      (s.step a).table.lookup key = some c.mutex) ∨
    (∃ caller, a = .sweep caller ∧ (s.step a).table.lookup key = none) := by
  have gone : u ∉ (s.step a).users := fun stays => idle u stays used
  -- A user goes by cancelling, which leaves the entry, or by looking after the table.
  rcases mem_users_step tidy.sound.exclusive member with stays | stops | looks
  · exact absurd stays gone
  · subst stops
    rcases s.step_cancel u.1 with still | ⟨c, inCalls, own, early, stops⟩
    · rw [still] at gone
      exact absurd member gone
    · have same : c.use = u := tidy.single _ (use_mem_users inCalls) u member own
      have key_eq : c.key = key := (congrArg Prod.snd same).trans used
      refine .inl ⟨c, inCalls, key_eq, early, by rw [own], ?_⟩
      rw [stops, ← key_eq]
      exact tidy.sound.tracked c inCalls
  · subst looks
    rcases s.step_sweep u.1 with still | ⟨other, leaves, sweeps⟩
    · rw [still] at gone
      exact absurd member gone
    · have same : (u.1, other) = u :=
        tidy.single _ (mem_users.mpr (.inr leaves)) u member rfl
      obtain rfl : other = key := (congrArg Prod.snd same).trans used
      refine .inr ⟨u.1, rfl, ?_⟩
      rw [sweeps] at idle ⊢
      refine tidy.lookup_sweep fun c inCalls => ?_
      have stays : c.use ∈ (s.sweep u.1 other).users := by
        rw [users_sweep]
        exact List.mem_append_left _ (List.mem_map_of_mem inCalls)
      exact idle _ stays

end Tidy

/-- A key that was abandoned has an entry that no one uses. -/
theorem Abandoned.lingers {l : List LockStep} (abandoned : Abandoned key l) :
    (empty.steps l).Lingers key := by
  induction abandoned with
  | @cancel l c member used _ idle =>
      refine ⟨idle, ?_⟩
      rw [steps_concat] at idle ⊢
      have tidy := Tidy.steps l
      rcases tidy.last_user (use_mem_users member) used idle with
        ⟨_, -, -, -, -, entry⟩ | ⟨caller, looksAfter, -⟩
      · rw [entry, Option.isSome_some]
      · cases looksAfter
  | @later l a _ idle ih =>
      refine ⟨idle, ?_⟩
      rw [steps_concat] at idle ⊢
      rw [idle_step ih.1 idle]
      exact ih.2

/-- An entry that no one uses was abandoned, by induction on the steps from the last one back. -/
theorem Lingers.abandoned {l : List LockStep} (lingers : (empty.steps l).Lingers key) :
    Abandoned key l := by
  induction l using List.reverseRecOn with
  | nil => exact absurd lingers.2 (by simp [empty])
  | append_singleton l a ih =>
      have after : ((empty.steps l).step a).Lingers key := steps_concat _ l a ▸ lingers
      by_cases before : (empty.steps l).Idle key
      · have entry := after.2
        rw [idle_step before after.1] at entry
        exact .later (ih ⟨before, entry⟩) lingers.1
      · obtain ⟨u, member, used⟩ : ∃ u ∈ (empty.steps l).users, u.2 = key := by
          simpa [Idle] using before
        rcases (Tidy.steps l).last_user member used after.1 with
          ⟨c, inCalls, key_eq, early, rfl, -⟩ | ⟨caller, -, untracked⟩
        · exact .cancel inCalls key_eq early lingers.1
        · exact absurd after.2 (by rw [untracked]; simp)

/-- **When the entry of a key is left behind.**  Whatever the steps of the callers are and in which
order they take them: no one uses a key that has an entry exactly if the last caller that used the
key stopped before it held the mutex.  An entry whose last user held the mutex is gone with it. -/
theorem lingers_iff_abandoned (l : List LockStep) (key : String) :
    (empty.steps l).Lingers key ↔ Abandoned key l :=
  ⟨Lingers.abandoned, Abandoned.lingers⟩

/-- A caller waits behind the holder of the mutex and stops when the holder has looked after the
table. -/
def lateStop : List LockStep :=
  [.lookUp 0 "k", .acquire 0, .lookUp 1 "k", .acquire 1, .release 0, .sweep 0, .cancel 1]

/-- An entry can be left behind: no one uses the key, and it is still in the table. -/
theorem not_untracked_of_idle :
    ¬ ∀ (l : List LockStep) (key : String), (empty.steps l).Idle key →
      (empty.steps l).table.lookup key = none := by
  intro clean
  have untracked := clean lateStop "k" (by decide +kernel)
  exact absurd untracked (by decide +kernel)

end KeyedLocks

end ServiceOperator
