import Mathlib.Logic.Function.Basic
import Mathlib.Logic.Relation
import ServiceOperator.Proofs.Controller.Frames
import ServiceOperator.Proofs.Locks.Exclusion

/-!
# One reconcile at a time

`Crowd` is any number of programs that run side by side, one for each caller, over one table of
locks.  A step of a crowd is a step of one caller: a step of the locks on the way to the mutex that
its program waits for, the next question of its program with whatever answer, or the end of a caller
that is dropped, at any point.  The log lists the questions that were asked, in order.

Reconciles of one key never interleave in the log.  A reconcile is in one of three phases, before,
inside and behind its lock (`Follows`), and speaks to its peers inside only.  `Orderly` relates the
phases of all callers to the locks and to the log: a caller that is inside holds the mutex of its
key, so that no other caller of the key is inside, and a caller behind which another one of its key
has asked something is inside no longer.

### How an interleaving is reasoned about

`Crowd.Step` has one constructor for each thing that a single caller may do next, and a crowd that
can come about is any number of such steps (`Crowd.Reachable`).  Nothing is said about fairness, and
a caller may be dropped at any point.  The whole argument is one step law, `Orderly.step`, that
gives for each constructor the new phases of the callers; `Orderly.reachable` is the induction over
the steps, and `single_flight` reads it off.

A dropped caller is the reason for keeping the phases apart from the programs: it has no program any
more, but what it did stays in the log, and so its phase still has to be known.
-/

namespace ServiceOperator

namespace Question

/-- A question about a lock. -/
def isLock : Question → Bool
  | .acquire _ => true
  | .release _ => true
  | _ => false

/-- A call of the API of a peer. -/
def isCall : Question → Bool
  | .http _ => true
  | .kube _ => true
  | _ => false

/-- A reconcile leaves all locks alone while it is under its own. -/
theorem permits_unlocked : PermitsWriting fun q => q.isLock = false where
  http _ := rfl
  read _ := rfl
  patience _ := rfl
  count _ := rfl
  write _ _ := rfl
  now := rfl

end Question

/-! ## Programs under a lock -/

/-- Where a program is with its lock. -/
inductive LockPhase where
  | before
  | inside
  | behind
  deriving DecidableEq, Repr

/-- A program that is in a phase goes through the phases that are left, and calls peers inside
only. -/
inductive Follows {α : Type} (key : String) : LockPhase → Work α → Prop
  | ask {phase : LockPhase} {q : Question} {next : q.Answer → Work α} (unlocked : q.isLock = false)
      (silent : q.isCall = true → phase = .inside)
      (rest : ∀ answer, Follows key phase (next answer)) :
      Follows key phase (.ask q next)
  | acquire {next : Unit → Work α} (rest : Follows key .inside (next ())) :
      Follows key .before (.ask (.acquire key) next)
  | release {next : Unit → Work α} (rest : Follows key .behind (next ())) :
      Follows key .inside (.ask (.release key) next)
  | done (a : α) : Follows key .behind (.done a)

/-- Inside a lock anything may be done that leaves the locks alone. -/
theorem Follows.bind {α β : Type} {key : String} {p : Work α} {f : α → Work β}
    (unlocked : Program.Asks (fun q => q.isLock = false) p)
    (rest : ∀ a, Follows key .inside (f a)) : Follows key .inside (p >>= f) := by
  induction unlocked with
  | done a => exact rest a
  | ask asked later ih => exact .ask asked (fun _ => rfl) ih

/-- A reconcile goes through the phases of its key: it takes the lock before it calls a peer, and
gives it back when it calls none any more. -/
theorem Record.controlCounted_follows (base : Url) (r : Record) (settings : Settings) :
    Follows r.key .before (r.controlCounted base settings) := by
  refine .ask rfl Bool.noConfusion fun start => ?_
  refine .acquire ?_
  change Follows r.key .inside (((r.reread base settings).result >>= fun result => do
    Work.release r.key
    return result) >>= _)
  rw [Program.bind_assoc]
  refine .bind Question.permits_unlocked.reread fun result => ?_
  refine .release (.ask rfl Bool.noConfusion fun finish => ?_)
  cases result with
  | ok action => exact .ask rfl Bool.noConfusion fun _ => .done _
  | error e => exact .ask rfl Bool.noConfusion fun _ => .ask rfl Bool.noConfusion fun _ => .done _

/-! ## Many programs side by side -/

/-- Callers with the rest of their programs, the locks that they share, and what they asked. -/
structure Crowd (α : Type) where
  locks : KeyedLocks
  /-- What is left of the program of a caller that has not been dropped. -/
  todo : Nat → Option (Work α)
  /-- The questions with their callers and answers, the last one at the end. -/
  log : List (Nat × Sigma Question.Answer)

namespace Crowd

variable {α : Type}

/-- All callers are about to begin, and there is no lock. -/
def start (work : Nat → Work α) : Crowd α := ⟨.empty, fun caller => some (work caller), []⟩

/-- A caller has the answer to a question and goes on. -/
def goOn (s : Crowd α) (caller : Nat) (rest : Work α) (entry : Sigma Question.Answer) :
    Crowd α where
  locks := s.locks
  todo := Function.update s.todo caller (some rest)
  log := s.log ++ [(caller, entry)]

/-- A step of one caller. -/
inductive Step (s : Crowd α) : Crowd α → Prop
  /-- On its way to a mutex a caller looks it up, asks for it or notices that it has it. -/
  | wait {caller : Nat} {key : String} {next : Unit → Work α} {a : LockStep}
      (awaits : s.todo caller = some (.ask (.acquire key) next))
      (way : a = .lookUp caller key ∨ a = .acquire caller ∨ a = .notice caller) :
      Step s { s with locks := s.locks.step a }
  /-- A caller that holds the mutex of the key goes on. -/
  | enter {caller mutex : Nat} {key : String} {next : Unit → Work α}
      (awaits : s.todo caller = some (.ask (.acquire key) next))
      (held : ⟨caller, key, mutex, .holding⟩ ∈ s.locks.calls) :
      Step s (s.goOn caller (next ()) ⟨.acquire key, ()⟩)
  | leave {caller : Nat} {key : String} {next : Unit → Work α}
      (gives : s.todo caller = some (.ask (.release key) next)) :
      Step s { s.goOn caller (next ()) ⟨.release key, ()⟩ with
        locks := s.locks.step (.release caller) }
  /-- A caller that gave its mutex up looks after the table. -/
  | sweep (caller : Nat) : Step s { s with locks := s.locks.step (.sweep caller) }
  | ask {caller : Nat} {q : Question} {next : q.Answer → Work α} (answer : q.Answer)
      (asks : s.todo caller = some (.ask q next)) (unlocked : q.isLock = false) :
      Step s (s.goOn caller (next answer) ⟨q, answer⟩)
  /-- A caller is dropped, wherever it is: it stops to wait for its mutex, or gives it up. -/
  | drop (caller : Nat) :
      Step s { s with
        locks := (s.locks.step (.cancel caller)).step (.release caller)
        todo := Function.update s.todo caller none }

/-- A crowd can come about, by any steps of its callers in any order. -/
def Reachable (work : Nat → Work α) (s : Crowd α) : Prop :=
  Relation.ReflTransGen Step (start work) s

end Crowd

/-! ## Callers that take turns -/

/-- A list stands in a log that has grown if it stood there before, or ends with the new entry. -/
theorem sublist_snoc {β : Type} {l log : List β} {x e : β} :
    (l ++ [x]).Sublist (log ++ [e]) ↔ (l ++ [x]).Sublist log ∨ x = e ∧ l.Sublist log := by
  have turned : (x :: l.reverse).Sublist log.reverse ↔ (l ++ [x]).Sublist log := by
    rw [← List.reverse_sublist]
    simp
  rw [← List.reverse_sublist]
  simp [List.cons_sublist_cons', turned]

/-- How the phases of the callers, each with its key, stand to a log.  A caller behind which another
one of its key has called a peer is behind its lock, so that it never calls again. -/
structure InTurn (key : Nat → String) (phase : Nat → LockPhase)
    (log : List (Nat × Sigma Question.Answer)) : Prop where
  entered : ∀ caller entry, (caller, entry) ∈ log → entry.1.isCall = true → phase caller ≠ .before
  overtaken : ∀ a b x y, key a = key b → a ≠ b → x.1.isCall = true → y.1.isCall = true →
    [(a, x), (b, y)].Sublist log → phase a = .behind
  apart : ∀ a b x y z, key a = key b → a ≠ b → x.1.isCall = true → y.1.isCall = true →
    z.1.isCall = true → ¬ [(a, x), (b, y), (a, z)].Sublist log

namespace InTurn

variable {key : Nat → String} {phase phase' : Nat → LockPhase}
  {log : List (Nat × Sigma Question.Answer)} {caller : Nat} {entry : Sigma Question.Answer}

/-- Before anything is asked, callers are in turn whatever their phases. -/
theorem nil : InTurn key phase [] where
  entered _ _ member := by cases member
  overtaken _ _ _ _ _ _ _ _ later := by cases later
  apart _ _ _ _ _ _ _ _ _ _ later := by cases later

/-- A caller may go on to a later phase. -/
theorem advance (turns : InTurn key phase log) {p : LockPhase} (begun : p ≠ .before)
    (ended : phase caller = .behind → p = .behind) :
    InTurn key (Function.update phase caller p) log where
  entered c e member call := by
    by_cases own : c = caller
    · rwa [own, Function.update_self]
    · rw [Function.update_of_ne own]
      exact turns.entered c e member call
  overtaken a b x y same other callX callY later := by
    have behind := turns.overtaken a b x y same other callX callY later
    by_cases own : a = caller
    · rw [own, Function.update_self]
      exact ended (own ▸ behind)
    · rwa [Function.update_of_ne own]
  apart := turns.apart

/-- What is no call may be asked at any time. -/
theorem silent (turns : InTurn key phase log) (quiet : entry.1.isCall = false) :
    InTurn key phase (log ++ [(caller, entry)]) where
  entered c e member call := by
    rcases List.mem_append.mp member with member | last
    · exact turns.entered c e member call
    · cases List.mem_singleton.mp last
      cases quiet.symm.trans call
  overtaken a b x y same other callX callY later := by
    rcases (sublist_snoc (l := [(a, x)])).mp later with later | ⟨last, -⟩
    · exact turns.overtaken a b x y same other callX callY later
    · cases last
      cases quiet.symm.trans callY
  apart a b x y z same other callX callY callZ later := by
    rcases (sublist_snoc (l := [(a, x), (b, y)])).mp later with later | ⟨last, -⟩
    · exact turns.apart a b x y z same other callX callY callZ later
    · cases last
      cases quiet.symm.trans callZ

/-- A caller may call a peer while it is inside and no other caller of its key is. -/
theorem call (turns : InTurn key phase log) (inside : phase caller = .inside)
    (alone : ∀ other, key other = key caller → phase other = .inside → other = caller) :
    InTurn key phase (log ++ [(caller, entry)]) where
  entered c e member call := by
    rcases List.mem_append.mp member with member | last
    · exact turns.entered c e member call
    · cases List.mem_singleton.mp last
      simp [inside]
  overtaken a b x y same other callX callY later := by
    rcases (sublist_snoc (l := [(a, x)])).mp later with later | ⟨last, earlier⟩
    · exact turns.overtaken a b x y same other callX callY later
    · cases last
      -- The earlier caller has been inside, and is not inside now.
      have entered := turns.entered a x (List.singleton_sublist.mp earlier) callX
      cases phaseA : phase a with
      | before => exact absurd phaseA entered
      | inside => exact absurd (alone a same phaseA) other
      | behind => rfl
  apart a b x y z same other callX callY callZ later := by
    rcases (sublist_snoc (l := [(a, x), (b, y)])).mp later with later | ⟨last, earlier⟩
    · exact turns.apart a b x y z same other callX callY callZ later
    · cases last
      cases inside.symm.trans (turns.overtaken caller b x y same other callX callY earlier)

end InTurn

/-! ## What each step keeps -/

namespace Crowd

variable {α : Type}

/-- How the phases of the callers, each with its key, stand to the locks and to the log. -/
structure Orderly (key : Nat → String) (phase : Nat → LockPhase) (s : Crowd α) : Prop where
  sound : s.locks.Sound
  follows : ∀ caller p, s.todo caller = some p → Follows (key caller) (phase caller) p
  held : ∀ caller, phase caller = .inside →
    ∃ mutex, ⟨caller, key caller, mutex, .holding⟩ ∈ s.locks.calls
  turns : InTurn key phase s.log

namespace Orderly

variable {key : Nat → String} {phase : Nat → LockPhase} {s s' : Crowd α} {work : Nat → Work α}
  {caller : Nat}

/-- A crowd that is about to begin is orderly: no caller is inside yet. -/
theorem start (follows : ∀ caller, Follows (key caller) .before (work caller)) :
    (start work).Orderly key fun _ => .before where
  sound := .empty
  follows caller p same := by
    cases same
    exact follows caller
  held caller inside := by cases inside
  turns := .nil

/-- Two callers of a key are not inside at once. -/
theorem inside_unique (orderly : s.Orderly key phase) {a b : Nat} (same : key a = key b)
    (insideA : phase a = .inside) (insideB : phase b = .inside) : a = b := by
  obtain ⟨_, heldA⟩ := orderly.held a insideA
  obtain ⟨_, heldB⟩ := orderly.held b insideB
  exact congrArg LockCall.caller (orderly.sound.owner_unique heldA heldB rfl rfl same)

/-- A caller inside keeps its mutex in each step of the locks but its own release. -/
theorem held_step (orderly : s.Orderly key phase) {a : LockStep}
    (inside : phase caller = .inside) (other : a ≠ .release caller) :
    ∃ mutex, ⟨caller, key caller, mutex, .holding⟩ ∈ (s.locks.step a).calls := by
  obtain ⟨mutex, held⟩ := orderly.held caller inside
  exact ⟨mutex, orderly.sound.holding_step held rfl other⟩

/-- A step of the locks that gives none back leaves the callers where they are. -/
theorem lock_step (orderly : s.Orderly key phase) {a : LockStep} (keeps : ∀ c, a ≠ .release c) :
    Orderly key phase { s with locks := s.locks.step a } where
  sound := orderly.sound.step a
  follows := orderly.follows
  held _ inside := orderly.held_step inside (keeps _)
  turns := orderly.turns

/-- The rest of a program follows in the phase that its caller has come to. -/
theorem follows_update (orderly : s.Orderly key phase) {p : LockPhase} {todo : Option (Work α)}
    (rest : ∀ work, todo = some work → Follows (key caller) p work) :
    ∀ c work, Function.update s.todo caller todo c = some work →
      Follows (key c) (Function.update phase caller p c) work := by
  intro c work left
  by_cases own : c = caller
  · subst own
    rw [Function.update_self] at left ⊢
    exact rest work left
  · rw [Function.update_of_ne own] at left ⊢
    exact orderly.follows c work left

/-- A caller that is not inside any more leaves the others inside. -/
theorem held_update (orderly : s.Orderly key phase) {locks : KeyedLocks}
    (keeps : ∀ c mutex, c ≠ caller → ⟨c, key c, mutex, .holding⟩ ∈ s.locks.calls →
      ⟨c, key c, mutex, .holding⟩ ∈ locks.calls) :
    ∀ c, Function.update phase caller .behind c = .inside →
      ∃ mutex, ⟨c, key c, mutex, .holding⟩ ∈ locks.calls := by
  intro c inside
  have other : c ≠ caller := by
    rintro rfl
    rw [Function.update_self] at inside
    cases inside
  rw [Function.update_of_ne other] at inside
  obtain ⟨mutex, held⟩ := orderly.held c inside
  exact ⟨mutex, keeps c mutex other held⟩

/-- **The step law of a crowd.** -/
theorem step (orderly : s.Orderly key phase) (step : Step s s') :
    ∃ phase', s'.Orderly key phase' := by
  -- What a caller waits for, and what it leaves behind, moves no other caller to another phase.
  cases step with
  | wait awaits way =>
      refine ⟨phase, orderly.lock_step fun c => ?_⟩
      rcases way with rfl | rfl | rfl <;> exact LockStep.noConfusion
  | sweep caller => exact ⟨phase, orderly.lock_step fun _ => LockStep.noConfusion⟩
  | @enter caller mutex k next awaits held =>
      have follows := orderly.follows caller _ awaits
      generalize waits : phase caller = p at follows
      cases follows with
      | ask unlocked => cases unlocked
      | acquire rest =>
          refine ⟨Function.update phase caller .inside, orderly.sound, ?_, ?_, ?_⟩
          · exact orderly.follows_update fun _ same => Option.some.inj same ▸ rest
          · intro c inside
            by_cases own : c = caller
            · exact ⟨mutex, own ▸ held⟩
            · rw [Function.update_of_ne own] at inside
              exact orderly.held c inside
          · exact (orderly.turns.advance LockPhase.noConfusion (by simp [waits])).silent rfl
  | @leave caller k next gives =>
      have follows := orderly.follows caller _ gives
      generalize phase caller = p at follows
      cases follows with
      | ask unlocked => cases unlocked
      | release rest =>
          refine ⟨Function.update phase caller .behind, orderly.sound.step (.release caller), ?_,
            ?_, ?_⟩
          · exact orderly.follows_update fun _ same => Option.some.inj same ▸ rest
          · refine orderly.held_update fun c mutex other held => ?_
            exact orderly.sound.holding_step held rfl (by simpa using Ne.symm other)
          · exact (orderly.turns.advance LockPhase.noConfusion fun _ => rfl).silent rfl
  | @ask caller q next answer asks unlocked =>
      have follows := orderly.follows caller _ asks
      generalize phaseOf : phase caller = p at follows
      cases follows with
      | acquire => cases unlocked
      | release => cases unlocked
      | ask _ silent rest =>
          refine ⟨phase, orderly.sound, ?_, orderly.held, ?_⟩
          · have same : phase = Function.update phase caller p := by simp [← phaseOf]
            rw [same]
            exact orderly.follows_update fun _ left => Option.some.inj left ▸ rest answer
          · cases call : q.isCall with
            | false => exact orderly.turns.silent call
            | true =>
                have inside := phaseOf.trans (silent call)
                exact orderly.turns.call inside fun other same insideOther =>
                  orderly.inside_unique same insideOther inside
  | drop caller =>
      -- To be dropped is to give up waiting, or to let go: two steps of the locks, one of which is
      -- idle.
      have sound := orderly.sound.step (.cancel caller)
      refine ⟨Function.update phase caller .behind, sound.step (.release caller), ?_, ?_, ?_⟩
      · exact orderly.follows_update fun _ left => by cases left
      · refine orderly.held_update fun c mutex other held => ?_
        have held := orderly.sound.holding_step held rfl
          (LockStep.noConfusion : .cancel caller ≠ LockStep.release c)
        exact sound.holding_step held rfl (by simpa using Ne.symm other)
      · exact orderly.turns.advance LockPhase.noConfusion fun _ => rfl

/-- Whatever a crowd has done, its callers are in some phases that are orderly. -/
theorem reachable (follows : ∀ caller, Follows (key caller) .before (work caller))
    (reachable : Reachable work s) : ∃ phase, s.Orderly key phase := by
  induction reachable with
  | refl => exact ⟨_, .start follows⟩
  | tail _ step ih =>
      obtain ⟨phase, orderly⟩ := ih
      exact orderly.step step

end Orderly

end Crowd

/-- **Single flight.**  Whatever steps any number of callers take, in any order, a key has one
owner, and neither the entry of a key nor its mutex changes in a step before which a caller refers
to it.  Hence reconciles of one key never interleave: no call of the one lies between two calls of
the other, however the peers answer and whichever callers are dropped. -/
theorem single_flight :
    (∀ (l : List LockStep) (c d : LockCall), c ∈ (KeyedLocks.empty.steps l).calls →
      d ∈ (KeyedLocks.empty.steps l).calls → c.key = d.key → c.stage.isOwner = true →
        d.stage.isOwner = true → c = d) ∧
    (∀ (l : List LockStep) (a : LockStep) (c : LockCall), c ∈ (KeyedLocks.empty.steps l).calls →
      ((KeyedLocks.empty.steps l).step a).table.lookup c.key = some c.mutex) ∧
    ∀ (base : Url) (settings : Settings) (records : Nat → Record)
        (s : Crowd (Except OperatorError ControllerAction)),
      Crowd.Reachable (fun caller => (records caller).controlCounted base settings) s →
        ∀ (a b : Nat) (x y z : Sigma Question.Answer), (records a).key = (records b).key → a ≠ b →
          x.1.isCall = true → y.1.isCall = true → z.1.isCall = true →
            ¬ [(a, x), (b, y), (a, z)].Sublist s.log := by
  refine ⟨?_, ?_, ?_⟩
  · intro l c d hc hd same ownsC ownsD
    exact (KeyedLocks.Sound.empty.steps l).owner_unique hc hd ownsC ownsD same
  · intro l a c member
    exact (KeyedLocks.Sound.empty.steps l).table_step member a
  · intro base settings records s reachable
    obtain ⟨phase, orderly⟩ := Crowd.Orderly.reachable
      (fun caller => Record.controlCounted_follows base (records caller) settings) reachable
    exact orderly.turns.apart

/-! ## Two reconciles of one record -/

namespace Rivals

/-- A record for which two callers are on their way. -/
def record : Record where
  metadata := { Metadata.empty with name := some "orders", namespaceName := some "shop" }
  spec := .database ⟨"p", "s", none, none, none, none⟩
  status := none

/-- The base URL of the control plane. -/
def base : Url := ⟨"http", some [""], "", none, none⟩

def work (_ : Nat) : Work (Except OperatorError ControllerAction) :=
  record.controlCounted base .standard

/-- A reconcile reads the record under its lock, and gives the lock back if it has no answer. -/
theorem work_asks : ∃ (request : KubeRequest)
    (read : Instant → KubeReply → Work (Except OperatorError ControllerAction)),
    work = (fun _ => .ask .now fun start => .ask (.acquire record.key) fun _ =>
      .ask (.kube request) (read start)) ∧
    ∀ start, ∃ last, read start .lost = .ask (.release record.key) last := by
  have sendable : (Kubernetes.sendablePath?
      (record.collection.path ++ "/" ++ record.name)).isSome = true := by decide +kernel
  obtain ⟨path, sendable⟩ := Option.isSome_iff_exists.mp sendable
  have named : ¬ record.name.isEmpty = true := by decide +kernel
  have asks : ∃ next, (record.reread base .standard).result = .ask (.kube ⟨path, none⟩) next ∧
      next .lost = .done (.error (.kube .service)) := by
    unfold Record.reread Kubernetes.readOnce Kubernetes.sendTo
    rw [if_neg named, sendable]
    exact ⟨_, rfl, rfl⟩
  obtain ⟨next, same, lost⟩ := asks
  unfold work Record.controlCounted Record.control
  rw [same]
  refine ⟨_, _, rfl, fun start => ?_⟩
  dsimp only
  rw [lost]
  exact ⟨_, rfl⟩

/-- The steps of two callers of a key: the second one waits until the first one is done. -/
def steps (key : String) : List LockStep :=
  [.lookUp 0 key, .acquire 0, .lookUp 1 key, .acquire 1, .release 0, .notice 1]

theorem holding (key : String) :
    ⟨1, key, 0, .holding⟩ ∈ (KeyedLocks.empty.steps (steps key)).calls := by
  simp [steps, KeyedLocks.step, KeyedLocks.empty, KeyedLocks.isNew, KeyedLocks.find?,
    KeyedLocks.lookUp, KeyedLocks.acquire, KeyedLocks.release, KeyedLocks.isOwned,
    KeyedLocks.withStage, KeyedLocks.without, KeyedLocks.handOver, LockStage.isOwner]

/-- One caller reads the record while the other one waits, and then the other one does. -/
theorem reachable : ∃ s x, Crowd.Reachable work s ∧ x.1.isCall = true ∧
    [(0, x), (1, x)].Sublist s.log := by
  obtain ⟨request, read, same, lost⟩ := work_asks
  obtain ⟨last, lost⟩ := lost ⟨0, 0⟩
  have held := holding record.key
  simp only [steps, KeyedLocks.steps_cons, KeyedLocks.steps_nil] at held
  rw [same]
  generalize record.key = key at lost held ⊢
  have none : Crowd.Reachable (fun _ => .ask .now fun start => .ask (.acquire key) fun _ =>
    .ask (.kube request) (read start)) _ := .refl
  have began := none.tail (.ask (⟨0, 0⟩ : Instant)
    (rfl : Crowd.todo _ 0 = some (.ask .now _)) rfl)
  have lookedUp := began.tail (.wait
    (rfl : Crowd.todo _ 0 = some (.ask (.acquire _) _)) (.inl rfl))
  have acquired := lookedUp.tail (.wait
    (rfl : Crowd.todo _ 0 = some (.ask (.acquire _) _)) (.inr (.inl rfl)))
  have entered := acquired.tail (.enter
    (rfl : Crowd.todo _ 0 = some (.ask (.acquire _) _)) (List.mem_singleton_self _))
  have called := entered.tail (.ask KubeReply.lost
    (rfl : Crowd.todo _ 0 = some (.ask (.kube _) _)) rfl)
  -- The first caller is inside now; the other one looks the key up and has to wait.
  have rival := called.tail (.ask (⟨0, 0⟩ : Instant)
    (rfl : Crowd.todo _ 1 = some (.ask .now _)) rfl)
  have rivalLookedUp := rival.tail (.wait
    (rfl : Crowd.todo _ 1 = some (.ask (.acquire _) _)) (.inl rfl))
  have rivalWaits := rivalLookedUp.tail (.wait
    (rfl : Crowd.todo _ 1 = some (.ask (.acquire _) _)) (.inr (.inl rfl)))
  -- The first one leaves, which lets the other one in.
  have left := rivalWaits.tail (.leave
    (congrArg some lost : Crowd.todo _ 0 = some (.ask (.release _) _)))
  have noticed := left.tail (.wait
    (rfl : Crowd.todo _ 1 = some (.ask (.acquire _) _)) (.inr (.inr rfl)))
  have rivalEntered := noticed.tail (.enter
    (rfl : Crowd.todo _ 1 = some (.ask (.acquire _) _)) held)
  have rivalCalled := rivalEntered.tail (.ask KubeReply.lost
    (rfl : Crowd.todo _ 1 = some (.ask (.kube _) _)) rfl)
  refine ⟨_, ⟨.kube request, .lost⟩, rivalCalled, rfl, ?_⟩
  exact .cons _ (.cons _ (.cons_cons _ (.cons _ (.cons _ (.cons _ (.cons_cons _ .slnil))))))

end Rivals

/-- Of two reconciles of one record the second one reads the record behind the first one, which then
calls no peer any more. -/
theorem single_flight_rivals :
    (∀ d ∈ (KeyedLocks.empty.steps (Rivals.steps "k")).calls, d.key = "k" →
      d.stage.isOwner = true → d = ⟨1, "k", 0, .holding⟩) ∧
    ((KeyedLocks.empty.steps (Rivals.steps "k")).step (.sweep 0)).table.lookup "k" = some 0 ∧
    ∃ (s : Crowd (Except OperatorError ControllerAction)) (x : Sigma Question.Answer),
      x.1.isCall = true ∧ [(0, x), (1, x)].Sublist s.log ∧
        ¬ [(0, x), (1, x), (0, x)].Sublist s.log := by
  have holds := Rivals.holding "k"
  obtain ⟨unique, tracked, apart⟩ := single_flight
  refine ⟨?_, tracked _ (.sweep 0) _ holds, ?_⟩
  · intro d member key owns
    exact unique _ d _ member holds key owns rfl
  · obtain ⟨s, x, reachable, call, turns⟩ := Rivals.reachable
    exact ⟨s, x, call, turns, apart Rivals.base .standard (fun _ => Rivals.record) s reachable 0 1 x
      x x rfl (by decide) call call call⟩

end ServiceOperator
