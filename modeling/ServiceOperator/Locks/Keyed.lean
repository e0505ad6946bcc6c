/-!
# Locks by key

Passes over one record are kept apart by a mutex for its key. A table holds the mutexes that are in
use: a caller looks its mutex up, or enters a new one, and then asks for it; the holder hands it to
the caller that has waited longest, and after that looks whether anyone still refers to it and
otherwise takes it out of the table.

Each of these is one step, since callers on other threads may act in between. A step that its caller
is not about to take leaves everything as it is.
-/

namespace ServiceOperator

/-- How far a caller is with its mutex. -/
inductive LockStage where
  /-- It has looked the mutex up. -/
  | referring
  /-- It waits for the mutex. -/
  | queued
  /-- The mutex was handed to it, which it has not noticed yet. -/
  | granted
  /-- It holds the mutex. -/
  | holding
  deriving DecidableEq, Repr

/-- The mutex belongs to the caller. -/
def LockStage.isOwner : LockStage → Bool
  | granted => true
  | holding => true
  | referring => false
  | queued => false

/-- A caller that refers to a mutex. -/
structure LockCall where
  caller : Nat
  key : String
  /-- The number of the mutex. -/
  mutex : Nat
  stage : LockStage
  deriving DecidableEq, Repr

/-- The table of mutexes and the callers that use them. -/
structure KeyedLocks where
  /-- The number of the mutex of each tracked key. -/
  table : List (String × Nat)
  /-- The number of the next mutex. -/
  fresh : Nat
  /-- The callers that refer to a mutex. Those that wait stand in the order in which they began. -/
  calls : List LockCall
  /-- The callers that gave their mutex up and have not looked after the table yet. -/
  leaving : List (Nat × String)
  deriving DecidableEq, Repr

/-- A step of a caller. -/
inductive LockStep where
  /-- Looks the mutex of a key up, or enters a new one. -/
  | lookUp (caller : Nat) (key : String)
  /-- Takes the mutex if no one owns it, and else begins to wait. -/
  | acquire (caller : Nat)
  /-- Notices that the mutex was handed over. -/
  | notice (caller : Nat)
  /-- Stops before it holds the mutex. -/
  | cancel (caller : Nat)
  /-- Gives the mutex up. -/
  | release (caller : Nat)
  /-- Takes the mutex out of the table if no one refers to it any more. -/
  | sweep (caller : Nat)
  deriving DecidableEq, Repr

namespace KeyedLocks

/-- No key is tracked. -/
def empty : KeyedLocks := ⟨[], 0, [], []⟩

instance : Inhabited KeyedLocks := ⟨empty⟩

/-- The mutex reference of a caller. -/
def find? (s : KeyedLocks) (caller : Nat) : Option LockCall :=
  s.calls.find? fun c => c.caller = caller

/-- The caller holds its mutex. -/
def holds (s : KeyedLocks) (caller : Nat) : Bool :=
  s.calls.any fun c => c.caller = caller && c.stage = .holding

/-- Some caller owns a mutex. -/
def isOwned (s : KeyedLocks) (mutex : Nat) : Bool :=
  s.calls.any fun c => c.mutex = mutex && c.stage.isOwner

/-- Some caller refers to a mutex. -/
def isReferred (s : KeyedLocks) (mutex : Nat) : Bool :=
  s.calls.any fun c => c.mutex = mutex

/-- The number of tracked keys. -/
def size (s : KeyedLocks) : Nat := s.table.length

/-- The calls without those of a caller. -/
def without (caller : Nat) (calls : List LockCall) : List LockCall :=
  calls.filter fun c => c.caller ≠ caller

/-- The calls with a caller at another stage. -/
def withStage (caller : Nat) (stage : LockStage) (calls : List LockCall) : List LockCall :=
  calls.map fun c => if c.caller = caller then { c with stage := stage } else c

/-- Hands a mutex to the caller that has waited longest for it, if there is one. -/
def handOver (mutex : Nat) : List LockCall → List LockCall
  | [] => []
  | c :: rest =>
    if c.mutex = mutex ∧ c.stage = .queued then { c with stage := .granted } :: rest
    else c :: handOver mutex rest

/-- The caller is new. -/
def isNew (s : KeyedLocks) (caller : Nat) : Bool :=
  (s.find? caller).isNone && !s.leaving.any fun l => l.1 = caller

/-- What a caller does that looks its mutex up. -/
def lookUp (s : KeyedLocks) (caller : Nat) (key : String) : KeyedLocks :=
  match s.table.lookup key with
  | some mutex => { s with calls := s.calls ++ [⟨caller, key, mutex, .referring⟩] }
  | none =>
    { s with
      table := s.table ++ [(key, s.fresh)]
      fresh := s.fresh + 1
      calls := s.calls ++ [⟨caller, key, s.fresh, .referring⟩] }

/-- What a caller does that asks for its mutex. -/
def acquire (s : KeyedLocks) (c : LockCall) : KeyedLocks :=
  if s.isOwned c.mutex then
    { s with calls := without c.caller s.calls ++ [{ c with stage := .queued }] }
  else { s with calls := withStage c.caller .holding s.calls }

/-- What a caller does that stops. A mutex that was handed to it goes on to the next. -/
def cancel (s : KeyedLocks) (c : LockCall) : KeyedLocks :=
  let calls := without c.caller s.calls
  { s with calls := if c.stage = .granted then handOver c.mutex calls else calls }

/-- What a caller does that gives its mutex up. -/
def release (s : KeyedLocks) (c : LockCall) : KeyedLocks :=
  { s with
    calls := handOver c.mutex (without c.caller s.calls)
    leaving := s.leaving ++ [(c.caller, c.key)] }

/-- What a caller does that looks after the table. -/
def sweep (s : KeyedLocks) (caller : Nat) (key : String) : KeyedLocks :=
  let s := { s with leaving := s.leaving.filter fun l => l.1 ≠ caller }
  match s.table.lookup key with
  | some mutex =>
    if s.isReferred mutex then s
    else { s with table := s.table.filter fun e => e.1 ≠ key }
  | none => s

/-- One step. -/
def step (s : KeyedLocks) : LockStep → KeyedLocks
  | .lookUp caller key => if s.isNew caller then s.lookUp caller key else s
  | .acquire caller =>
    match s.find? caller with
    | some c => if c.stage = .referring then s.acquire c else s
    | none => s
  | .notice caller =>
    match s.find? caller with
    | some c =>
      if c.stage = .granted then { s with calls := withStage caller .holding s.calls } else s
    | none => s
  | .cancel caller =>
    match s.find? caller with
    | some c => if c.stage = .holding then s else s.cancel c
    | none => s
  | .release caller =>
    match s.find? caller with
    | some c => if c.stage = .holding then s.release c else s
    | none => s
  | .sweep caller =>
    match s.leaving.find? fun l => l.1 = caller with
    | some (_, key) => s.sweep caller key
    | none => s

/-- Several steps in order. -/
def steps (s : KeyedLocks) (l : List LockStep) : KeyedLocks :=
  l.foldl step s

/-- A caller that waits is looked after: it asks for its mutex, or notices that it has it. -/
def poll (s : KeyedLocks) (caller : Nat) (key : String) : KeyedLocks :=
  s.steps [.lookUp caller key, .acquire caller, .notice caller]

/-- A caller that holds its mutex is done. -/
def finish (s : KeyedLocks) (caller : Nat) : KeyedLocks :=
  s.steps [.release caller, .sweep caller]

@[simp] theorem steps_nil (s : KeyedLocks) : s.steps [] = s := rfl

@[simp] theorem steps_cons (s : KeyedLocks) (a : LockStep) (l : List LockStep) :
    s.steps (a :: l) = (s.step a).steps l := rfl

end KeyedLocks

end ServiceOperator
