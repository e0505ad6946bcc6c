import ServiceOperator.Locks.Keyed

/-!
# Callers on one thread

A run of the keyed locks in which one scheduler looks after all callers in turn: they begin to wait,
are polled, hold their locks and let them go.
-/

namespace ServiceOperator.Simulation

/-- A caller with the name that it goes by and the key that it wants. -/
structure Waiter where
  id : String
  key : String
  caller : Nat
  deriving DecidableEq, Repr

/-- Callers that wait and that hold their locks, in order. -/
structure Waiters where
  locks : KeyedLocks
  waiting : List Waiter
  held : List Waiter
  /-- The number of the next caller. -/
  next : Nat
  deriving DecidableEq, Repr

namespace Waiters

/-- No one waits. -/
def empty : Waiters := ⟨.empty, [], [], 0⟩

/-- A new caller waits. -/
def lock (s : Waiters) (id key : String) : Waiters :=
  { s with waiting := s.waiting ++ [⟨id, key, s.next⟩], next := s.next + 1 }

/-- The first caller of a name that holds a lock lets it go. -/
def release (s : Waiters) (id : String) : Waiters :=
  match s.held.find? fun w => w.id = id with
  | some w => { s with locks := s.locks.finish w.caller, held := s.held.erase w }
  | none => s

/-- The first caller of a name that waits stops. -/
def cancel (s : Waiters) (id : String) : Waiters :=
  match s.waiting.find? fun w => w.id = id with
  | some w => { s with locks := s.locks.step (.cancel w.caller), waiting := s.waiting.erase w }
  | none => s

/-- Polls a caller, which may get its lock. -/
def pollOne (s : Waiters) (w : Waiter) : Waiters :=
  let locks := s.locks.poll w.caller w.key
  if locks.holds w.caller then
    { s with locks := locks, waiting := s.waiting.erase w, held := s.held ++ [w] }
  else { s with locks := locks }

/-- Polls every caller that waits, the oldest first. -/
def pollAll (s : Waiters) : Waiters :=
  s.waiting.foldl pollOne s

end Waiters

end ServiceOperator.Simulation
