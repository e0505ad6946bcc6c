import ServiceOperator.Double

/-!
# Growing delays

Two horizons: a single call to a peer is retried after delays that double up to a greatest interval
until a budget of time is spent (`Backoff`), and a record whose passes fail in transport comes back
after a delay that doubles with each failure up to ten minutes (`transientRequeue`).
-/

namespace ServiceOperator

/-- The delays between the attempts of one call. -/
structure Backoff where
  /-- The next delay. -/
  interval : Duration
  /-- The first delay. -/
  initialInterval : Duration
  /-- The greatest delay. -/
  maxInterval : Duration
  /-- The time within which a further attempt may begin, if it is limited. -/
  budget : Option Duration
  deriving DecidableEq, Repr

namespace Backoff

/-- The delays of a call to Kubernetes. -/
def kubernetes : Backoff :=
  ⟨.ofMillis 100, .ofMillis 100, .ofSecs 10, some (.ofSecs 60)⟩

/-- The delays of a call to the control plane within a window. -/
def controlPlane (window : Duration) : Backoff :=
  ⟨.ofMillis 50, .ofMillis 50, .ofSecs 5, some window⟩

/-- Whether the budget is spent after some time. -/
def isSpent (b : Backoff) (elapsed : Duration) : Bool :=
  match b.budget with
  | some budget => decide (budget ≤ elapsed)
  | none => false

/-- The delays with the next one doubled, up to the greatest. Doubling counts in seconds, which is
exact for intervals of less than forty-eight days. -/
def grown (b : Backoff) : Backoff :=
  let doubled := (Double.ofDuration b.interval).doubled.toDuration
  { b with interval := Duration.min doubled b.maxInterval }

/-- The next delay and the delays after it, unless the budget is spent. -/
def next? (b : Backoff) (elapsed : Duration) : Option (Duration × Backoff) :=
  if b.isSpent elapsed then none else some (b.interval, b.grown)

/-- The number of further attempts that begin within the budget if only the delays take time, up to
a bound. -/
def retriesUpTo : Nat → Backoff → Duration → Nat
  | 0, _, _ => 0
  | bound + 1, b, elapsed =>
    match b.next? elapsed with
    | some (delay, b) => retriesUpTo bound b ⟨elapsed.nanos + delay.nanos⟩ + 1
    | none => 0

/-- The number of further attempts that begin within the budget if only the delays take time. No
delay is shorter than the first or the greatest one, which bounds the number. -/
def retries (b : Backoff) : Nat :=
  match b.budget with
  | some budget =>
    retriesUpTo (budget.nanos / Nat.min b.interval.nanos b.maxInterval.nanos + 1) b ⟨0⟩
  | none => 0

end Backoff

/-- The longest delay after failures in transport. -/
def longestTransientRequeue : Duration := .ofSecs 600

/-- The delay after a number of transport failures. It doubles with each failure; the exponent stops
at sixteen and the delay at ten minutes. -/
def transientRequeue (attempts : Nat) (base : Duration) : Duration :=
  Duration.min (base.times (Nat.pow 2 (Nat.min (attempts - 1) 16))) longestTransientRequeue

end ServiceOperator
