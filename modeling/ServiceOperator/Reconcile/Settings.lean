import ServiceOperator.Time.Duration

/-!
# The timing of passes

How soon a record comes back, how long an operation may take, and how many transport failures in a
row are borne.
-/

namespace ServiceOperator

/-- The timing of the passes of all records. -/
structure Settings where
  /-- The delay before looking again at a resource that has not converged. -/
  pollInterval : Duration
  /-- The delay before looking again at a converged resource. -/
  readyRequeue : Duration
  /-- How long a create or an update may take. -/
  creationTimeout : Duration
  /-- How long a deletion may take before it is reported. -/
  deletionTimeout : Duration
  /-- The number of transport failures at which a record is given up. -/
  maxTransientFailures : Nat
  /-- The delay after the first transport failure. -/
  transientBackoffBase : Duration
  deriving DecidableEq, Repr

/-- The timing when nothing else is set. -/
def Settings.standard : Settings where
  pollInterval := .ofSecs 15
  readyRequeue := .ofSecs 300
  creationTimeout := .ofSecs 1200
  deletionTimeout := .ofSecs 600
  maxTransientFailures := 10
  transientBackoffBase := .ofSecs 5

end ServiceOperator
