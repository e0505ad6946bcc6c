import ServiceOperator.Text.WhiteSpace
import ServiceOperator.Word

/-!
# Flags

Everything that can be set when the operator starts. Each flag can also be set by a variable of the
environment, and all but the token have a value when nothing sets them.
-/

namespace ServiceOperator

/-- A flag. -/
inductive Flag where
  | apiUrl
  | apiToken
  | concurrency
  | pollInterval
  | readyRequeue
  | creationTimeout
  | deletionTimeout
  | maxTransientFailures
  | apiRetryWindow
  | metricsPort
  | leaderElection
  | leaseName
  | leaseNamespace
  | leaseDuration
  | identity
  deriving DecidableEq, Repr

/-- What values a flag takes. -/
inductive FlagType where
  | text
  /-- A natural number below a bound. Below the bounds that signed words can hold a minus sign
  before zero is let pass. -/
  | number (bound : Nat) (signed : Bool)
  /-- No value on the command line, `true` or `false` in the environment. -/
  | switch
  deriving DecidableEq, Repr

namespace Flag

/-- All flags, in the order in which the environment is read. -/
def all : List Flag :=
  [apiUrl, apiToken, concurrency, pollInterval, readyRequeue, creationTimeout, deletionTimeout,
    maxTransientFailures, apiRetryWindow, metricsPort, leaderElection, leaseName, leaseNamespace,
    leaseDuration, identity]

/-- The name of a flag, without its dashes. -/
def name : Flag → String
  | apiUrl => "api-url"
  | apiToken => "api-token"
  | concurrency => "concurrency"
  | pollInterval => "poll-interval-secs"
  | readyRequeue => "ready-requeue-secs"
  | creationTimeout => "creation-timeout-secs"
  | deletionTimeout => "deletion-timeout-secs"
  | maxTransientFailures => "max-transient-failures"
  | apiRetryWindow => "api-retry-window-secs"
  | metricsPort => "metrics-port"
  | leaderElection => "leader-election"
  | leaseName => "lease-name"
  | leaseNamespace => "lease-namespace"
  | leaseDuration => "lease-duration-secs"
  | identity => "identity"

/-- The variable of the environment that sets a flag. -/
def variableName : Flag → String
  | apiUrl => "MSOP_API_URL"
  | apiToken => "MSOP_API_TOKEN"
  | concurrency => "MSOP_CONCURRENCY"
  | pollInterval => "MSOP_POLL_INTERVAL_SECS"
  | readyRequeue => "MSOP_READY_REQUEUE_SECS"
  | creationTimeout => "MSOP_CREATION_TIMEOUT_SECS"
  | deletionTimeout => "MSOP_DELETION_TIMEOUT_SECS"
  | maxTransientFailures => "MSOP_MAX_TRANSIENT_FAILURES"
  | apiRetryWindow => "MSOP_API_RETRY_WINDOW_SECS"
  | metricsPort => "MSOP_METRICS_PORT"
  | leaderElection => "MSOP_LEADER_ELECTION"
  | leaseName => "MSOP_LEASE_NAME"
  | leaseNamespace => "POD_NAMESPACE"
  | leaseDuration => "MSOP_LEASE_DURATION_SECS"
  | identity => "POD_NAME"

/-- What values a flag takes. -/
def type : Flag → FlagType
  | apiUrl => .text
  | apiToken => .text
  | concurrency => .number (Word.bound 16) true
  | pollInterval => .number (Word.bound 64) false
  | readyRequeue => .number (Word.bound 64) false
  | creationTimeout => .number (Word.bound 64) false
  | deletionTimeout => .number (Word.bound 64) false
  | maxTransientFailures => .number (Word.bound 32) true
  | apiRetryWindow => .number (Word.bound 64) false
  | metricsPort => .number (Word.bound 16) true
  | leaderElection => .switch
  | leaseName => .text
  | leaseNamespace => .text
  | leaseDuration => .number (Word.bound 64) false
  | identity => .text

/-- The flag with a name. -/
def ofName? (n : String) : Option Flag :=
  all.find? fun f => f.name = n

end Flag

/-- The number that digits write, with a plus sign or none. -/
def unsignedNumber? (cs : List Char) : Option Nat :=
  let digits :=
    match cs with
    | '+' :: rest => rest
    | _ => cs
  if digits.isEmpty ∨ ¬ digits.all Text.isDigit then none else some (Text.digitsValue digits)

/-- The number below a bound that a value writes. -/
def numberBelow? (bound : Nat) (signed : Bool) (value : String) : Option Nat :=
  let written :=
    match value.toList, signed with
    | '-' :: rest, true =>
      if rest.head? = some '+' ∨ unsignedNumber? rest ≠ some 0 then none else some 0
    | cs, _ => unsignedNumber? cs
  match written with
  | some n => if n < bound then some n else none
  | none => none

end ServiceOperator
