import ServiceOperator.Config.CommandLine
import ServiceOperator.Reconcile.Settings

/-!
# The configuration

What the flags set, and what follows from it: the timing of passes, the window within which calls
are tried again, and the name under which the operator stands for leader.
-/

namespace ServiceOperator

/-- The configuration of the operator. -/
structure OperatorConfig where
  apiUrl : String
  apiToken : String
  /-- How many records of a kind are reconciled at once. -/
  concurrency : Nat
  pollIntervalSecs : Nat
  readyRequeueSecs : Nat
  creationTimeoutSecs : Nat
  deletionTimeoutSecs : Nat
  maxTransientFailures : Nat
  apiRetryWindowSecs : Nat
  metricsPort : Nat
  leaderElection : Bool
  leaseName : String
  leaseNamespace : String
  leaseDurationSecs : Nat
  identity : Option String
  deriving DecidableEq, Repr

namespace OperatorConfig

/-- The configuration by its flags, with standard values for those that are not set. -/
def ofValues (values : FlagValues) : OperatorConfig :=
  let text (f : Flag) (standard : String) : String := (values.lookup f).getD standard
  let number (f : Flag) (standard : Nat) : Nat :=
    match values.lookup f, f.type with
    | some value, .number bound signed => (numberBelow? bound signed value).getD standard
    | _, _ => standard
  { apiUrl := text .apiUrl "https://api.aiven.io/v1"
    apiToken := text .apiToken ""
    concurrency := number .concurrency 8
    pollIntervalSecs := number .pollInterval 15
    readyRequeueSecs := number .readyRequeue 300
    creationTimeoutSecs := number .creationTimeout 1200
    deletionTimeoutSecs := number .deletionTimeout 600
    maxTransientFailures := number .maxTransientFailures 10
    apiRetryWindowSecs := number .apiRetryWindow 30
    metricsPort := number .metricsPort 8080
    leaderElection := values.lookup .leaderElection = some "true"
    leaseName := text .leaseName "msop-leader"
    leaseNamespace := text .leaseNamespace "msop-system"
    leaseDurationSecs := number .leaseDuration 15
    identity := values.lookup .identity }

/-- The configuration by the arguments and the environment. -/
def read (arguments : List String) (environment : List (String × String)) :
    Except UsageError OperatorConfig :=
  (readFlags arguments environment).map ofValues

/-- The numbers that must not be zero, by flag. -/
def positives (c : OperatorConfig) : List (Flag × Nat) :=
  [(.concurrency, c.concurrency), (.pollInterval, c.pollIntervalSecs),
    (.readyRequeue, c.readyRequeueSecs), (.creationTimeout, c.creationTimeoutSecs),
    (.deletionTimeout, c.deletionTimeoutSecs), (.maxTransientFailures, c.maxTransientFailures),
    (.leaseDuration, c.leaseDurationSecs)]

/-- The poll interval must not exceed a timeout. -/
def checkPollWithin (c : OperatorConfig) (f : Flag) (timeout : Nat) : Except String Unit :=
  if timeout < c.pollIntervalSecs then
    .error ("--poll-interval-secs (" ++ toString c.pollIntervalSecs ++ ") must not exceed --" ++
      f.name ++ " (" ++ toString timeout ++ ")")
  else .ok ()

/-- Whether the values go together, or the first reason why not. -/
def validate (c : OperatorConfig) : Except String Unit := do
  match c.positives.find? fun p => p.2 = 0 with
  | some (f, _) => .error ("--" ++ f.name ++ " must be greater than zero")
  | none =>
    c.checkPollWithin .creationTimeout c.creationTimeoutSecs
    c.checkPollWithin .deletionTimeout c.deletionTimeoutSecs
    if Text.isBlank c.apiToken then .error "--api-token must not be empty" else return ()

/-- The timing of passes. -/
def settings (c : OperatorConfig) : Settings :=
  { Settings.standard with
    pollInterval := .ofSecs c.pollIntervalSecs
    readyRequeue := .ofSecs c.readyRequeueSecs
    creationTimeout := .ofSecs c.creationTimeoutSecs
    deletionTimeout := .ofSecs c.deletionTimeoutSecs
    maxTransientFailures := c.maxTransientFailures }

/-- The window within which a call to the control plane is tried again. -/
def apiRetryWindow (c : OperatorConfig) : Duration := .ofSecs c.apiRetryWindowSecs

/-- The name under which the operator stands for leader: its identity, or else that of its host. -/
def leaderIdentity (c : OperatorConfig) (environment : List (String × String)) : String :=
  match c.identity.or (environment.lookup "HOSTNAME") with
  | some name => if name.isEmpty then "msop" else name
  | none => "msop"

/-- The configuration as it may be shown: by flag, without the token. -/
def shown (c : OperatorConfig) : List (Flag × String) :=
  [(.apiUrl, c.apiUrl)] ++ c.positives.map (fun p => (p.1, toString p.2)) ++
  [(.apiRetryWindow, toString c.apiRetryWindowSecs), (.metricsPort, toString c.metricsPort),
    (.leaderElection, toString c.leaderElection), (.leaseName, c.leaseName),
    (.leaseNamespace, c.leaseNamespace)]

end OperatorConfig

end ServiceOperator
