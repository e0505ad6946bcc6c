import ServiceOperator.Reconcile.Adapter
import ServiceOperator.Reconcile.Backoff
import ServiceOperator.Reconcile.Plan
import ServiceOperator.Reconcile.Settings
import ServiceOperator.Time.Instant
import ServiceOperator.Word

/-!
# A pass and its exits

A pass carries the status that it is changing. Each of its exits writes the conditions, says when
the record comes back and yields the outcome: `notReady`, `externallyDeleted`, `fail`, `terminal`
and `converged` while a record lives, `deleteFailed` and `deletionTimeout` while it is deleted.
-/

namespace ServiceOperator

/-- When a record comes back. -/
inductive Requeue where
  /-- After a delay. -/
  | after (delay : Duration)
  /-- When it, or something that it needs, changes. -/
  | awaitChange
  deriving DecidableEq, Repr

/-- What a pass did to the resource. -/
inductive Mutation where
  | created
  | updated
  | replaced
  | deleted
  deriving DecidableEq, Repr

/-- The name of a mutation. -/
def Mutation.name : Mutation → String
  | created => "created"
  | updated => "updated"
  | replaced => "replaced"
  | deleted => "deleted"

/-- What a pass leaves behind. -/
structure Outcome where
  /-- The step that was taken. -/
  step : Step
  /-- Where the record is afterwards. -/
  phase : Phase
  /-- The status to store. -/
  status : ResourceStatus
  /-- How to connect to the resource, once it has converged. -/
  connectionInfo : Option ConnectionInfo
  /-- When the record comes back. -/
  requeue : Requeue
  /-- The resource is gone and the record may go too. -/
  removeFinalizer : Bool
  /-- What was done to the resource. -/
  mutation : Option Mutation
  /-- Why the pass failed, if it did. -/
  errorReason : Option Reason

/-- What a pass sees of its record. -/
structure Subject where
  /-- The name of the kind. -/
  kind : String
  /-- The name of the record. -/
  name : String
  /-- The generation of the record. -/
  generation : Int
  /-- The record is being deleted. -/
  deletionRequested : Bool
  /-- The stored status. -/
  status : ResourceStatus
  deriving DecidableEq, Repr

/-- A record in words. -/
def Subject.describe (s : Subject) : String :=
  s.kind ++ " " ++ s.name

/-- A pass under way. -/
structure Pass (R : Type) where
  /-- What can be read off a resource. -/
  profile : Profile R
  /-- The record. -/
  subject : Subject
  /-- The timing. -/
  settings : Settings
  /-- The instant of the pass. -/
  now : Instant
  /-- The status, as far as the pass has changed it. -/
  status : ResourceStatus
  /-- The step that is taken. -/
  step : Step
  /-- How to connect to the resource, once it has converged. -/
  connectionInfo : Option ConnectionInfo
  /-- The resource is gone. -/
  removeFinalizer : Bool
  /-- What was done to the resource. -/
  mutation : Option Mutation
  /-- Why the pass failed. -/
  errorReason : Option Reason

namespace Pass

variable {R : Type}

/-- The stamp of the instant of the pass. -/
def stamp (p : Pass R) : String := p.now.stamp

/-- Sets the condition that reports convergence. -/
def setRunning (p : Pass R) (holds : Bool) (reason : Reason) (message : String) : Pass R :=
  { p with status := p.status.setRunning holds reason message p.stamp }

/-- Sets the condition that reports failure. -/
def setError (p : Pass R) (holds : Bool) (reason : Reason) (message : String) : Pass R :=
  { p with status := p.status.setError holds reason message p.stamp }

/-- Starts the clock of an operation, unless it is running already. -/
def beginOperation (p : Pass R) : Pass R :=
  { p with status := { p.status with
      operationStartedAt := some (p.status.operationStartedAt.getD p.stamp) } }

/-- The time since a stamp, none if it cannot be read or lies ahead. -/
def elapsedSince? (p : Pass R) (stamp : Option String) : Option Duration :=
  (stamp.bind Instant.parse?).bind p.now.elapsedSince?

/-- Whether more time than a limit has passed since a stamp. -/
def exceeds (p : Pass R) (stamp : Option String) (limit : Duration) : Bool :=
  match p.elapsedSince? stamp with
  | some elapsed => decide (limit < elapsed)
  | none => false

/-- The operation takes longer than it may. -/
def creationTimedOut (p : Pass R) : Bool :=
  p.exceeds p.status.operationStartedAt p.settings.creationTimeout

/-- The deletion takes longer than it may. -/
def deletionTimedOut (p : Pass R) : Bool :=
  p.exceeds p.status.deletionStartedAt p.settings.deletionTimeout

/-- Records what the pass did to the resource. -/
def mark (p : Pass R) (m : Mutation) : Pass R :=
  { p with mutation := some m }

/-- Records that the present generation and source secret are applied to a resource. -/
def accept (p : Pass R) (id : String) (fingerprint : Option String) : Pass R :=
  { p with status := { p.status with
      id := some id
      observedGeneration := some p.subject.generation
      sourceFingerprint := fingerprint
      failedGeneration := none
      failedAttempts := 0 } }

/-- Ends the pass. -/
def finish (p : Pass R) (requeue : Requeue) : Outcome where
  step := p.step
  phase := if p.removeFinalizer then .gone else Phase.of p.status p.subject.deletionRequested
  status := p.status
  connectionInfo := p.connectionInfo
  requeue := requeue
  removeFinalizer := p.removeFinalizer
  mutation := p.mutation
  errorReason := p.errorReason

/-- Ends the pass with a failure that only a change of the record can mend. -/
def terminal (p : Pass R) (reason : Reason) (message : String) : Outcome :=
  let p := { p with
    status := { p.status with
      failedGeneration := some p.subject.generation
      operationStartedAt := none
      failedAttempts := 0 }
    errorReason := some reason }
  ((p.setRunning false reason message).setError true reason message).finish .awaitChange

/-- Ends a pass that waits for the resource to converge. -/
def notReady (p : Pass R) (message : String) : Outcome :=
  if p.creationTimedOut then
    p.terminal .timeout
      ("not ready after " ++ toString p.settings.creationTimeout.secs ++ "s: " ++ message)
  else
    ((p.setRunning false .provisioning message).setError false .reconciled "").finish
      (.after p.settings.pollInterval)

/-- Ends a pass that found the resource gone. The next one creates it again. -/
def externallyDeleted (p : Pass R) : Outcome :=
  let p := { p with status := { p.status with
    id := none
    observedGeneration := none
    state := none
    operationStartedAt := none } }
  (p.setRunning false .externallyDeleted "external resource was deleted out of band").finish
    (.after p.settings.pollInterval)

/-- Ends a pass whose failure is tried again after the poll interval, as long as the operation may
take. -/
def failRetryable (p : Pass R) (e : OperatorError) : Outcome :=
  if p.creationTimedOut then
    p.terminal .timeout ("operation did not complete within " ++
      toString p.settings.creationTimeout.secs ++ "s: " ++ e.message)
  else
    let p := { p.setError true e.reason e.message with errorReason := some e.reason }
    let p :=
      if p.status.isRunning then p
      else
        let reason := if p.status.observedGeneration.isSome then .provisioning else .pending
        p.setRunning false reason e.message
    p.finish (.after p.settings.pollInterval)

/-- Counts one more transport failure. The count stops at the greatest 32-bit number. -/
def countFailure (p : Pass R) : Pass R :=
  { p with status := { p.status with
      failedAttempts := Nat.min (p.status.failedAttempts + 1) (Word.bound 32 - 1) } }

/-- The delay after the transport failures so far. -/
def transientDelay (p : Pass R) : Duration :=
  transientRequeue p.status.failedAttempts p.settings.transientBackoffBase

/-- Ends a pass that failed in transport. After too many such failures the record is given up. -/
def failTransient (p : Pass R) (e : OperatorError) : Outcome :=
  let p := p.countFailure
  if p.settings.maxTransientFailures ≤ p.status.failedAttempts then
    p.terminal .transportExhausted ("giving up after " ++ toString p.status.failedAttempts ++
      " consecutive failures: " ++ e.message)
  else
    { p.setError true e.reason e.message with errorReason := some e.reason }.finish
      (.after p.transientDelay)

/-- Ends a failed pass as the class of the error asks. -/
def fail (p : Pass R) (e : OperatorError) : Outcome :=
  match e.errorClass with
  | .terminal => p.terminal e.reason e.message
  | .retryable => p.failRetryable e
  | .notFound => p.failRetryable e
  | .transient => p.failTransient e

/-- Ends a pass that found the resource converged. -/
def converged (p : Pass R) (info : ConnectionInfo) (state : String) : Outcome :=
  let p := { p with
    connectionInfo := some info
    status := { p.status with
      operationStartedAt := none
      failedAttempts := 0
      failedGeneration := none } }
  ((p.setRunning true .running ("external state is " ++ state)).setError false .reconciled
    "").finish (.after p.settings.readyRequeue)

/-- Reports a deletion that takes longer than it may. It goes on all the same. -/
def deletionTimeout (p : Pass R) (message : String) : Outcome :=
  let text :=
    "deletion not confirmed after " ++ toString p.settings.deletionTimeout.secs ++ "s: " ++ message
  { p.setError true .deletionTimeout text with errorReason := some .deletionTimeout }.finish
    (.after p.settings.readyRequeue)

/-- Ends a pass that could not delete. A deletion is never given up. -/
def deleteFailed (p : Pass R) (e : OperatorError) : Outcome :=
  if p.deletionTimedOut then p.deletionTimeout e.message
  else
    let p := { p.setError true e.reason e.message with errorReason := some e.reason }
    match e.errorClass with
    | .transient =>
      let p := p.countFailure
      p.finish (.after p.transientDelay)
    | .terminal => p.finish (.after p.settings.readyRequeue)
    | .retryable => p.finish (.after p.settings.pollInterval)
    | .notFound => p.finish (.after p.settings.pollInterval)

end Pass

end ServiceOperator
