import ServiceOperator.Status.ResourceStatus

/-!
# What a pass does

The stored status alone decides which step a pass takes. A generation that failed for good blocks
until the record changes, except when a dependency was missing: that may appear without a change of
the record.
-/

namespace ServiceOperator

/-- Where a record is in its life. -/
inductive Phase where
  | pending
  | provisioning
  | running
  | degraded
  | deleting
  | gone
  deriving DecidableEq, Repr

/-- The phase that a status shows. -/
def Phase.of (s : ResourceStatus) (deletionRequested : Bool) : Phase :=
  if deletionRequested then .deleting
  else if s.isFailing then .degraded
  else if s.isRunning then .running
  else if s.observedGeneration.isSome then .provisioning
  else .pending

/-- The name of a phase. -/
def Phase.name : Phase → String
  | pending => "Pending"
  | provisioning => "Provisioning"
  | running => "Running"
  | degraded => "Degraded"
  | deleting => "Deleting"
  | gone => "Gone"

/-- What a pass does. -/
inductive Step where
  /-- Creates the resource, or adopts an existing one. -/
  | create
  /-- Applies a new generation, or a new source secret, to the resource. -/
  | update
  /-- Deletes the resource and creates it anew. -/
  | replace
  /-- Looks whether the resource has converged. -/
  | awaitReady
  /-- Looks whether a converged resource is still as it should be. -/
  | observe
  /-- Deletes the resource and confirms that it is gone. -/
  | delete
  /-- Nothing, until the record changes. -/
  | blocked
  deriving DecidableEq, Repr

/-- The name of a step. -/
def Step.name : Step → String
  | create => "create"
  | update => "update"
  | replace => "replace"
  | awaitReady => "await-ready"
  | observe => "observe"
  | delete => "delete"
  | blocked => "blocked"

/-- A step that changes the resource. -/
def Step.isMutation : Step → Bool
  | create | update | replace => true
  | _ => false

/-- What a pass knows of its record besides the status. -/
structure Observation where
  /-- The generation of the record. -/
  generation : Int
  /-- The record is being deleted. -/
  deletionRequested : Bool
  /-- The fingerprint of the source secret, if there is one. -/
  sourceFingerprint : Option String
  deriving DecidableEq, Repr

/-- The step of a pass. `replaces` says that the kind cannot apply a new generation in place. -/
def plan (s : ResourceStatus) (o : Observation) (replaces : Bool) : Step :=
  if o.deletionRequested then .delete
  else if s.failedGeneration = some o.generation ∧
      Condition.reason? s.conditions Condition.error ≠ some Reason.dependencyMissing.text then
    .blocked
  else match s.observedGeneration, s.id with
    | some observed, some _ =>
      if observed ≠ o.generation then (if replaces then .replace else .update)
      else if o.sourceFingerprint.isSome ∧ o.sourceFingerprint ≠ s.sourceFingerprint then .update
      else if s.isRunning then .observe
      else .awaitReady
    | _, _ => .create

end ServiceOperator
