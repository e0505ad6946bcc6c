/-!
# Reasons

The words under which conditions, events and metrics report why something is as it is. Each reason
has one spelling, and no two share one.
-/

namespace ServiceOperator

/-- Why a condition has its status. -/
inductive Reason where
  /-- The resource has converged and its connection info is written. -/
  | running
  /-- A create, an update or a replacement was accepted and has not converged yet. -/
  | provisioning
  /-- Nothing has been created yet. -/
  | pending
  /-- Deletion was requested and is not finished. -/
  | deleting
  /-- The resource went away by itself and will be created again. -/
  | externallyDeleted
  /-- The last attempt succeeded. -/
  | reconciled
  /-- The control plane asked to try later. -/
  | retryLater
  /-- The control plane refused the request. -/
  | rejected
  /-- The record itself is invalid. -/
  | invalidSpec
  /-- A record that this one needs is not running yet. -/
  | dependencyNotReady
  /-- A reference leads to nothing. -/
  | dependencyMissing
  /-- A resource of the same name exists and does not fit the record. -/
  | adoptionRefused
  /-- The control plane could not be reached or answered unexpectedly. -/
  | transportError
  /-- Too many transport failures. -/
  | transportExhausted
  /-- Kubernetes refused or failed a request. -/
  | kubernetesError
  /-- A create or an update took longer than it may. -/
  | timeout
  /-- A deletion took longer than it may. -/
  | deletionTimeout
  /-- The resource is absent where it was expected. -/
  | notFound
  deriving DecidableEq, Repr

/-- The spelling of a reason in conditions and metrics. -/
def Reason.text : Reason → String
  | running => "Running"
  | provisioning => "Provisioning"
  | pending => "Pending"
  | deleting => "Deleting"
  | externallyDeleted => "ExternallyDeleted"
  | reconciled => "Reconciled"
  | retryLater => "RetryLater"
  | rejected => "Rejected"
  | invalidSpec => "InvalidSpec"
  | dependencyNotReady => "DependencyNotReady"
  | dependencyMissing => "DependencyMissing"
  | adoptionRefused => "AdoptionRefused"
  | transportError => "TransportError"
  | transportExhausted => "TransportRetriesExhausted"
  | kubernetesError => "KubernetesError"
  | timeout => "Timeout"
  | deletionTimeout => "DeletionTimeout"
  | notFound => "NotFound"

end ServiceOperator
