import ServiceOperator.Reason

/-!
# Errors of a pass

`OperatorError` lists the causes for which an action fails, `KubeError` those of a Kubernetes
request. The class of an error alone decides how a pass reacts to it: absence is benign where
something is being deleted, a retryable error is tried again after the poll interval, a terminal
one waits for a new generation of the record, and a transient one is retried with growing delays.
-/

namespace ServiceOperator

/-- How a Kubernetes request failed. -/
inductive KubeError where
  /-- The server answered with a failure status. -/
  | api (code : Nat) (message reason : String)
  /-- The answer is not the object that was asked for. -/
  | undecodable
  /-- The request cannot be written, so that none was sent. -/
  | unsendable
  /-- A stream of events broke off inside a line. -/
  | stream
  /-- The request was lost without an answer. -/
  | service
  deriving DecidableEq, Repr

/-- What is reported for a failed Kubernetes request. -/
def KubeError.message : KubeError → String
  | api _ message reason => "ApiError: " ++ message ++ ": " ++ reason
  | undecodable => "Error deserializing response: <detail>"
  | unsendable => "Failed to build request: <detail>"
  | stream => "Error finding newline character"
  | service => "ServiceError: <detail>"

/-- How a pass reacts to an error. -/
inductive ErrorClass where
  /-- What was addressed is absent. -/
  | notFound
  /-- Busy, in conflict, or waiting for something else: try again after the poll interval. -/
  | retryable
  /-- The record cannot succeed as it is written: wait for a new generation. -/
  | terminal
  /-- The network or an unexpected answer: try again with growing delays. -/
  | transient
  deriving DecidableEq, Repr

/-- Why an action failed. -/
inductive OperatorError where
  /-- The resource or its parent does not exist. -/
  | notFound (resource : String)
  /-- A create met an existing resource. -/
  | alreadyExists (resource : String)
  /-- The control plane is busy. -/
  | retryLater (status : Nat) (message : String)
  /-- The control plane refused the request. -/
  | rejected (status : Nat) (message : String)
  /-- The record cannot be carried out as it is written. -/
  | invalidSpec (message : String)
  /-- A dependency exists and is not ready. -/
  | dependencyNotReady (message : String)
  /-- A dependency does not exist. -/
  | dependencyMissing (message : String)
  /-- An existing resource does not fit the record. -/
  | adoptionRefused (resource message : String)
  /-- The control plane could not be reached, or its answer could not be used. -/
  | transport (message : String)
  /-- An operation took longer than it may. -/
  | timeout (message : String)
  /-- A Kubernetes request failed. -/
  | kube (error : KubeError)
  deriving DecidableEq, Repr

/-- The class of a Kubernetes failure, by the code in its status. -/
def KubeError.errorClass : KubeError → ErrorClass
  | api code _ _ =>
    if code = 404 then .notFound
    else if code = 409 ∨ code = 429 ∨ 500 ≤ code then .retryable
    else if 400 ≤ code then .terminal
    else .transient
  | _ => .transient

namespace OperatorError

/-- The class that decides how a pass reacts. -/
def errorClass : OperatorError → ErrorClass
  | notFound _ => .notFound
  | alreadyExists _ | retryLater _ _ | dependencyNotReady _ => .retryable
  | rejected _ _ | invalidSpec _ | dependencyMissing _ | adoptionRefused _ _ | timeout _ =>
    .terminal
  | transport _ => .transient
  | kube e => e.errorClass

/-- The reason under which the error is reported. -/
def reason : OperatorError → Reason
  | notFound _ => .notFound
  | alreadyExists _ | retryLater _ _ => .retryLater
  | rejected _ _ => .rejected
  | invalidSpec _ => .invalidSpec
  | dependencyNotReady _ => .dependencyNotReady
  | dependencyMissing _ => .dependencyMissing
  | adoptionRefused _ _ => .adoptionRefused
  | transport _ => .transportError
  | timeout _ => .timeout
  | kube _ => .kubernetesError

/-- What is reported to the user. -/
def message : OperatorError → String
  | notFound resource => resource ++ " not found"
  | alreadyExists resource => resource ++ " already exists"
  | retryLater status text =>
    "control plane asked to retry later (HTTP " ++ toString status ++ "): " ++ text
  | rejected status text => "rejected by control plane (HTTP " ++ toString status ++ "): " ++ text
  | invalidSpec text => "invalid spec: " ++ text
  | dependencyNotReady text => "dependency not ready: " ++ text
  | dependencyMissing text => "dependency missing: " ++ text
  | adoptionRefused resource text => "refusing to adopt existing " ++ resource ++ ": " ++ text
  | transport text => "transport error: " ++ text
  | timeout text => "timed out: " ++ text
  | kube e => "Kubernetes API error: " ++ e.message

/-- The error says that what was addressed is absent. -/
def isNotFound (e : OperatorError) : Bool :=
  e.errorClass = .notFound

/-- The error says that a create met an existing resource. -/
def isAlreadyExists : OperatorError → Bool
  | alreadyExists _ => true
  | _ => false

/-- The name of the cause. -/
def name : OperatorError → String
  | notFound _ => "NotFound"
  | alreadyExists _ => "AlreadyExists"
  | retryLater _ _ => "RetryLater"
  | rejected _ _ => "Rejected"
  | invalidSpec _ => "InvalidSpec"
  | dependencyNotReady _ => "DependencyNotReady"
  | dependencyMissing _ => "DependencyMissing"
  | adoptionRefused _ _ => "AdoptionRefused"
  | transport _ => "Transport"
  | timeout _ => "Timeout"
  | kube _ => "Kube"

@[simp] theorem isNotFound_notFound (r : String) : (notFound r).isNotFound = true := rfl

@[simp] theorem isNotFound_kube (e : KubeError) :
    (kube e).isNotFound = decide (e.errorClass = .notFound) := rfl

end OperatorError

/-- The name of a class. -/
def ErrorClass.name : ErrorClass → String
  | notFound => "NotFound"
  | retryable => "Retryable"
  | terminal => "Terminal"
  | transient => "Transient"

end ServiceOperator
