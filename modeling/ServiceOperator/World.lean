import ServiceOperator.ControlPlane.HttpStatus
import ServiceOperator.Metrics.Event
import ServiceOperator.Program
import ServiceOperator.Time.Instant

/-!
# The surroundings of the operator

All that the operator asks of its surroundings: requests to its two peers, how long to be patient
with them, the time, the locks that keep the passes of one record apart, and the counting of what it
does. An action is a program of such questions that may fail.
-/

namespace ServiceOperator

/-- A request to the control plane. -/
structure HttpRequest where
  method : HttpMethod
  /-- The path, with the query if there is one. -/
  target : String
  body : Option Json

/-- What comes of a request to the control plane. -/
inductive HttpReply where
  /-- An answer with its status and its body. -/
  | answered (status : Nat) (body : String)
  /-- An answer whose body could not be read. -/
  | broken (status : Nat)
  /-- No connection. -/
  | unreachable
  /-- No answer in time. -/
  | timedOut
  /-- A connection, but no answer. -/
  | lost
  deriving DecidableEq, Repr

/-- What a request to Kubernetes writes, if it writes anything. -/
structure KubePatch where
  /-- The manager that applies a whole object, creating it if need be. Without one the body is
  merged into the object. -/
  manager : Option String
  body : Json

/-- The parameters of a patch. -/
def KubePatch.query (p : KubePatch) : List (String × String) :=
  match p.manager with
  | some manager => [("fieldManager", manager), ("force", "true")]
  | none => []

/-- A request to Kubernetes: a reading one, or one that patches. -/
structure KubeRequest where
  path : String
  patch : Option KubePatch

/-- What comes of a request to Kubernetes. -/
inductive KubeReply where
  /-- An answer with its status and its body. -/
  | answered (status : Nat) (body : String)
  /-- No answer. -/
  | lost
  deriving DecidableEq, Repr

/-- The peers of the operator. -/
inductive Peer where
  | controlPlane
  | kubernetes
  deriving DecidableEq, Repr

/-- What the operator asks of its surroundings. -/
inductive Question where
  | http (request : HttpRequest)
  | kube (request : KubeRequest)
  /-- How many more attempts a call may make after it has failed for the first time. -/
  | patience (peer : Peer)
  /-- The time. -/
  | now
  /-- Wait until no one else holds a key, and hold it. -/
  | acquire (key : String)
  | release (key : String)
  | count (event : MetricEvent)

/-- The answers to the questions. -/
abbrev Question.Answer : Question → Type
  | http _ => HttpReply
  | kube _ => KubeReply
  | patience _ => Nat
  | now => Instant
  | acquire _ => Unit
  | release _ => Unit
  | count _ => Unit

/-- A program that asks the surroundings. -/
abbrev Work (α : Type) := Program Question Question.Answer α

/-- A program that asks the surroundings and may fail. -/
abbrev Action (α : Type) := ExceptT OperatorError (Program Question Question.Answer) α

namespace Work

/-- Sends a request to the control plane. -/
def http (r : HttpRequest) : Work HttpReply := .question (Question.http r)

/-- Sends a request to Kubernetes. -/
def kube (r : KubeRequest) : Work KubeReply := .question (Question.kube r)

/-- Asks how many more attempts a call may make. -/
def patience (peer : Peer) : Work Nat := .question (Question.patience peer)

/-- Asks for the time. -/
def now : Work Instant := .question Question.now

/-- Waits for a key and holds it. -/
def acquire (key : String) : Work Unit := .question (Question.acquire key)

/-- Gives a key back. -/
def release (key : String) : Work Unit := .question (Question.release key)

/-- Counts an event. -/
def count (event : MetricEvent) : Work Unit := .question (Question.count event)

end Work

namespace Action

/-- An action with a given result. -/
def ofExcept {α : Type} (r : Except OperatorError α) : Action α := ExceptT.mk (pure r)

/-- An action that fails. -/
def fail {α : Type} (e : OperatorError) : Action α := ofExcept (.error e)

/-- The result of an action, whatever it is. -/
def result {α : Type} (a : Action α) : Work (Except OperatorError α) := ExceptT.run a

end Action

end ServiceOperator
