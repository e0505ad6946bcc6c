import ServiceOperator.ControlPlane.Url
import ServiceOperator.Json.Decode
import ServiceOperator.World

/-!
# Calls to the control plane

A call makes attempts, all with the same request, until one succeeds, one fails in a way that will
not mend by itself, or patience is at its end. Every attempt is counted under its method and the
class of its status.
-/

namespace ServiceOperator.ControlPlane

/-- A request to an address of the control plane. -/
structure Call where
  method : HttpMethod
  /-- The parts of the address. -/
  address : List String
  body : Option Json
  /-- What is addressed, in words. -/
  resource : String

/-- The class under which a status is counted. -/
def statusClass (status : Nat) : String :=
  if 200 ≤ status ∧ status ≤ 299 then "2xx"
  else if 400 ≤ status ∧ status ≤ 499 then "4xx"
  else if 500 ≤ status ∧ status ≤ 599 then "5xx"
  else "other"

/-- What came of one attempt. -/
inductive Attempt where
  | success (body : String)
  /-- A failure that may mend by itself. -/
  | retryable (error : OperatorError)
  | final (error : OperatorError)
  deriving DecidableEq

/-- What a reply means for an attempt. -/
def Attempt.ofReply (c : Call) : HttpReply → Attempt
  | .unreachable => .retryable (.transport "failed to reach control plane: <connection error>")
  | .timedOut => .retryable (.transport "control plane request timed out: <connection error>")
  | .lost => .final (.transport "failed to reach control plane: <connection error>")
  | .broken _ => .final (.transport "failed to read response body: <connection error>")
  | .answered status body =>
    if 200 ≤ status ∧ status ≤ 299 then .success body
    else
      let e := HttpStatus.failure c.method status c.resource body
      if HttpStatus.isRetryable status then .retryable e else .final e

/-- The class under which a reply is counted. -/
def replyClass : HttpReply → String
  | .answered status _ => statusClass status
  | .broken status => statusClass status
  | .unreachable => "error"
  | .timedOut => "error"
  | .lost => "error"

/-- One attempt, counted. -/
def attempt (base : Url) (c : Call) : Work Attempt := do
  let reply ← Work.http ⟨c.method, base.target c.address, c.body⟩
  Work.count (.requested c.method.token (replyClass reply))
  return Attempt.ofReply c reply

/-- Attempts after a first failure, as many as are left. -/
def retry (base : Url) (c : Call) : Nat → OperatorError → Work (Except OperatorError String)
  | 0, e => return .error e
  | left + 1, _ => do
    match ← attempt base c with
    | .success body => return .ok body
    | .final e => return .error e
    | .retryable e => retry base c left e

/-- The body of the answer to a call. -/
def send (base : Url) (c : Call) : Action String := ExceptT.mk do
  match ← attempt base c with
  | .success body => return .ok body
  | .final e => return .error e
  | .retryable e => retry base c (← Work.patience .controlPlane) e

/-- The document in the body of an answer. A body of white space counts as `null`. -/
def readBody {α : Type} (resource : String) (d : Json.Decoder α) (body : String) :
    Except OperatorError α :=
  let text := if Text.isBlank body then "null" else body
  match (Json.parse? text).bind d with
  | some a => .ok a
  | none => .error (.transport ("unexpected response for " ++ resource ++ ": <decode error>"))

/-- The document that a call is answered with. -/
def fetch {α : Type} (base : Url) (c : Call) (d : Json.Decoder α) : Action α := do
  Action.ofExcept (readBody c.resource d (← send base c))

/-- A call whose answer does not matter once it succeeds. -/
def perform (base : Url) (c : Call) : Action Unit := do
  let _ ← send base c

end ServiceOperator.ControlPlane
