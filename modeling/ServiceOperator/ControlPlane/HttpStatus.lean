import ServiceOperator.Error
import ServiceOperator.Json.Reader
import ServiceOperator.Text.WhiteSpace

/-!
# Failed answers of the control plane

The status of a failed answer decides which error it is and whether the same call tries again. The
text that is reported comes from the body if it holds one, and else from the status.
-/

namespace ServiceOperator

/-- The method of an HTTP request. -/
inductive HttpMethod where
  | get
  | post
  | put
  | patch
  | delete
  | other (token : String)
  deriving DecidableEq, Repr

namespace HttpMethod

/-- The token of a method as it is sent. -/
def token : HttpMethod → String
  | get => "GET"
  | post => "POST"
  | put => "PUT"
  | patch => "PATCH"
  | delete => "DELETE"
  | other t => t

/-- The method with a token. Tokens are case sensitive. -/
def ofToken (t : String) : HttpMethod :=
  if t = "GET" then get
  else if t = "POST" then post
  else if t = "PUT" then put
  else if t = "PATCH" then patch
  else if t = "DELETE" then delete
  else other t

end HttpMethod

namespace HttpStatus

/-- The reason and the general text of a failed status. -/
def describe (status : Nat) : Reason × String :=
  match status with
  | 400 => (.rejected, "Invalid request to control plane (400)")
  | 401 => (.rejected, "Control plane authentication failed, check the API token (401)")
  | 403 => (.rejected, "Control plane authorization failed (403)")
  | 404 => (.notFound, "Resource not found on control plane (404)")
  | 409 => (.retryLater, "Conflicting operation in progress on control plane (409)")
  | 422 => (.rejected, "Control plane could not process the request (422)")
  | 429 => (.retryLater, "Rate limited by control plane (429)")
  | 503 => (.retryLater, "Control plane temporarily unavailable (503)")
  | n =>
    if 500 ≤ n ∧ n ≤ 599 then
      (.transportError, "Control plane server error (" ++ toString n ++ ")")
    else (.transportError, "Unexpected HTTP response from control plane (" ++ toString n ++ ")")

/-- A status after which the same call tries again. -/
def isRetryable (status : Nat) : Bool :=
  status == 429 || status == 500 || status == 502 || status == 503 || status == 504

/-- The message in a document that describes an error: its own, or that of the first of its
errors. -/
def messageOf? (j : Json) : Option String :=
  match (j.get? "message").bind Json.text? with
  | some text => some text
  | none =>
    match j.get? "errors" with
    | some (.array (first :: _)) => (first.get? "message").bind Json.text?
    | _ => none

/-- The message in the body of a failed answer: the one of its document, or the whole body without
the white space around it if it is not JSON. -/
def bodyMessage? (body : String) : Option String :=
  let trimmed := Text.trim body
  if trimmed.isEmpty then none
  else match Json.parse? trimmed with
    | some j => messageOf? j
    | none => some trimmed

/-- The error that a failed answer means. A conflict is a collision only for a request that
creates. -/
def failure (method : HttpMethod) (status : Nat) (resource body : String) : OperatorError :=
  let message := (bodyMessage? body).getD (describe status).2
  match status with
  | 404 => .notFound resource
  | 409 => if method = .post then .alreadyExists resource else .retryLater 409 message
  | 429 => .retryLater 429 message
  | 503 => .retryLater 503 message
  | 400 => .rejected 400 message
  | 401 => .rejected 401 message
  | 403 => .rejected 403 message
  | 422 => .rejected 422 message
  | code => .transport ("HTTP " ++ toString code ++ ": " ++ message)

end HttpStatus

end ServiceOperator
