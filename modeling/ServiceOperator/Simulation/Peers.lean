import ServiceOperator.Json.MergePatch
import ServiceOperator.Json.Printer
import ServiceOperator.Json.Reader
import ServiceOperator.Locks.Keyed
import ServiceOperator.Metrics.Family
import ServiceOperator.Reconcile.Backoff
import ServiceOperator.World

/-!
# Peers in memory

Surroundings for running the operator without any: a control plane that answers by a table of
routes, and a Kubernetes that keeps its objects in a list. Both can be made to fail, and every
request that arrives is logged.
-/

namespace ServiceOperator.Simulation

/-- What the control plane answers to a request. -/
structure Route where
  method : String
  target : String
  status : Nat
  body : String
  deriving DecidableEq, Repr

/-- A request of the given method and target is answered by the route. -/
def Route.serves (r : Route) (method target : String) : Bool :=
  r.method = method && r.target = target

/-- A failure that Kubernetes answers a number of times. -/
structure Fault where
  method : String
  path : String
  reply : KubeReply
  times : Nat
  deriving DecidableEq, Repr

/-- A request that arrived. -/
inductive Arrival where
  | controlPlane (request : HttpRequest)
  | kubernetes (request : KubeRequest)

/-- The surroundings. -/
structure Peers where
  /-- Connections to the control plane succeed. -/
  reachable : Bool
  routes : List Route
  /-- The objects in Kubernetes. -/
  objects : List Json
  faults : List Fault
  /-- The time within which a call to the control plane tries again. -/
  window : Duration
  clock : Instant
  locks : KeyedLocks
  arrivals : List Arrival
  events : Metrics

namespace Peers

/-- Removes the first item that satisfies a test. -/
def removeFirst {α : Type} (p : α → Bool) : List α → List α
  | [] => []
  | a :: rest => if p a then rest else a :: removeFirst p rest

/-- Answers by the first route, which goes unless it is the last one of its kind. -/
def takeRoute (routes : List Route) (method target : String) : HttpReply × List Route :=
  let fits := fun r : Route => r.serves method target
  match routes.find? fits with
  | none => (.answered 404 "\x7b\"message\":\"no route\"\x7d", routes)
  | some r =>
    (.answered r.status r.body, if 1 < routes.countP fits then removeFirst fits routes else routes)

/-- The control plane answers. -/
def http (s : Peers) (r : HttpRequest) : HttpReply × Peers :=
  if s.reachable then
    let (reply, routes) := takeRoute s.routes r.method.token r.target
    (reply, { s with routes := routes, arrivals := s.arrivals ++ [Arrival.controlPlane r] })
  else (.unreachable, s)

/-- A place in Kubernetes. -/
structure Place where
  namespaceName : String
  plural : String
  name : Option String
  deriving DecidableEq, Repr

/-- The place that a path leads to. The status of an object lies with the object. -/
def Place.ofPath? (path : String) : Option Place :=
  let below : List String → Option Place
    | [ns, plural] => some ⟨ns, plural, none⟩
    | [ns, plural, name] => some ⟨ns, plural, some name⟩
    | [ns, plural, name, "status"] => some ⟨ns, plural, some name⟩
    | _ => none
  match path.splitOn "/" with
  | "" :: "apis" :: "msop.dev" :: "v1alpha1" :: "namespaces" :: rest => below rest
  | "" :: "api" :: "v1" :: "namespaces" :: rest => below rest
  | _ => none

/-- A text in an object, nothing if there is none. -/
def textAt (j : Json) (path : List String) : String :=
  ((j.path? path).bind Json.text?).getD ""

/-- An object is in the collection of a place. -/
def Place.contains (p : Place) (object : Json) : Bool :=
  (textAt object ["kind"]).toLower ++ "s" = p.plural &&
    textAt object ["metadata", "namespace"] = p.namespaceName

/-- An object is the one that a place names. -/
def Place.names (p : Place) (object : Json) : Bool :=
  p.contains object && some (textAt object ["metadata", "name"]) = p.name

/-- A failure that an answer describes. -/
def failure (code : Nat) (message reason : String) : KubeReply :=
  .answered code (Json.object [("status", .string "Failure"), ("code", .ofNat code),
    ("message", .string message), ("reason", .string reason)]).print

/-- The answer that there is nothing at a path. -/
def missing (path : String) : KubeReply :=
  failure 404 (path ++ " not found") "NotFound"

/-- Patches the first object that satisfies a test and returns it. -/
def patchFirst (p : Json → Bool) (patch : Json) : List Json → Option (Json × List Json)
  | [] => none
  | o :: rest =>
    if p o then
      let o := o.mergePatch patch
      some (o, o :: rest)
    else (patchFirst p patch rest).map fun r => (r.1, o :: r.2)

/-- Answers a request by the objects. -/
def serve (objects : List Json) (r : KubeRequest) : KubeReply × List Json :=
  match Place.ofPath? r.path with
  | none => (missing r.path, objects)
  | some place =>
    match place.name, r.patch with
    | none, _ =>
      let items := objects.filter place.contains
      (.answered 200 (Json.object [("metadata", .object []), ("items", .array items)]).print,
        objects)
    | some _, none =>
      match objects.find? place.names with
      | some o => (.answered 200 o.print, objects)
      | none => (missing r.path, objects)
    | some _, some p =>
      match patchFirst place.names p.body objects, p.manager with
      | some (o, objects), _ => (.answered 200 o.print, objects)
      | none, some _ => (.answered 200 p.body.print, objects ++ [p.body])
      | none, none => (missing r.path, objects)

/-- The method of a request. -/
def methodOf (r : KubeRequest) : String :=
  if r.patch.isSome then "PATCH" else "GET"

/-- The first fault that a request meets, and the faults after it. -/
def takeFault (method path : String) : List Fault → Option (KubeReply × List Fault)
  | [] => none
  | f :: rest =>
    if f.method = method ∧ f.path = path ∧ 0 < f.times then
      some (f.reply, { f with times := f.times - 1 } :: rest)
    else (takeFault method path rest).map fun r => (r.1, f :: r.2)

/-- Kubernetes answers. -/
def kube (s : Peers) (r : KubeRequest) : KubeReply × Peers :=
  let s := { s with arrivals := s.arrivals ++ [Arrival.kubernetes r] }
  match takeFault (methodOf r) r.path s.faults with
  | some (reply, faults) => (reply, { s with faults := faults })
  | none =>
    let (reply, objects) := serve s.objects r
    (reply, { s with objects := objects })

/-- How patient a call is. -/
def patience (s : Peers) : Peer → Nat
  | .controlPlane => (Backoff.controlPlane s.window).retries
  | .kubernetes => Backoff.kubernetes.retries

/-- Answers a question. There is one caller, who never has to wait for a lock. -/
def answer : (q : Question) → Peers → q.Answer × Peers
  | .http r, s => s.http r
  | .kube r, s => s.kube r
  | .patience peer, s => (s.patience peer, s)
  | .now, s => (s.clock, s)
  | .acquire key, s => ((), { s with locks := s.locks.poll 0 key })
  | .release _, s => ((), { s with locks := s.locks.finish 0 })
  | .count e, s => ((), { s with events := s.events ++ [e] })

/-- Runs a program. -/
def run {α : Type} (s : Peers) (w : Work α) : α × Peers :=
  Program.run answer w s

end Peers

end ServiceOperator.Simulation
