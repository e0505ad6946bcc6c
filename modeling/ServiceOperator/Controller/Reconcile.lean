import ServiceOperator.Kinds.Adapters

/-!
# The reconcile of a record

A controller holds the lock of the record, reads the record again, makes sure that it carries the
finalizer, runs one pass, and writes down what the pass decided: the status, the connection secret
and the marker annotations, or that the finalizer goes.
-/

namespace ServiceOperator

/-- What a controller does after a reconcile. -/
inductive ControllerAction where
  | requeueAfter (delay : Duration)
  | awaitChange
  deriving DecidableEq, Repr

/-- The action for the requeue of an outcome. -/
def Requeue.action : Requeue → ControllerAction
  | after delay => .requeueAfter delay
  | awaitChange => .awaitChange

/-- The word under which a requeue is counted. -/
def Requeue.label : Requeue → String
  | after _ => "timed"
  | awaitChange => "await_change"

/-- The event of a mutation. -/
def Mutation.event (kind : String) : Mutation → MetricEvent
  | created => .created kind
  | updated => .updated kind
  | replaced => .replaced kind
  | deleted => .deleted kind

namespace Outcome

/-- What is counted of an outcome. -/
def events (o : Outcome) (kind : String) : List MetricEvent :=
  o.mutation.toList.map (Mutation.event kind) ++
    o.errorReason.toList.map (fun r => .erred kind r.text) ++ [.requeued kind o.requeue.label]

/-- Writes down what a pass over a record decided. -/
def apply (o : Outcome) (r : Record) : Action Unit := do
  if o.removeFinalizer then r.removeFinalizer resourceFinalizer
  else
    if ResourceStatus.changed r.status o.status then r.patchStatus o.status
    if let some info := o.connectionInfo then
      let _ ← r.materialize info
    let markers := o.status.markers
    if r.markersChanged markers then r.patchMarkers markers

end Outcome

/-- Counts several events. -/
def countAll : List MetricEvent → Work Unit
  | [] => return ()
  | e :: rest => do
    Work.count e
    countAll rest

namespace Record

/-- A pass over a record, with what it decides written down. -/
def runPass (base : Url) (r : Record) (settings : Settings) : Action ControllerAction := do
  let now ← (Work.now : Work Instant)
  let outcome ← (r.reconcile base settings now : Work Outcome)
  outcome.apply r
  countAll (outcome.events r.kind.name)
  return outcome.requeue.action

/-- A pass over a record as it is stored. A record that is being deleted and does not carry the
finalizer is left alone. -/
def passIfHeld (base : Url) (r : Record) (settings : Settings) : Action ControllerAction := do
  if r.metadata.deletionRequested then
    if r.hasFinalizer resourceFinalizer then r.runPass base settings else return .awaitChange
  else
    r.ensureFinalizer resourceFinalizer
    r.runPass base settings

/-- Reads a record again and runs a pass over it. The one at hand may be older than the last
write. -/
def reread (base : Url) (r : Record) (settings : Settings) : Action ControllerAction := do
  let stored ← ExceptT.mk do
    match ← Kubernetes.readOnce r.collection r.name with
    | .ok stored => return .ok stored
    | .error e => return .error (.kube e)
  match stored with
  | none => return .awaitChange
  | some stored => stored.passIfHeld base settings

/-- The reconcile of a record under its lock. -/
def control (base : Url) (r : Record) (settings : Settings) :
    Work (Except OperatorError ControllerAction) := do
  Work.acquire r.key
  let result ← (r.reread base settings).result
  Work.release r.key
  return result

/-- The reconcile of a record, timed and counted. -/
def controlCounted (base : Url) (r : Record) (settings : Settings) :
    Work (Except OperatorError ControllerAction) := do
  let start ← Work.now
  let result ← r.control base settings
  let time := ((← Work.now).elapsedSince? start).getD ⟨0⟩
  match result with
  | .ok _ => Work.count (.succeeded r.kind.name time)
  | .error _ =>
    Work.count (.failed r.kind.name time)
    Work.count (.erred r.kind.name "ReconcileFailed")
  return result

end Record

end ServiceOperator
