import ServiceOperator.Reconcile.Steps
import ServiceOperator.Text.Quoted

/-!
# Scripted resources

A pass run against a script: each call takes the next answer from the queue for its kind of call,
and a standard answer once the queue is empty. The calls are listed in words.
-/

namespace ServiceOperator.Simulation

/-- A resource that says of itself what a pass wants to know. -/
structure ScriptedRemote where
  id : String
  state : String
  isReady : Bool
  isMatching : Bool
  hasDrifted : Bool
  deriving DecidableEq, Repr

namespace ScriptedRemote

/-- The resource that is found when nothing else is scripted. -/
def standard : ScriptedRemote := ⟨"remote-id", "RUNNING", true, true, false⟩

/-- What a pass reads off a scripted resource. -/
def profile (identity : Identity) (replaces : Bool) : Profile ScriptedRemote where
  identity := identity
  requiresReplace := replaces
  isReady := isReady
  observedState := state
  remoteId := id
  matchesExisting := isMatching
  needsUpdate := hasDrifted

end ScriptedRemote

/-- The answers to come, in one queue for each kind of call. -/
structure Script where
  fingerprint : List (Except OperatorError (Option String))
  preconditions : List (Except OperatorError Unit)
  create : List (Except OperatorError String)
  update : List (Except OperatorError Unit)
  get : List (Except OperatorError ScriptedRemote)
  delete : List (Except OperatorError Unit)
  connectionInfo : List (Except OperatorError ConnectionInfo)
  /-- The calls so far, in words. -/
  calls : List String

/-- The first answer of a queue, or the standard one, and the queue without it. -/
def dequeue {α : Type} (standard : α) :
    List (Except OperatorError α) → Except OperatorError α × List (Except OperatorError α)
  | [] => (.ok standard, [])
  | a :: rest => (a, rest)

/-- An id in the list of calls. -/
def idText : Option String → String
  | some id => Text.quoted id
  | none => "-"

namespace Script

/-- The script with one more call listed. -/
def log (s : Script) (call : String) : Script :=
  { s with calls := s.calls ++ [call] }

/-- Answers a call from its queue. -/
def answer : (q : Call ScriptedRemote) → Script → q.Answer × Script
  | .sourceFingerprint, s =>
    let (a, rest) := dequeue none s.fingerprint
    (a, { s with fingerprint := rest }.log "fingerprint")
  | .checkPreconditions, s =>
    let (a, rest) := dequeue () s.preconditions
    (a, { s with preconditions := rest }.log "preconditions")
  | .create, s =>
    let (a, rest) := dequeue "new-id" s.create
    (a, { s with create := rest }.log "create")
  | .update id, s =>
    let (a, rest) := dequeue () s.update
    (a, { s with update := rest }.log ("update(" ++ Text.quoted id ++ ")"))
  | .get id, s =>
    let (a, rest) := dequeue ScriptedRemote.standard s.get
    (a, { s with get := rest }.log ("get(" ++ idText id ++ ")"))
  | .delete id, s =>
    let (a, rest) := dequeue () s.delete
    (a, { s with delete := rest }.log ("delete(" ++ idText id ++ ")"))
  | .connectionInfo _, s =>
    let (a, rest) := dequeue StringMap.empty s.connectionInfo
    (a, { s with connectionInfo := rest }.log "connection_info")

end Script

/-- A pass over a record against a script. -/
def runScripted (profile : Profile ScriptedRemote) (subject : Subject) (settings : Settings)
    (now : Instant) (script : Script) : Outcome × List String :=
  let (outcome, script) := (reconcileOnce profile subject settings now).run Script.answer script
  (outcome, script.calls)

end ServiceOperator.Simulation
