import ServiceOperator.Reconcile.Pass

/-!
# The steps of a pass

`reconcileOnce` plans a step and takes it. It asks for each thing to be done as a call and never
touches a peer itself, so a whole pass is a value: a tree of calls with an outcome at each leaf.

- A create that collides takes the existing resource over if it fits the record.
- A replacement creates only after the old resource is seen to be gone.
- A deletion lets the record go only after the resource is seen to be gone.
-/

namespace ServiceOperator

namespace Pass

variable {R : Type}

/-- Why a pass looks at the resource. -/
inductive Look where
  /-- It has just changed the resource. -/
  | afterMutation
  /-- It waits for the resource, or watches it. -/
  | atRest
  deriving DecidableEq

/-- Corrects a resource that has drifted away from its record. -/
def correctDrift (p : Pass R) : Calls R Outcome := do
  let p := p.beginOperation
  match ← Calls.update (p.status.id.getD "") with
  | .ok () =>
    return (p.mark .updated).notReady "correcting drift of the external resource"
  | .error e => return if e.isNotFound then p.externallyDeleted else p.fail e

/-- Looks at the resource and ends the pass accordingly. -/
def converge (p : Pass R) (look : Look) : Calls R Outcome := do
  match ← Calls.get p.status.id with
  | .error e =>
    if e.isNotFound then
      match look with
      | .atRest => return p.externallyDeleted
      | .afterMutation => return p.notReady "waiting for the external resource to appear"
    else return p.fail e
  | .ok remote =>
    let state := p.profile.observedState remote
    let p := { p with status := { p.status with state := some state } }
    if look = .atRest ∧ p.profile.needsUpdate remote then p.correctDrift
    else if !p.profile.isReady remote then return p.notReady ("external state is " ++ state)
    else
      match ← Calls.connectionInfo remote with
      | .ok info => return p.converged info state
      | .error e => return p.fail e

/-- Takes over the existing resource that a create met. A resource that has the name of its record
is made what the record declares. -/
def adopt (p : Pass R) : Calls R (Except OperatorError (String × Pass R)) := do
  match ← Calls.get none with
  | .error e => return .error e
  | .ok remote =>
    if p.profile.matchesExisting remote then
      let id := p.profile.remoteId remote
      match p.profile.identity with
      | .server => return .ok (id, p)
      | .name =>
        match ← Calls.update id with
        | .ok () => return .ok (id, p.mark .updated)
        | .error e => return .error e
    else
      return .error (.adoptionRefused p.subject.describe ("an existing resource in state " ++
        p.profile.observedState remote ++ " does not match the declared spec"))

/-- Creates the resource or takes over an existing one. -/
def createOrAdopt (p : Pass R) : Calls R (Except OperatorError (String × Pass R)) := do
  match ← Calls.create with
  | .ok id => return .ok (id, p.mark .created)
  | .error e => if e.isAlreadyExists then p.adopt else return .error e

/-- Starts an operation whose preconditions hold. -/
def whenReady (p : Pass R) (go : Pass R → Calls R Outcome) : Calls R Outcome := do
  let p := p.beginOperation
  match ← Calls.checkPreconditions with
  | .ok () => go p
  | .error e => return p.fail e

/-- Records what was applied, then looks at the resource. -/
def acceptAndLook (p : Pass R) (id : String) (fingerprint : Option String) : Calls R Outcome :=
  (p.accept id fingerprint).converge .afterMutation

/-- The step that creates. -/
def create (p : Pass R) (fingerprint : Option String) : Calls R Outcome :=
  p.whenReady fun p => do
    match ← p.createOrAdopt with
    | .ok (id, p) => p.acceptAndLook id fingerprint
    | .error e => return p.fail e

/-- The step that applies a new generation in place. -/
def update (p : Pass R) (fingerprint : Option String) : Calls R Outcome :=
  p.whenReady fun p => do
    let id := p.status.id.getD ""
    match ← Calls.update id with
    | .ok () => (p.mark .updated).acceptAndLook id fingerprint
    | .error e => return if e.isNotFound then p.externallyDeleted else p.fail e

/-- Creates the resource in the place of the old one. -/
def createAnew (p : Pass R) (fingerprint : Option String) : Calls R Outcome := do
  match ← p.createOrAdopt with
  | .ok (id, p) => (p.mark .replaced).acceptAndLook id fingerprint
  | .error e => return p.fail e

/-- The step that replaces the resource. -/
def replace (p : Pass R) (fingerprint : Option String) : Calls R Outcome :=
  p.whenReady fun p => do
    let old := p.status.id
    let deleted := ← Calls.delete old
    match deleted with
    | .error e => if e.isNotFound then confirm p old else return p.fail e
    | .ok () => confirm p old
where
  /-- Creates once the old resource is seen to be gone. -/
  confirm (p : Pass R) (old : Option String) : Calls R Outcome := do
    match ← Calls.get old with
    | .error e => if e.isNotFound then p.createAnew fingerprint else return p.fail e
    | .ok _ =>
      return p.fail (.retryLater 409 ("previous " ++ p.subject.kind ++ " " ++ old.getD "" ++
        " is still being deleted"))

/-- The step that deletes. -/
def delete (p : Pass R) : Calls R Outcome := do
  let p := { p with status := { p.status with
    deletionStartedAt := some (p.status.deletionStartedAt.getD p.stamp) } }
  let p := p.setRunning false .deleting "deleting external resource"
  let deleted := ← Calls.delete p.status.id
  match deleted with
  | .error e => if e.isNotFound then confirm p else return p.deleteFailed e
  | .ok () => confirm p
where
  /-- Lets the record go once the resource is seen to be gone. -/
  confirm (p : Pass R) : Calls R Outcome := do
    match ← Calls.get p.status.id with
    | .error e =>
      if e.isNotFound then
        return { p.mark .deleted with removeFinalizer := true }.finish .awaitChange
      else return p.deleteFailed e
    | .ok remote =>
      let state := p.profile.observedState remote
      let p := { p with status := { p.status with state := some state } }
      if p.deletionTimedOut then
        return p.deletionTimeout ("external resource still present in state " ++ state)
      else
        return (p.setRunning false .deleting
          ("waiting for external deletion, state is " ++ state)).finish
            (.after p.settings.pollInterval)

/-- A pass that has done nothing yet. -/
def start (profile : Profile R) (subject : Subject) (settings : Settings) (now : Instant)
    (step : Step) : Pass R where
  profile := profile
  subject := subject
  settings := settings
  now := now
  status := subject.status
  step := step
  connectionInfo := none
  removeFinalizer := false
  mutation := none
  errorReason := none

/-- Takes the planned step. -/
def take (p : Pass R) (fingerprint : Option String) : Calls R Outcome :=
  match p.step with
  | .blocked => pure (p.finish .awaitChange)
  | .delete => p.delete
  | .create => p.create fingerprint
  | .update => p.update fingerprint
  | .replace => p.replace fingerprint
  | .awaitReady => p.converge .atRest
  | .observe => p.converge .atRest

end Pass

/-- The step of a pass over a record when its source secret has a fingerprint. -/
def Subject.plan (s : Subject) (fingerprint : Option String) (replaces : Bool) : Step :=
  ServiceOperator.plan s.status ⟨s.generation, s.deletionRequested, fingerprint⟩ replaces

/-- One pass over a record. Unless it deletes or is blocked it first asks for the fingerprint of the
source secret, which may turn a look into an update. -/
def reconcileOnce {R : Type} (profile : Profile R) (subject : Subject) (settings : Settings)
    (now : Instant) : Calls R Outcome := do
  let step := subject.plan none profile.requiresReplace
  let p := Pass.start profile subject settings now step
  match step with
  | .delete => p.take none
  | .blocked => p.take none
  | _ =>
    match ← Calls.sourceFingerprint with
    | .ok fingerprint =>
      let p := { p with step := subject.plan fingerprint profile.requiresReplace }
      p.take fingerprint
    | .error e => return (if step.isMutation then p.beginOperation else p).fail e

end ServiceOperator
