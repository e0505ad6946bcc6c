import ServiceOperator.Error
import ServiceOperator.Program
import ServiceOperator.StringMap

/-!
# What a pass knows of a kind, and what it asks

A pass treats all kinds alike. What it can ask to be done for its record is a `Call`, each answered
by a value or an error; what it can read off a resource of the kind is a `Profile`. A call never
decides whether to try again, to give up or to adopt: the pass does.

Calls keep three rules: a create reports a collision as an error, a get or a delete reports an
absent resource or parent as not found, and a get or a delete without an id looks the resource up by
the attributes of its record.
-/

namespace ServiceOperator

/-- How the resources of a kind get their ids. -/
inductive Identity where
  /-- The record names the resource, so that a colliding one can be updated in place. -/
  | name
  /-- The control plane assigns the id. -/
  | server
  deriving DecidableEq, Repr

/-- What is written into the connection secret of a record. -/
abbrev ConnectionInfo := StringMap String

/-- What can be read off a resource of type `R`, as seen from its record. -/
structure Profile (R : Type) where
  /-- How ids arise. -/
  identity : Identity
  /-- A new generation cannot be applied in place. -/
  requiresReplace : Bool
  /-- The resource has converged. -/
  isReady : R → Bool
  /-- The state of the resource, for the status. -/
  observedState : R → String
  /-- The id of the resource. -/
  remoteId : R → String
  /-- An existing resource may be taken over by the record. -/
  matchesExisting : R → Bool
  /-- The resource has drifted away from its record. -/
  needsUpdate : R → Bool

/-- What a pass asks to be done for its record. -/
inductive Call (R : Type) where
  /-- The fingerprint of the source secret, if the record has one. -/
  | sourceFingerprint
  /-- Whether all that the resource needs is there. -/
  | checkPreconditions
  /-- Create the resource and return its id. -/
  | create
  /-- Make the resource what the record declares. -/
  | update (id : String)
  /-- Read the resource. -/
  | get (id : Option String)
  /-- Delete the resource. -/
  | delete (id : Option String)
  /-- How to connect to the resource. -/
  | connectionInfo (remote : R)

/-- The value that a call returns when it does not fail. -/
def Call.Value {R : Type} : Call R → Type
  | .sourceFingerprint => Option String
  | .checkPreconditions => Unit
  | .create => String
  | .update _ => Unit
  | .get _ => R
  | .delete _ => Unit
  | .connectionInfo _ => ConnectionInfo

/-- The answer to a call. -/
abbrev Call.Answer {R : Type} (c : Call R) : Type :=
  Except OperatorError c.Value

/-- A computation that makes calls. -/
abbrev Calls (R : Type) (α : Type) := Program (Call R) Call.Answer α

namespace Calls

variable {R : Type}

/-- Asks for the fingerprint of the source secret. -/
def sourceFingerprint : Calls R (Except OperatorError (Option String)) :=
  .question Call.sourceFingerprint

/-- Asks whether all that the resource needs is there. -/
def checkPreconditions : Calls R (Except OperatorError Unit) :=
  .question Call.checkPreconditions

/-- Asks for the resource to be created. -/
def create : Calls R (Except OperatorError String) :=
  .question Call.create

/-- Asks for the resource to be made what the record declares. -/
def update (id : String) : Calls R (Except OperatorError Unit) :=
  .question (Call.update id)

/-- Asks for the resource. -/
def get (id : Option String) : Calls R (Except OperatorError R) :=
  .question (Call.get id)

/-- Asks for the resource to be deleted. -/
def delete (id : Option String) : Calls R (Except OperatorError Unit) :=
  .question (Call.delete id)

/-- Asks how to connect to the resource. -/
def connectionInfo (remote : R) : Calls R (Except OperatorError ConnectionInfo) :=
  .question (Call.connectionInfo remote)

end Calls

end ServiceOperator
