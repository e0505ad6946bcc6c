import ServiceOperator.Error
import ServiceOperator.Program
import ServiceOperator.Record.Dependency

/-!
# Waiting for dependencies

The dependencies of a record are looked up in the order in which it declares them, and the first one
that is not ready decides. A declared record always counts before a resource that exists outside of
the declared ones, even when the record is not ready.
-/

namespace ServiceOperator

/-- A question about a dependency. -/
inductive Lookup where
  /-- How far the declared record is. -/
  | declared (dependency : Dependency)
  /-- How far the resource in a project is, declared or not. -/
  | external (project : String) (dependency : Dependency)
  deriving DecidableEq

/-- A program that looks dependencies up. -/
abbrev Lookups (α : Type) := Program Lookup (fun _ => Except OperatorError Readiness) α

/-- How far a dependency is. -/
def findDependency (project : String) (d : Dependency) :
    Lookups (Except OperatorError Readiness) := do
  match ← (.question (Lookup.declared d) : Lookups (Except OperatorError Readiness)) with
  | .ok .absent => .question (Lookup.external project d)
  | found => return found

/-- What the state of a dependency means for the record that needs it. -/
def Readiness.require (d : Dependency) : Readiness → Except OperatorError Unit
  | ready => .ok ()
  | notReady why => .error (.dependencyNotReady (d.describe ++ " is not ready: " ++ why))
  | absent => .error (.dependencyMissing (d.describe ++ " does not exist"))

/-- Whether all dependencies are ready, or the error of the first one that is not. -/
def ensureReady (project : String) : List Dependency → Lookups (Except OperatorError Unit)
  | [] => return .ok ()
  | d :: rest => do
    match (← findDependency project d).bind (Readiness.require d) with
    | .ok () => ensureReady project rest
    | .error e => return .error e

end ServiceOperator
