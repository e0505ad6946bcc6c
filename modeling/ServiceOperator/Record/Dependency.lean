/-!
# Dependencies

What one record needs from others, and how far what it needs is.
-/

namespace ServiceOperator

/-- What a record depends on, within a namespace. -/
inductive DependencyTarget where
  | service (name : String)
  | projectVpc (name : String)
  | database (service name : String)
  | serviceUser (service name : String)
  deriving DecidableEq, Repr

/-- What a record depends on. -/
structure Dependency where
  /-- The namespace in which it is declared. -/
  namespaceName : String
  target : DependencyTarget
  deriving DecidableEq, Repr

namespace Dependency

/-- A dependency on a service. -/
def service (ns name : String) : Dependency := ⟨ns, .service name⟩

/-- A dependency on a VPC. -/
def projectVpc (ns name : String) : Dependency := ⟨ns, .projectVpc name⟩

/-- A dependency on a database of a service. -/
def database (ns service name : String) : Dependency := ⟨ns, .database service name⟩

/-- A dependency on a user of a service. -/
def serviceUser (ns service name : String) : Dependency := ⟨ns, .serviceUser service name⟩

/-- A dependency in words. -/
def describe (d : Dependency) : String :=
  match d.target with
  | .service name => "service " ++ d.namespaceName ++ "/" ++ name
  | .projectVpc name => "ProjectVPC " ++ d.namespaceName ++ "/" ++ name
  | .database service name =>
    "database " ++ name ++ " on service " ++ d.namespaceName ++ "/" ++ service
  | .serviceUser service name =>
    "user " ++ name ++ " on service " ++ d.namespaceName ++ "/" ++ service

end Dependency

/-- How far a dependency is. -/
inductive Readiness where
  | ready
  /-- It exists, but cannot be used yet. -/
  | notReady (why : String)
  /-- It does not exist. -/
  | absent
  deriving DecidableEq, Repr

end ServiceOperator
