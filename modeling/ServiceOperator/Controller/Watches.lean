import ServiceOperator.Record.Basic

/-!
# What a controller watches

Besides the records of its kind a controller watches whatever those can refer to, so that they come
back when something changes that they wait for.
-/

namespace ServiceOperator

/-- The other objects that a controller watches. -/
structure Watches where
  /-- PostgreSQL and Kafka services. -/
  services : Bool
  databases : Bool
  serviceUsers : Bool
  projectVpcs : Bool
  /-- Secrets that hold passwords. -/
  sourceSecrets : Bool
  deriving DecidableEq, Repr

/-- Nothing is watched. -/
def Watches.none : Watches := ⟨false, false, false, false, false⟩

/-- What the controller of a kind watches. -/
def Kind.watches : Kind → Watches
  | postgreSql => { Watches.none with services := true, projectVpcs := true }
  | kafka => { Watches.none with services := true, projectVpcs := true }
  | serviceUser => { Watches.none with services := true, sourceSecrets := true }
  | connectionPool =>
    { Watches.none with services := true, databases := true, serviceUsers := true }
  | database => { Watches.none with services := true }
  | kafkaTopic => { Watches.none with services := true }
  | kafkaAcl => { Watches.none with services := true }
  | serviceIntegration => { Watches.none with services := true }
  | projectVpc => Watches.none

/-- An object whose changes a controller may watch. -/
inductive Watched where
  | record (r : Record)
  /-- A secret, of which the name and the namespace matter. -/
  | secret (namespaceName name : String)

/-- Whether a controller watches an object. -/
def Watches.covers (w : Watches) : Watched → Bool
  | .record r =>
    match r.kind with
    | .postgreSql => w.services
    | .kafka => w.services
    | .database => w.databases
    | .serviceUser => w.serviceUsers
    | .projectVpc => w.projectVpcs
    | _ => false
  | .secret _ _ => w.sourceSecrets

/-- The records, in order, that come back when an object changes. -/
def Watched.dependents (records : List Record) : Watched → List Record
  | .record r =>
    match r.provides? with
    | some provided => Record.dependentsOf provided records
    | none => []
  | .secret ns name => Record.usersOfSecret ns name records

end ServiceOperator
