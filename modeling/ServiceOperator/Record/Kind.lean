/-!
# Kinds of records

The nine kinds of records that are kept in step with the control plane.
-/

namespace ServiceOperator

/-- A kind of record. -/
inductive Kind where
  | postgreSql
  | kafka
  | serviceUser
  | database
  | connectionPool
  | kafkaTopic
  | kafkaAcl
  | projectVpc
  | serviceIntegration
  deriving DecidableEq, Repr

namespace Kind

/-- The name of a kind. -/
def name : Kind → String
  | postgreSql => "PostgreSQL"
  | kafka => "Kafka"
  | serviceUser => "ServiceUser"
  | database => "Database"
  | connectionPool => "ConnectionPool"
  | kafkaTopic => "KafkaTopic"
  | kafkaAcl => "KafkaACL"
  | projectVpc => "ProjectVPC"
  | serviceIntegration => "ServiceIntegration"

/-- All kinds, in the order in which their manifests are written. -/
def all : List Kind :=
  [postgreSql, kafka, serviceUser, database, connectionPool, kafkaTopic, kafkaAcl, projectVpc,
    serviceIntegration]

/-- The kind with a name. -/
def ofName? (n : String) : Option Kind :=
  all.find? fun k => k.name = n

/-- The name of the collection of a kind in request paths. -/
def plural (k : Kind) : String :=
  k.name.toLower ++ "s"

/-- What the keys of a connection secret begin with, for a kind that has connection info. -/
def secretKeyStart? : Kind → Option String
  | postgreSql => some "POSTGRESQL_"
  | kafka => some "KAFKA_"
  | serviceUser => some "SERVICEUSER_"
  | connectionPool => some "CONNECTIONPOOL_"
  | _ => none

theorem mem_all (k : Kind) : k ∈ all := by
  cases k <;> decide

end Kind

/-- The group of the records in Kubernetes. -/
def apiGroup : String := "msop.dev"

/-- The version of the records in Kubernetes. -/
def apiVersion : String := "v1alpha1"

end ServiceOperator
