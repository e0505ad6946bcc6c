import ServiceOperator.Json.Decode
import ServiceOperator.Record.Kind

/-!
# Specifications

What a record declares, one type for each kind, and how it is read and written. Members that are
unset are left out when a specification is written, so that reading it gives the same one back.
-/

namespace ServiceOperator

open Json (Fields Decoder member?)
open Json.Decode

/-- A map of texts as a document. -/
def StringMap.encode {α : Type} (value : α → Json) (m : StringMap α) : Json :=
  .object (m.toList.map fun e => (e.1, value e.2))

/-- A reference to another record. -/
structure ResourceReference where
  name : String
  /-- The namespace of the referring record when unset. -/
  namespaceName : Option String
  deriving DecidableEq

namespace ResourceReference

def encode (r : ResourceReference) : Json :=
  .object (("name", .string r.name) :: member? "namespace" .string r.namespaceName)

def decode : Decoder ResourceReference := fun j => do
  let f ← Fields.of? ["name", "namespace"] j
  some { name := ← f.required "name" text, namespaceName := ← f.unset "namespace" text }

end ResourceReference

/-- Where connection info is written. -/
structure SecretTarget where
  /-- The name of the secret, that of the record when unset. -/
  name : Option String
  /-- What its keys begin with, the kind's own start when unset. -/
  keyStart : Option String
  annotations : Option (StringMap String)
  labels : Option (StringMap String)
  deriving DecidableEq

namespace SecretTarget

def encode (t : SecretTarget) : Json :=
  .object <|
    member? "name" .string t.name ++ member? "prefix" .string t.keyStart ++
    member? "annotations" (StringMap.encode .string) t.annotations ++
    member? "labels" (StringMap.encode .string) t.labels

def decode : Decoder SecretTarget := fun j => do
  let f ← Fields.of? ["name", "prefix", "annotations", "labels"] j
  some {
    name := ← f.unset "name" text
    keyStart := ← f.unset "prefix" text
    annotations := ← f.unset "annotations" (map text)
    labels := ← f.unset "labels" (map text) }

end SecretTarget

/-- Where a password comes from. -/
structure SecretSource where
  name : String
  /-- The namespace of the record when unset. -/
  namespaceName : Option String
  passwordKey : String
  deriving DecidableEq

namespace SecretSource

def encode (s : SecretSource) : Json :=
  .object <|
    [("name", .string s.name)] ++ member? "namespace" .string s.namespaceName ++
    [("passwordKey", .string s.passwordKey)]

def decode : Decoder SecretSource := fun j => do
  let f ← Fields.of? ["name", "namespace", "passwordKey"] j
  some {
    name := ← f.required "name" text
    namespaceName := ← f.unset "namespace" text
    passwordKey := ← f.required "passwordKey" text }

end SecretSource

/-- A service that a new service is integrated with from the start. -/
structure InitialIntegration where
  integrationType : String
  sourceServiceName : String
  deriving DecidableEq

namespace InitialIntegration

def encode (i : InitialIntegration) : Json :=
  .object [("integrationType", .string i.integrationType),
    ("sourceServiceName", .string i.sourceServiceName)]

def decode : Decoder InitialIntegration := fun j => do
  let f ← Fields.of? ["integrationType", "sourceServiceName"] j
  some {
    integrationType := ← f.required "integrationType" text
    sourceServiceName := ← f.required "sourceServiceName" text }

end InitialIntegration

/-- What services of every kind declare. -/
structure ServiceSpec where
  project : String
  plan : String
  cloudName : Option String
  /-- The record of the VPC that hosts the service. -/
  projectVpcRef : Option ResourceReference
  /-- The id of the VPC, when it has no record. -/
  projectVpcId : Option String
  /-- Whether the service runs, which it does when unset. -/
  powered : Option Bool
  terminationProtection : Option Bool
  diskSpace : Option String
  tags : Option (StringMap String)
  serviceIntegrations : Option (List InitialIntegration)
  /-- Configuration that is passed on unchanged. -/
  userConfig : Option (StringMap Json)
  secretTarget : Option SecretTarget
  secretTargetDisabled : Option Bool

namespace ServiceSpec

/-- The members of a service in its specification. -/
def encodeMembers (s : ServiceSpec) : List (String × Json) :=
  [("project", .string s.project), ("plan", .string s.plan)] ++
  member? "cloudName" .string s.cloudName ++
  member? "projectVPCRef" ResourceReference.encode s.projectVpcRef ++
  member? "projectVpcId" .string s.projectVpcId ++
  member? "powered" .bool s.powered ++
  member? "terminationProtection" .bool s.terminationProtection ++
  member? "diskSpace" .string s.diskSpace ++
  member? "tags" (StringMap.encode .string) s.tags ++
  member? "serviceIntegrations" (fun is => .array (is.map InitialIntegration.encode))
    s.serviceIntegrations ++
  member? "userConfig" (StringMap.encode id) s.userConfig ++
  member? "connInfoSecretTarget" SecretTarget.encode s.secretTarget ++
  member? "connInfoSecretTargetDisabled" .bool s.secretTargetDisabled

def fieldNames : List String :=
  ["project", "plan", "cloudName", "projectVPCRef", "projectVpcId", "powered",
    "terminationProtection", "diskSpace", "tags", "serviceIntegrations", "userConfig",
    "connInfoSecretTarget", "connInfoSecretTargetDisabled"]

/-- The service among the fields of its specification. -/
def ofFields? (f : Fields) : Option ServiceSpec := do
  some {
    project := ← f.required "project" text
    plan := ← f.required "plan" text
    cloudName := ← f.unset "cloudName" text
    projectVpcRef := ← f.unset "projectVPCRef" ResourceReference.decode
    projectVpcId := ← f.unset "projectVpcId" text
    powered := ← f.unset "powered" bool
    terminationProtection := ← f.unset "terminationProtection" bool
    diskSpace := ← f.unset "diskSpace" text
    tags := ← f.unset "tags" (map text)
    serviceIntegrations := ← f.unset "serviceIntegrations" (list InitialIntegration.decode)
    userConfig := ← f.unset "userConfig" (map any)
    secretTarget := ← f.unset "connInfoSecretTarget" SecretTarget.decode
    secretTargetDisabled := ← f.unset "connInfoSecretTargetDisabled" bool }

end ServiceSpec

/-- A PostgreSQL service. -/
structure PostgreSqlSpec where
  service : ServiceSpec
  /-- The service that this one is forked from. -/
  forkFromServiceName : Option String

namespace PostgreSqlSpec

def encode (s : PostgreSqlSpec) : Json :=
  .object (s.service.encodeMembers ++ member? "forkFromServiceName" .string s.forkFromServiceName)

def decode : Decoder PostgreSqlSpec := fun j => do
  let f ← Fields.ofObject? (ServiceSpec.fieldNames ++ ["forkFromServiceName"]) j
  some {
    service := ← ServiceSpec.ofFields? f
    forkFromServiceName := ← f.unset "forkFromServiceName" text }

end PostgreSqlSpec

/-- A Kafka service. -/
structure KafkaSpec where
  service : ServiceSpec
  /-- Whether the schema registry is switched on. -/
  karapace : Option Bool

namespace KafkaSpec

def encode (s : KafkaSpec) : Json :=
  .object (s.service.encodeMembers ++ member? "karapace" .bool s.karapace)

def decode : Decoder KafkaSpec := fun j => do
  let f ← Fields.ofObject? (ServiceSpec.fieldNames ++ ["karapace"]) j
  some {
    service := ← ServiceSpec.ofFields? f
    karapace := ← f.unset "karapace" bool }

end KafkaSpec

/-- A user of a service. -/
structure ServiceUserSpec where
  project : String
  serviceName : String
  /-- How the user proves to be who it is. -/
  authentication : Option String
  secretTarget : Option SecretTarget
  secretTargetDisabled : Option Bool
  /-- Where the password comes from, if it is not made up by the control plane. -/
  secretSource : Option SecretSource
  deriving DecidableEq

namespace ServiceUserSpec

def encode (s : ServiceUserSpec) : Json :=
  .object <|
    [("project", .string s.project), ("serviceName", .string s.serviceName)] ++
    member? "authentication" .string s.authentication ++
    member? "connInfoSecretTarget" SecretTarget.encode s.secretTarget ++
    member? "connInfoSecretTargetDisabled" .bool s.secretTargetDisabled ++
    member? "connInfoSecretSource" SecretSource.encode s.secretSource

def decode : Decoder ServiceUserSpec := fun j => do
  let f ← Fields.of? ["project", "serviceName", "authentication", "connInfoSecretTarget",
    "connInfoSecretTargetDisabled", "connInfoSecretSource"] j
  some {
    project := ← f.required "project" text
    serviceName := ← f.required "serviceName" text
    authentication := ← f.unset "authentication" text
    secretTarget := ← f.unset "connInfoSecretTarget" SecretTarget.decode
    secretTargetDisabled := ← f.unset "connInfoSecretTargetDisabled" bool
    secretSource := ← f.unset "connInfoSecretSource" SecretSource.decode }

end ServiceUserSpec

/-- A database of a service. -/
structure DatabaseSpec where
  project : String
  serviceName : String
  /-- The name of the database, that of the record when unset. -/
  databaseName : Option String
  lcCollate : Option String
  lcCtype : Option String
  terminationProtection : Option Bool
  deriving DecidableEq

namespace DatabaseSpec

def encode (s : DatabaseSpec) : Json :=
  .object <|
    [("project", .string s.project), ("serviceName", .string s.serviceName)] ++
    member? "databaseName" .string s.databaseName ++
    member? "lcCollate" .string s.lcCollate ++
    member? "lcCtype" .string s.lcCtype ++
    member? "terminationProtection" .bool s.terminationProtection

def decode : Decoder DatabaseSpec := fun j => do
  let f ← Fields.of? ["project", "serviceName", "databaseName", "lcCollate", "lcCtype",
    "terminationProtection"] j
  some {
    project := ← f.required "project" text
    serviceName := ← f.required "serviceName" text
    databaseName := ← f.unset "databaseName" text
    lcCollate := ← f.unset "lcCollate" text
    lcCtype := ← f.unset "lcCtype" text
    terminationProtection := ← f.unset "terminationProtection" bool }

end DatabaseSpec

/-- For how long a pool gives out one of its connections. -/
inductive PoolMode where
  | session
  | transaction
  | statement
  deriving DecidableEq, Repr

/-- The spelling of a mode. -/
def PoolMode.text : PoolMode → String
  | session => "session"
  | transaction => "transaction"
  | statement => "statement"

/-- All modes by their spelling. -/
def PoolMode.spellings : List (String × PoolMode) :=
  [PoolMode.session, .transaction, .statement].map fun m => (m.text, m)

/-- A pool of connections to a database. -/
structure ConnectionPoolSpec where
  project : String
  serviceName : String
  databaseName : String
  /-- The user as which the pool connects. -/
  username : String
  poolSize : Option Nat
  poolMode : Option PoolMode
  secretTarget : Option SecretTarget
  secretTargetDisabled : Option Bool
  deriving DecidableEq

namespace ConnectionPoolSpec

def encode (s : ConnectionPoolSpec) : Json :=
  .object <|
    [("project", .string s.project), ("serviceName", .string s.serviceName),
      ("databaseName", .string s.databaseName), ("username", .string s.username)] ++
    member? "poolSize" .ofNat s.poolSize ++
    member? "poolMode" (fun m => .string m.text) s.poolMode ++
    member? "connInfoSecretTarget" SecretTarget.encode s.secretTarget ++
    member? "connInfoSecretTargetDisabled" .bool s.secretTargetDisabled

def decode : Decoder ConnectionPoolSpec := fun j => do
  let f ← Fields.of? ["project", "serviceName", "databaseName", "username", "poolSize", "poolMode",
    "connInfoSecretTarget", "connInfoSecretTargetDisabled"] j
  some {
    project := ← f.required "project" text
    serviceName := ← f.required "serviceName" text
    databaseName := ← f.required "databaseName" text
    username := ← f.required "username" text
    poolSize := ← f.unset "poolSize" nat32
    poolMode := ← f.unset "poolMode" (choice PoolMode.spellings)
    secretTarget := ← f.unset "connInfoSecretTarget" SecretTarget.decode
    secretTargetDisabled := ← f.unset "connInfoSecretTargetDisabled" bool }

end ConnectionPoolSpec

/-- How a topic keeps its messages. -/
structure TopicConfig where
  retentionMs : Option Int
  cleanupPolicy : Option String
  minInsyncReplicas : Option Nat
  deriving DecidableEq

namespace TopicConfig

def encode (c : TopicConfig) : Json :=
  .object <|
    member? "retentionMs" .ofInt c.retentionMs ++
    member? "cleanupPolicy" .string c.cleanupPolicy ++
    member? "minInsyncReplicas" .ofNat c.minInsyncReplicas

def decode : Decoder TopicConfig := fun j => do
  let f ← Fields.of? ["retentionMs", "cleanupPolicy", "minInsyncReplicas"] j
  some {
    retentionMs := ← f.unset "retentionMs" int64
    cleanupPolicy := ← f.unset "cleanupPolicy" text
    minInsyncReplicas := ← f.unset "minInsyncReplicas" nat32 }

end TopicConfig

/-- A topic of a Kafka service. -/
structure KafkaTopicSpec where
  project : String
  serviceName : String
  /-- The name of the topic, that of the record when unset. -/
  topicName : Option String
  partitions : Nat
  replication : Nat
  config : Option TopicConfig
  tags : Option (StringMap String)
  terminationProtection : Option Bool
  deriving DecidableEq

namespace KafkaTopicSpec

def encode (s : KafkaTopicSpec) : Json :=
  .object <|
    [("project", .string s.project), ("serviceName", .string s.serviceName)] ++
    member? "topicName" .string s.topicName ++
    [("partitions", .ofNat s.partitions), ("replication", .ofNat s.replication)] ++
    member? "config" TopicConfig.encode s.config ++
    member? "tags" (StringMap.encode .string) s.tags ++
    member? "terminationProtection" .bool s.terminationProtection

def decode : Decoder KafkaTopicSpec := fun j => do
  let f ← Fields.of? ["project", "serviceName", "topicName", "partitions", "replication", "config",
    "tags", "terminationProtection"] j
  some {
    project := ← f.required "project" text
    serviceName := ← f.required "serviceName" text
    topicName := ← f.unset "topicName" text
    partitions := ← f.required "partitions" nat32
    replication := ← f.required "replication" nat32
    config := ← f.unset "config" TopicConfig.decode
    tags := ← f.unset "tags" (map text)
    terminationProtection := ← f.unset "terminationProtection" bool }

end KafkaTopicSpec

/-- What a user may do with a topic. -/
inductive Permission where
  | admin
  | read
  | readwrite
  | write
  deriving DecidableEq, Repr

/-- The spelling of a permission. -/
def Permission.text : Permission → String
  | admin => "admin"
  | read => "read"
  | readwrite => "readwrite"
  | write => "write"

/-- All permissions by their spelling. -/
def Permission.spellings : List (String × Permission) :=
  [Permission.admin, .read, .readwrite, .write].map fun p => (p.text, p)

/-- An entry in the access list of a Kafka service. -/
structure KafkaAclSpec where
  project : String
  serviceName : String
  permission : Permission
  topic : String
  username : String
  deriving DecidableEq

namespace KafkaAclSpec

def encode (s : KafkaAclSpec) : Json :=
  .object [("project", .string s.project), ("serviceName", .string s.serviceName),
    ("permission", .string s.permission.text), ("topic", .string s.topic),
    ("username", .string s.username)]

def decode : Decoder KafkaAclSpec := fun j => do
  let f ← Fields.of? ["project", "serviceName", "permission", "topic", "username"] j
  some {
    project := ← f.required "project" text
    serviceName := ← f.required "serviceName" text
    permission := ← f.required "permission" (choice Permission.spellings)
    topic := ← f.required "topic" text
    username := ← f.required "username" text }

end KafkaAclSpec

/-- A VPC of a project. -/
structure ProjectVpcSpec where
  project : String
  cloudName : String
  networkCidr : String
  deriving DecidableEq

namespace ProjectVpcSpec

def encode (s : ProjectVpcSpec) : Json :=
  .object [("project", .string s.project), ("cloudName", .string s.cloudName),
    ("networkCidr", .string s.networkCidr)]

def decode : Decoder ProjectVpcSpec := fun j => do
  let f ← Fields.of? ["project", "cloudName", "networkCidr"] j
  some {
    project := ← f.required "project" text
    cloudName := ← f.required "cloudName" text
    networkCidr := ← f.required "networkCidr" text }

end ProjectVpcSpec

/-- A link between two services. -/
structure ServiceIntegrationSpec where
  project : String
  integrationType : String
  sourceServiceName : String
  destinationServiceName : String
  /-- Configuration that is passed on unchanged. -/
  userConfig : Option (StringMap Json)

namespace ServiceIntegrationSpec

def encode (s : ServiceIntegrationSpec) : Json :=
  .object <|
    [("project", .string s.project), ("integrationType", .string s.integrationType),
      ("sourceServiceName", .string s.sourceServiceName),
      ("destinationServiceName", .string s.destinationServiceName)] ++
    member? "userConfig" (StringMap.encode id) s.userConfig

def decode : Decoder ServiceIntegrationSpec := fun j => do
  let f ← Fields.of? ["project", "integrationType", "sourceServiceName", "destinationServiceName",
    "userConfig"] j
  some {
    project := ← f.required "project" text
    integrationType := ← f.required "integrationType" text
    sourceServiceName := ← f.required "sourceServiceName" text
    destinationServiceName := ← f.required "destinationServiceName" text
    userConfig := ← f.unset "userConfig" (map any) }

end ServiceIntegrationSpec

/-- What a record of any kind declares. -/
inductive Spec where
  | postgreSql (spec : PostgreSqlSpec)
  | kafka (spec : KafkaSpec)
  | serviceUser (spec : ServiceUserSpec)
  | database (spec : DatabaseSpec)
  | connectionPool (spec : ConnectionPoolSpec)
  | kafkaTopic (spec : KafkaTopicSpec)
  | kafkaAcl (spec : KafkaAclSpec)
  | projectVpc (spec : ProjectVpcSpec)
  | serviceIntegration (spec : ServiceIntegrationSpec)

namespace Spec

/-- The kind of record that a specification belongs to. -/
def kind : Spec → Kind
  | postgreSql _ => .postgreSql
  | kafka _ => .kafka
  | serviceUser _ => .serviceUser
  | database _ => .database
  | connectionPool _ => .connectionPool
  | kafkaTopic _ => .kafkaTopic
  | kafkaAcl _ => .kafkaAcl
  | projectVpc _ => .projectVpc
  | serviceIntegration _ => .serviceIntegration

/-- A specification as a document. -/
def encode : Spec → Json
  | postgreSql s => s.encode
  | kafka s => s.encode
  | serviceUser s => s.encode
  | database s => s.encode
  | connectionPool s => s.encode
  | kafkaTopic s => s.encode
  | kafkaAcl s => s.encode
  | projectVpc s => s.encode
  | serviceIntegration s => s.encode

/-- The specification of a kind that a document writes. -/
def decode : Kind → Decoder Spec
  | .postgreSql => fun j => (PostgreSqlSpec.decode j).map .postgreSql
  | .kafka => fun j => (KafkaSpec.decode j).map .kafka
  | .serviceUser => fun j => (ServiceUserSpec.decode j).map .serviceUser
  | .database => fun j => (DatabaseSpec.decode j).map .database
  | .connectionPool => fun j => (ConnectionPoolSpec.decode j).map .connectionPool
  | .kafkaTopic => fun j => (KafkaTopicSpec.decode j).map .kafkaTopic
  | .kafkaAcl => fun j => (KafkaAclSpec.decode j).map .kafkaAcl
  | .projectVpc => fun j => (ProjectVpcSpec.decode j).map .projectVpc
  | .serviceIntegration => fun j => (ServiceIntegrationSpec.decode j).map .serviceIntegration

end Spec

end ServiceOperator
