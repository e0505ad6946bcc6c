import ServiceOperator.Json.Decode
import ServiceOperator.Record.Spec
import ServiceOperator.Word

/-!
# Documents of the control plane

What the control plane tells of services and of what lives on them. A document may have more
members than are listed; those that are needed have to have the right type.
-/

namespace ServiceOperator

open Json (Fields Decoder)
open Json.Decode

/-- Where a part of a service listens. -/
structure ServiceComponent where
  component : String
  host : String
  port : Nat
  route : Option String
  usage : Option String
  kafkaAuthenticationMethod : Option String
  deriving DecidableEq

namespace ServiceComponent

def decode : Decoder ServiceComponent := fun j => do
  let f ← Fields.of?
    ["component", "host", "port", "route", "usage", "kafka_authentication_method"] j
  some {
    component := ← f.required "component" text
    host := ← f.required "host" text
    port := ← f.required "port" nat16
    route := ← f.unset "route" text
    usage := ← f.unset "usage" text
    kafkaAuthenticationMethod := ← f.unset "kafka_authentication_method" text }

def encode (c : ServiceComponent) : Json :=
  .object [("component", .string c.component), ("host", .string c.host), ("port", .ofNat c.port),
    ("route", .ofText? c.route), ("usage", .ofText? c.usage),
    ("kafka_authentication_method", .ofText? c.kafkaAuthenticationMethod)]

end ServiceComponent

/-- A user of a service. -/
structure UserDocument where
  username : String
  password : Option String
  /-- What kind of user it is; the one that comes with the service is primary. -/
  userType : Option String
  authentication : Option String
  accessCert : Option String
  accessKey : Option String
  deriving DecidableEq

namespace UserDocument

def decode : Decoder UserDocument := fun j => do
  let f ← Fields.of?
    ["username", "password", "type", "authentication", "access_cert", "access_key"] j
  some {
    username := ← f.required "username" text
    password := ← f.unset "password" text
    userType := ← f.unset "type" text
    authentication := ← f.unset "authentication" text
    accessCert := ← f.unset "access_cert" text
    accessKey := ← f.unset "access_key" text }

/-- A user with every field. -/
def encode (u : UserDocument) : Json :=
  .object [("username", .string u.username), ("password", .ofText? u.password),
    ("user_type", .ofText? u.userType), ("authentication", .ofText? u.authentication),
    ("access_cert", .ofText? u.accessCert), ("access_key", .ofText? u.accessKey)]

end UserDocument

/-- A pool of connections. -/
structure PoolDocument where
  poolName : String
  database : String
  username : Option String
  poolMode : Option String
  poolSize : Option Nat
  connectionUri : Option String
  deriving DecidableEq

namespace PoolDocument

def decode : Decoder PoolDocument := fun j => do
  let f ← Fields.of?
    ["pool_name", "database", "username", "pool_mode", "pool_size", "connection_uri"] j
  some {
    poolName := ← f.required "pool_name" text
    database := ← f.required "database" text
    username := ← f.unset "username" text
    poolMode := ← f.unset "pool_mode" text
    poolSize := ← f.unset "pool_size" nat32
    connectionUri := ← f.unset "connection_uri" text }

def encode (p : PoolDocument) : Json :=
  .object [("pool_name", .string p.poolName), ("database", .string p.database),
    ("username", .ofText? p.username), ("pool_mode", .ofText? p.poolMode),
    ("pool_size", .ofOption .ofNat p.poolSize), ("connection_uri", .ofText? p.connectionUri)]

end PoolDocument

/-- A service with what lives on it. -/
structure ServiceDocument where
  serviceName : String
  serviceType : String
  state : String
  plan : Option String
  cloudName : Option String
  projectVpcId : Option String
  terminationProtection : Option Bool
  serviceUri : Option String
  serviceUriParams : StringMap String
  components : List ServiceComponent
  users : List UserDocument
  connectionPools : List PoolDocument
  tags : StringMap String
  deriving DecidableEq

namespace ServiceDocument

def decode : Decoder ServiceDocument := fun j => do
  let f ← Fields.of? ["service_name", "service_type", "state", "plan", "cloud_name",
    "project_vpc_id", "termination_protection", "service_uri", "service_uri_params", "components",
    "users", "connection_pools", "tags"] j
  some {
    serviceName := ← f.required "service_name" text
    serviceType := ← f.defaulted "service_type" text ""
    state := ← f.defaulted "state" text ""
    plan := ← f.unset "plan" text
    cloudName := ← f.unset "cloud_name" text
    projectVpcId := ← f.unset "project_vpc_id" text
    terminationProtection := ← f.unset "termination_protection" bool
    serviceUri := ← f.unset "service_uri" text
    serviceUriParams := ← f.defaulted "service_uri_params" (map text) .empty
    components := ← f.defaulted "components" (list ServiceComponent.decode) []
    users := ← f.defaulted "users" (list UserDocument.decode) []
    connectionPools := ← f.defaulted "connection_pools" (list PoolDocument.decode) []
    tags := ← f.defaulted "tags" (map text) .empty }

/-- A service with every field. -/
def encode (s : ServiceDocument) : Json :=
  .object [("service_name", .string s.serviceName), ("service_type", .string s.serviceType),
    ("state", .string s.state), ("plan", .ofText? s.plan), ("cloud_name", .ofText? s.cloudName),
    ("project_vpc_id", .ofText? s.projectVpcId),
    ("termination_protection", .ofOption .bool s.terminationProtection),
    ("service_uri", .ofText? s.serviceUri),
    ("service_uri_params", s.serviceUriParams.encode .string),
    ("components", .array (s.components.map ServiceComponent.encode)),
    ("users", .array (s.users.map UserDocument.encode)),
    ("connection_pools", .array (s.connectionPools.map PoolDocument.encode)),
    ("tags", s.tags.encode .string)]

/-- The component with a name, the one for primary use before any other. -/
def component? (s : ServiceDocument) (name : String) : Option ServiceComponent :=
  match s.components.find? fun c => c.component = name && c.usage = some "primary" with
  | some c => some c
  | none => s.components.find? fun c => c.component = name

/-- The component with a name and a way to authenticate. -/
def kafkaComponent? (s : ServiceDocument) (name method : String) : Option ServiceComponent :=
  s.components.find? fun c => c.component = name && c.kafkaAuthenticationMethod = some method

/-- The user with a name. -/
def user? (s : ServiceDocument) (username : String) : Option UserDocument :=
  s.users.find? fun u => u.username = username

/-- The pool with a name. -/
def pool? (s : ServiceDocument) (name : String) : Option PoolDocument :=
  s.connectionPools.find? fun p => p.poolName = name

end ServiceDocument

/-- A database of a service. -/
structure DatabaseDocument where
  databaseName : String
  lcCollate : Option String
  lcCtype : Option String
  deriving DecidableEq

namespace DatabaseDocument

def decode : Decoder DatabaseDocument := fun j => do
  let f ← Fields.of? ["database_name", "lc_collate", "lc_ctype"] j
  some {
    databaseName := ← f.required "database_name" text
    lcCollate := ← f.unset "lc_collate" text
    lcCtype := ← f.unset "lc_ctype" text }

def encode (d : DatabaseDocument) : Json :=
  .object [("database_name", .string d.databaseName), ("lc_collate", .ofText? d.lcCollate),
    ("lc_ctype", .ofText? d.lcCtype)]

end DatabaseDocument

/-- A topic of a Kafka service. -/
structure TopicDocument where
  topicName : String
  state : String
  replication : Nat
  /-- One item for each partition. -/
  partitions : List Json

namespace TopicDocument

def decode : Decoder TopicDocument := fun j => do
  let f ← Fields.of? ["topic_name", "state", "replication", "partitions"] j
  some {
    topicName := ← f.required "topic_name" text
    state := ← f.defaulted "state" text ""
    replication := ← f.defaulted "replication" nat32 0
    partitions := ← f.defaulted "partitions" (list any) [] }

def encode (t : TopicDocument) : Json :=
  .object [("topic_name", .string t.topicName), ("state", .string t.state),
    ("replication", .ofNat t.replication), ("partitions", .array t.partitions)]

/-- The number of partitions, as far as thirty-two bits go. -/
def partitionCount (t : TopicDocument) : Nat :=
  Nat.min t.partitions.length (Word.bound 32 - 1)

end TopicDocument

/-- An entry in an access list. -/
structure AclDocument where
  id : String
  permission : String
  topic : String
  username : String
  deriving DecidableEq

namespace AclDocument

def decode : Decoder AclDocument := fun j => do
  let f ← Fields.of? ["id", "permission", "topic", "username"] j
  some {
    id := ← f.required "id" text
    permission := ← f.required "permission" text
    topic := ← f.required "topic" text
    username := ← f.required "username" text }

def encode (a : AclDocument) : Json :=
  .object [("id", .string a.id), ("permission", .string a.permission), ("topic", .string a.topic),
    ("username", .string a.username)]

end AclDocument

/-- A VPC of a project. -/
structure VpcDocument where
  projectVpcId : String
  cloudName : String
  networkCidr : String
  state : String
  deriving DecidableEq

namespace VpcDocument

def decode : Decoder VpcDocument := fun j => do
  let f ← Fields.of? ["project_vpc_id", "cloud_name", "network_cidr", "state"] j
  some {
    projectVpcId := ← f.required "project_vpc_id" text
    cloudName := ← f.defaulted "cloud_name" text ""
    networkCidr := ← f.defaulted "network_cidr" text ""
    state := ← f.defaulted "state" text "" }

def encode (v : VpcDocument) : Json :=
  .object [("project_vpc_id", .string v.projectVpcId), ("cloud_name", .string v.cloudName),
    ("network_cidr", .string v.networkCidr), ("state", .string v.state)]

end VpcDocument

/-- A link between two services. -/
structure IntegrationDocument where
  id : String
  integrationType : String
  sourceService : String
  destService : String
  active : Bool
  enabled : Bool
  userConfig : StringMap Json

namespace IntegrationDocument

def decode : Decoder IntegrationDocument := fun j => do
  let f ← Fields.of? ["service_integration_id", "integration_type", "source_service",
    "dest_service", "active", "enabled", "user_config"] j
  some {
    id := ← f.required "service_integration_id" text
    integrationType := ← f.required "integration_type" text
    sourceService := ← f.required "source_service" text
    destService := ← f.required "dest_service" text
    active := ← f.defaulted "active" bool false
    enabled := ← f.defaulted "enabled" bool false
    userConfig := ← f.defaulted "user_config" (map any) .empty }

def encode (i : IntegrationDocument) : Json :=
  .object [("service_integration_id", .string i.id),
    ("integration_type", .string i.integrationType),
    ("source_service", .string i.sourceService), ("dest_service", .string i.destService),
    ("active", .bool i.active), ("enabled", .bool i.enabled),
    ("user_config", i.userConfig.encode fun j => j)]

end IntegrationDocument

end ServiceOperator
