import ServiceOperator.Record.Spec

/-!
# Bodies of requests to the control plane

What is sent to create and to change things. Parts that are unset or empty are left out.
-/

namespace ServiceOperator

open Json (member?)

/-- A map that is left out of a body when it is empty. -/
def mapMember {α : Type} (key : String) (value : α → Json) (m : StringMap α) :
    List (String × Json) :=
  if m.isEmpty then [] else [(key, m.encode value)]

/-- A list that is left out of a body when it is empty. -/
def listMember {α : Type} (key : String) (value : α → Json) (l : List α) : List (String × Json) :=
  if l.isEmpty then [] else [(key, .array (l.map value))]

/-- Creates a service. -/
structure CreateService where
  serviceName : String
  serviceType : String
  plan : String
  cloud : Option String
  projectVpcId : Option String
  terminationProtection : Option Bool
  diskSpaceMb : Option Nat
  tags : StringMap String
  serviceIntegrations : List InitialIntegration
  userConfig : StringMap Json

def CreateService.encode (r : CreateService) : Json :=
  .object <|
    [("service_name", .string r.serviceName), ("service_type", .string r.serviceType),
      ("plan", .string r.plan)] ++
    member? "cloud" .string r.cloud ++
    member? "project_vpc_id" .string r.projectVpcId ++
    member? "termination_protection" .bool r.terminationProtection ++
    member? "disk_space_mb" .ofNat r.diskSpaceMb ++
    mapMember "tags" .string r.tags ++
    listMember "service_integrations" (fun i => .object
      [("integration_type", .string i.integrationType),
        ("source_service", .string i.sourceServiceName)])
      r.serviceIntegrations ++
    mapMember "user_config" id r.userConfig

/-- Changes a service. -/
structure UpdateService where
  plan : String
  cloud : Option String
  projectVpcId : Option String
  powered : Bool
  terminationProtection : Option Bool
  diskSpaceMb : Option Nat
  userConfig : StringMap Json

def UpdateService.encode (r : UpdateService) : Json :=
  .object <|
    [("plan", .string r.plan)] ++
    member? "cloud" .string r.cloud ++
    member? "project_vpc_id" .string r.projectVpcId ++
    [("powered", .bool r.powered)] ++
    member? "termination_protection" .bool r.terminationProtection ++
    member? "disk_space_mb" .ofNat r.diskSpaceMb ++
    mapMember "user_config" id r.userConfig

/-- Creates a user. -/
structure CreateUser where
  username : String
  authentication : Option String
  deriving DecidableEq

def CreateUser.encode (r : CreateUser) : Json :=
  .object (("username", .string r.username) :: member? "authentication" .string r.authentication)

/-- Changes a user. -/
inductive ModifyUser where
  /-- Sets a password, or has a new one made up. -/
  | resetCredentials (newPassword : Option String)
  /-- Sets how the user proves to be who it is. -/
  | setAuthentication (authentication : String)
  deriving DecidableEq

def ModifyUser.encode : ModifyUser → Json
  | resetCredentials newPassword =>
    .object (("operation", .string "reset-credentials") ::
      member? "new_password" .string newPassword)
  | setAuthentication authentication =>
    .object [("operation", .string "set-access-control"),
      ("authentication", .string authentication)]

/-- Creates a database. -/
structure CreateDatabase where
  database : String
  lcCollate : Option String
  lcCtype : Option String
  deriving DecidableEq

def CreateDatabase.encode (r : CreateDatabase) : Json :=
  .object <|
    [("database", .string r.database)] ++
    member? "lc_collate" .string r.lcCollate ++
    member? "lc_ctype" .string r.lcCtype

/-- Creates a pool, which has a name then, or changes one. -/
structure PoolBody where
  poolName : Option String
  database : String
  username : String
  poolSize : Nat
  poolMode : String
  deriving DecidableEq

def PoolBody.encode (r : PoolBody) : Json :=
  .object <|
    member? "pool_name" .string r.poolName ++
    [("database", .string r.database), ("username", .string r.username),
      ("pool_size", .ofNat r.poolSize), ("pool_mode", .string r.poolMode)]

/-- Creates a topic, which has a name then, or changes one. -/
structure TopicBody where
  topicName : Option String
  partitions : Nat
  replication : Nat
  config : TopicConfig
  tags : List (String × String)
  terminationProtection : Option Bool
  deriving DecidableEq

/-- The members of a topic's configuration as they are sent. -/
def TopicConfig.bodyMembers (c : TopicConfig) : List (String × Json) :=
  member? "retention_ms" .ofInt c.retentionMs ++
  member? "cleanup_policy" .string c.cleanupPolicy ++
  member? "min_insync_replicas" .ofNat c.minInsyncReplicas

def TopicBody.encode (r : TopicBody) : Json :=
  .object <|
    member? "topic_name" .string r.topicName ++
    [("partitions", .ofNat r.partitions), ("replication", .ofNat r.replication)] ++
    (if r.config.bodyMembers.isEmpty then [] else [("config", .object r.config.bodyMembers)]) ++
    listMember "tags" (fun t => .object [("key", .string t.1), ("value", .string t.2)]) r.tags ++
    member? "termination_protection" .bool r.terminationProtection

/-- Creates an entry in an access list. -/
structure CreateAcl where
  permission : String
  topic : String
  username : String
  deriving DecidableEq

def CreateAcl.encode (r : CreateAcl) : Json :=
  .object [("permission", .string r.permission), ("topic", .string r.topic),
    ("username", .string r.username)]

/-- Creates a VPC. -/
structure CreateVpc where
  cloudName : String
  networkCidr : String
  peeringConnections : List Json

def CreateVpc.encode (r : CreateVpc) : Json :=
  .object [("cloud_name", .string r.cloudName), ("network_cidr", .string r.networkCidr),
    ("peering_connections", .array r.peeringConnections)]

/-- Creates a link between two services. -/
structure CreateIntegration where
  integrationType : String
  sourceService : String
  destService : String
  userConfig : StringMap Json

def CreateIntegration.encode (r : CreateIntegration) : Json :=
  .object <|
    [("integration_type", .string r.integrationType), ("source_service", .string r.sourceService),
      ("dest_service", .string r.destService)] ++
    mapMember "user_config" id r.userConfig

/-- Changes a link between two services. -/
structure UpdateIntegration where
  userConfig : StringMap Json

def UpdateIntegration.encode (r : UpdateIntegration) : Json :=
  .object [("user_config", r.userConfig.encode id)]

end ServiceOperator
