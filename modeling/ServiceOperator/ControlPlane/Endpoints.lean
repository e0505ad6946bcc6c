import ServiceOperator.ControlPlane.Client
import ServiceOperator.ControlPlane.Document
import ServiceOperator.ControlPlane.RequestBody

/-!
# What the control plane offers

One function for each thing that the control plane does with services, users, databases, pools,
topics, access lists, VPCs and links. Things that have no address of their own are looked up in the
list or the service that holds them.
-/

namespace ServiceOperator.ControlPlane

/-- A document inside another under one member. -/
def inside {α : Type} (key : String) (d : Json.Decoder α) : Json.Decoder α := fun j => do
  (← Json.Fields.of? [key] j).required key d

/-- A list inside a document under one member, which may be missing. -/
def listInside {α : Type} (key : String) (d : Json.Decoder α) : Json.Decoder (List α) := fun j => do
  (← Json.Fields.of? [key] j).defaulted key (Json.Decode.list d) []

/-- The first item of a list that satisfies a test, or the error that there is none. -/
def findOr {α : Type} (missing : OperatorError) (p : α → Bool) (l : List α) : Action α :=
  match l.find? p with
  | some a => return a
  | none => Action.fail missing

variable (base : Url)

/-- The address of a service. -/
def servicePath (project service : String) : List String :=
  ["project", project, "service", service]

/-- A service in words. -/
def serviceText (service : String) : String := "service " ++ service

def createService (project : String) (r : CreateService) : Action ServiceDocument :=
  fetch base ⟨.post, ["project", project, "service"], some r.encode, serviceText r.serviceName⟩
    (inside "service" ServiceDocument.decode)

def getService (project service : String) : Action ServiceDocument :=
  fetch base ⟨.get, servicePath project service, none, serviceText service⟩
    (inside "service" ServiceDocument.decode)

def updateService (project service : String) (r : UpdateService) : Action ServiceDocument :=
  fetch base ⟨.put, servicePath project service, some r.encode, serviceText service⟩
    (inside "service" ServiceDocument.decode)

def deleteService (project service : String) : Action Unit :=
  perform base ⟨.delete, servicePath project service, none, serviceText service⟩

/-- The certificate that all services of a project share. -/
def getProjectCa (project : String) : Action String :=
  fetch base
    ⟨.get, ["project", project, "kms", "ca"], none, "CA certificate of project " ++ project⟩
    (inside "certificate" Json.Decode.text)

/-- A user in words. -/
def userText (username service : String) : String :=
  "user " ++ username ++ " on service " ++ service

/-- The address of a user. -/
def userPath (project service username : String) : List String :=
  servicePath project service ++ ["user", username]

def createUser (project service : String) (r : CreateUser) : Action UserDocument :=
  fetch base ⟨.post, servicePath project service ++ ["user"], some r.encode,
    userText r.username service⟩ (inside "user" UserDocument.decode)

def getUser (project service username : String) : Action UserDocument :=
  fetch base ⟨.get, userPath project service username, none, userText username service⟩
    (inside "user" UserDocument.decode)

def modifyUser (project service username : String) (r : ModifyUser) : Action Unit :=
  perform base ⟨.put, userPath project service username, some r.encode, userText username service⟩

def deleteUser (project service username : String) : Action Unit :=
  perform base ⟨.delete, userPath project service username, none, userText username service⟩

/-- A database in words. -/
def databaseText (database service : String) : String :=
  "database " ++ database ++ " on service " ++ service

def listDatabases (project service : String) : Action (List DatabaseDocument) :=
  fetch base ⟨.get, servicePath project service ++ ["db"], none, "databases of service " ++ service⟩
    (listInside "databases" DatabaseDocument.decode)

def getDatabase (project service database : String) : Action DatabaseDocument := do
  findOr (.notFound (databaseText database service)) (fun d => d.databaseName = database)
    (← listDatabases base project service)

def createDatabase (project service : String) (r : CreateDatabase) : Action Unit :=
  perform base ⟨.post, servicePath project service ++ ["db"], some r.encode,
    databaseText r.database service⟩

def deleteDatabase (project service database : String) : Action Unit :=
  perform base ⟨.delete, servicePath project service ++ ["db", database], none,
    databaseText database service⟩

/-- A pool in words. -/
def poolText (pool service : String) : String :=
  "connection pool " ++ pool ++ " on service " ++ service

/-- The address of a pool. -/
def poolPath (project service pool : String) : List String :=
  servicePath project service ++ ["connection_pool", pool]

def getConnectionPool (project service pool : String) : Action PoolDocument := do
  let s ← getService base project service
  findOr (.notFound (poolText pool service)) (fun p => p.poolName = pool) s.connectionPools

def createConnectionPool (project service : String) (r : PoolBody) : Action Unit :=
  perform base ⟨.post, servicePath project service ++ ["connection_pool"], some r.encode,
    poolText (r.poolName.getD "") service⟩

def updateConnectionPool (project service pool : String) (r : PoolBody) : Action Unit :=
  perform base ⟨.put, poolPath project service pool, some r.encode, poolText pool service⟩

def deleteConnectionPool (project service pool : String) : Action Unit :=
  perform base ⟨.delete, poolPath project service pool, none, poolText pool service⟩

/-- A topic in words. -/
def topicText (topic service : String) : String :=
  "topic " ++ topic ++ " on service " ++ service

/-- The address of a topic. -/
def topicPath (project service topic : String) : List String :=
  servicePath project service ++ ["topic", topic]

def createTopic (project service : String) (r : TopicBody) : Action Unit :=
  perform base ⟨.post, servicePath project service ++ ["topic"], some r.encode,
    topicText (r.topicName.getD "") service⟩

def getTopic (project service topic : String) : Action TopicDocument :=
  fetch base ⟨.get, topicPath project service topic, none, topicText topic service⟩
    (inside "topic" TopicDocument.decode)

def updateTopic (project service topic : String) (r : TopicBody) : Action Unit :=
  perform base ⟨.put, topicPath project service topic, some r.encode, topicText topic service⟩

def deleteTopic (project service topic : String) : Action Unit :=
  perform base ⟨.delete, topicPath project service topic, none, topicText topic service⟩

/-- An entry of an access list, by its id, in words. -/
def aclText (id service : String) : String :=
  "ACL " ++ id ++ " on service " ++ service

/-- What a new entry of an access list grants, in words. -/
def grantText (r : CreateAcl) (service : String) : String :=
  aclText (r.username ++ ":" ++ r.topic ++ ":" ++ r.permission) service

/-- An entry that grants just what a request asks for. -/
def CreateAcl.isGrantedBy (r : CreateAcl) (a : AclDocument) : Bool :=
  a.permission = r.permission && a.topic = r.topic && a.username = r.username

def listAcls (project service : String) : Action (List AclDocument) :=
  fetch base ⟨.get, servicePath project service ++ ["acl"], none, "ACLs of service " ++ service⟩
    (listInside "acl" AclDocument.decode)

def getAcl (project service id : String) : Action AclDocument := do
  findOr (.notFound (aclText id service)) (fun a => a.id = id) (← listAcls base project service)

/-- Creates an entry; the answer is the whole list, which has to hold it. -/
def createAcl (project service : String) (r : CreateAcl) : Action AclDocument := do
  let acls ← fetch base ⟨.post, servicePath project service ++ ["acl"], some r.encode,
    grantText r service⟩ (listInside "acl" AclDocument.decode)
  findOr (.transport (grantText r service ++ " missing from create response"))
    (CreateAcl.isGrantedBy r) acls

def deleteAcl (project service id : String) : Action Unit :=
  perform base ⟨.delete, servicePath project service ++ ["acl", id], none, aclText id service⟩

/-- A VPC in words. -/
def vpcText (id : String) : String := "VPC " ++ id

def createVpc (project : String) (r : CreateVpc) : Action VpcDocument :=
  fetch base ⟨.post, ["project", project, "vpcs"], some r.encode,
    vpcText (r.networkCidr ++ " in " ++ r.cloudName)⟩ VpcDocument.decode

def getVpc (project id : String) : Action VpcDocument :=
  fetch base ⟨.get, ["project", project, "vpcs", id], none, vpcText id⟩ VpcDocument.decode

def listVpcs (project : String) : Action (List VpcDocument) :=
  fetch base ⟨.get, ["project", project, "vpcs"], none, "VPCs of project " ++ project⟩
    (listInside "vpcs" VpcDocument.decode)

def deleteVpc (project id : String) : Action Unit :=
  perform base ⟨.delete, ["project", project, "vpcs", id], none, vpcText id⟩

/-- A link by its id in words. -/
def integrationText (id : String) : String := "integration " ++ id

/-- A link by its ends in words. -/
def linkText (type source dest : String) : String :=
  type ++ " integration " ++ source ++ " -> " ++ dest

def createIntegration (project : String) (r : CreateIntegration) : Action IntegrationDocument :=
  fetch base ⟨.post, ["project", project, "integration"], some r.encode,
    linkText r.integrationType r.sourceService r.destService⟩
    (inside "service_integration" IntegrationDocument.decode)

def getIntegration (project id : String) : Action IntegrationDocument :=
  fetch base ⟨.get, ["project", project, "integration", id], none, integrationText id⟩
    (inside "service_integration" IntegrationDocument.decode)

def updateIntegration (project id : String) (r : UpdateIntegration) : Action IntegrationDocument :=
  fetch base ⟨.put, ["project", project, "integration", id], some r.encode, integrationText id⟩
    (inside "service_integration" IntegrationDocument.decode)

def deleteIntegration (project id : String) : Action Unit :=
  perform base ⟨.delete, ["project", project, "integration", id], none, integrationText id⟩

def listServiceIntegrations (project service : String) : Action (List IntegrationDocument) :=
  fetch base ⟨.get, servicePath project service ++ ["integration"], none,
    "integrations of service " ++ service⟩
    (listInside "service_integrations" IntegrationDocument.decode)

end ServiceOperator.ControlPlane
