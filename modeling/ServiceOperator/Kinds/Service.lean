import ServiceOperator.ControlPlane.DiskSpace
import ServiceOperator.Kinds.Adapter

/-!
# Services

PostgreSQL and Kafka services are named by their records and differ in their type, in a few settings
and in how one connects to them.
-/

namespace ServiceOperator

/-- What one kind of service adds to what all services declare. -/
structure ServiceFlavour where
  /-- The type of the service on the control plane. -/
  serviceType : String
  /-- The configuration that is sent with every request. -/
  userConfig : StringMap Json
  /-- The configuration that is sent with the request that creates. -/
  createUserConfig : StringMap Json
  /-- How to connect to a service whose project has a certificate. -/
  connectionInfo : ServiceDocument → String → Except OperatorError ConnectionInfo

namespace PostgreSqlSpec

/-- How to connect to a PostgreSQL service. -/
def connectionInfo (s : ServiceDocument) (ca : String) : Except OperatorError ConnectionInfo := do
  let params := s.serviceUriParams
  let host ← required s "HOST" (params.get? "host")
  let port ← required s "PORT" (params.get? "port")
  let database ← required s "DATABASE" (params.get? "dbname")
  let user ← required s "USER" (params.get? "user")
  let password ← required s "PASSWORD" (params.get? "password")
  let uri ← required s "DATABASE_URI" s.serviceUri
  return .ofList [("HOST", host), ("PORT", port), ("DATABASE", database), ("USER", user),
    ("PASSWORD", password), ("SSLMODE", (params.get? "sslmode").getD defaultSslMode),
    ("DATABASE_URI", uri), ("CA_CERT", ca)]

/-- What PostgreSQL services add. A new one may start as a fork of another. -/
def flavour (s : PostgreSqlSpec) : ServiceFlavour :=
  let config := s.service.userConfig.getD .empty
  { serviceType := "pg"
    userConfig := config
    createUserConfig :=
      match s.forkFromServiceName with
      | some source => config.insert "service_to_fork_from" (.string source)
      | none => config
    connectionInfo := connectionInfo }

end PostgreSqlSpec

namespace KafkaSpec

/-- How to connect to a Kafka service, as its primary user or else its first one. -/
def connectionInfo (s : ServiceDocument) (ca : String) : Except OperatorError ConnectionInfo := do
  let kafka := (s.kafkaComponent? "kafka" "certificate").or (s.component? "kafka")
  let admin := (s.users.find? fun u => u.userType = some "primary").or s.users.head?
  let host ← required s "HOST" (kafka.map ServiceComponent.host)
  let port ← required s "PORT" (kafka.map fun c => toString c.port)
  let username ← required s "USERNAME" (admin.map UserDocument.username)
  let password ← required s "PASSWORD" (admin.bind UserDocument.password)
  return .ofList <|
    [("HOST", host), ("PORT", port), ("USERNAME", username), ("PASSWORD", password)] ++
    optional "ACCESS_CERT" (admin.bind UserDocument.accessCert) ++
    optional "ACCESS_KEY" (admin.bind UserDocument.accessKey) ++
    [("CA_CERT", ca)] ++
    endpoint "SASL_HOST" "SASL_PORT" (s.kafkaComponent? "kafka" "sasl") ++
    endpoint "SCHEMA_REGISTRY_HOST" "SCHEMA_REGISTRY_PORT" (s.component? "schema_registry") ++
    endpoint "REST_HOST" "REST_PORT" (s.component? "kafka_rest")

/-- What Kafka services add. -/
def flavour (s : KafkaSpec) : ServiceFlavour :=
  let config := s.service.userConfig.getD .empty
  let config :=
    match s.karapace with
    | some on => config.insert "schema_registry" (.bool on)
    | none => config
  { serviceType := "kafka"
    userConfig := config
    createUserConfig := config
    connectionInfo := connectionInfo }

end KafkaSpec

/-- The state of a service that is switched off. -/
def poweredOffState : String := "POWEROFF"

namespace ServiceSpec

/-- The service shall run. -/
def wantsPower (s : ServiceSpec) : Bool := s.powered.getD true

/-- The declared disk space in MiB. -/
def diskSpaceMb (s : ServiceSpec) : Except OperatorError (Option Nat) :=
  match s.diskSpace with
  | some text => (DiskSpace.parse text).map some
  | none => .ok none

/-- The body that creates the service. -/
def createRequest (s : ServiceSpec) (flavour : ServiceFlavour) (name : String)
    (vpcId : Option String) : Except OperatorError CreateService :=
  s.diskSpaceMb.map fun disk =>
    { serviceName := name
      serviceType := flavour.serviceType
      plan := s.plan
      cloud := s.cloudName
      projectVpcId := vpcId
      terminationProtection := s.terminationProtection
      diskSpaceMb := disk
      tags := s.tags.getD .empty
      serviceIntegrations := s.serviceIntegrations.getD []
      userConfig := flavour.createUserConfig }

/-- The body that changes the service. -/
def updateRequest (s : ServiceSpec) (flavour : ServiceFlavour) (vpcId : Option String) :
    Except OperatorError UpdateService :=
  s.diskSpaceMb.map fun disk =>
    { plan := s.plan
      cloud := s.cloudName
      projectVpcId := vpcId
      powered := s.wantsPower
      terminationProtection := s.terminationProtection
      diskSpaceMb := disk
      userConfig := flavour.userConfig }

/-- The service is in the state in which it shall be. -/
def isSettled (s : ServiceSpec) (d : ServiceDocument) : Bool :=
  d.state = if s.wantsPower then runningState else poweredOffState

/-- The service came to rest in the opposite of the state in which it shall be. -/
def isOpposed (s : ServiceSpec) (d : ServiceDocument) : Bool :=
  d.state = if s.wantsPower then poweredOffState else runningState

/-- What a pass reads off a service. -/
def profile (s : ServiceSpec) (flavour : ServiceFlavour) : Profile ServiceDocument where
  identity := .name
  requiresReplace := false
  isReady := s.isSettled
  observedState := ServiceDocument.state
  remoteId := ServiceDocument.serviceName
  matchesExisting d := d.serviceType = flavour.serviceType
  needsUpdate := s.isOpposed

/-- The id of the VPC that hosts the service: that of the referenced record, or the given one. -/
def vpcId (s : ServiceSpec) (ns : String) : Action (Option String) :=
  match s.projectVpcRef with
  | some reference => return some (← resolveVpc ns reference)
  | none => return s.projectVpcId

end ServiceSpec

/-- The adapter of a service. -/
def serviceAdapter (base : Url) (r : Record) (s : ServiceSpec) (flavour : ServiceFlavour) :
    Adapter ServiceDocument where
  profile := s.profile flavour
  sourceFingerprint := r.currentFingerprint
  checkPreconditions := r.ensureDependencies base
  create := do
    let vpcId ← s.vpcId r.namespaceName
    let request ← Action.ofExcept (s.createRequest flavour r.name vpcId)
    return (← ControlPlane.createService base s.project request).serviceName
  update id := do
    let vpcId ← s.vpcId r.namespaceName
    let request ← Action.ofExcept (s.updateRequest flavour vpcId)
    let _ ← ControlPlane.updateService base s.project id request
  get id := ControlPlane.getService base s.project (id.getD r.name)
  delete id := ControlPlane.deleteService base s.project (id.getD r.name)
  connectionInfo d := do
    let ca ← ControlPlane.getProjectCa base s.project
    Action.ofExcept (flavour.connectionInfo d ca)
  encode := ServiceDocument.encode

end ServiceOperator
