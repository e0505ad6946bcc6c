import Mathlib.Logic.Basic
import ServiceOperator.Kinds.Adapters
import ServiceOperator.Proofs.Kinds.ServiceEdits

/-!
# What a record asks for and what it takes for its own

The bodies that are sent and the profile that a resource is judged by are made from one
specification, each with its own defaults.  They have to agree: a record must take over the resource
that its own create made, must find that it fits, and must not find that it has to be updated over
and over.

* A document echoes a body if it shows what the body asks for (`Spec.EchoedBy`), one relation for
  each body.  It may show anything else besides, such as the id and the state, and whatever the body
  leaves open.
* What an update of a service asks for is a state of rest, and the document of a service is judged
  by that state alone (`UpdateService.Judges`): settled, opposed, or on the way.

`requests_agree` puts them together for all kinds.

### What is compared

Bodies and profiles never meet in the code: a body is encoded and sent, and a profile judges what is
decoded later.  What stands between them is a document, so agreement is stated for all documents
that echo a body, and each body has its echo field by field.  `ShownIfAsked` is the relation of an
optional field: what was not asked for may be shown as anything.  For the drift of services the
document is reduced to its state, as the profile of a service looks at nothing else.
-/

namespace ServiceOperator

/-- What is asked for is shown, if it is asked for. -/
def ShownIfAsked {α : Type} (asked shown : Option α) : Prop :=
  ∀ value, asked = some value → shown = some value

/-! ## Documents that echo a body -/

structure CreateService.EchoedBy (body : CreateService) (d : ServiceDocument) : Prop where
  serviceName : d.serviceName = body.serviceName
  serviceType : d.serviceType = body.serviceType
  plan : d.plan = some body.plan
  cloud : ShownIfAsked body.cloud d.cloudName
  projectVpcId : ShownIfAsked body.projectVpcId d.projectVpcId
  terminationProtection : ShownIfAsked body.terminationProtection d.terminationProtection
  tags : d.tags = body.tags

structure CreateUser.EchoedBy (body : CreateUser) (u : UserDocument) : Prop where
  username : u.username = body.username
  authentication : ShownIfAsked body.authentication u.authentication

structure CreateDatabase.EchoedBy (body : CreateDatabase) (d : DatabaseDocument) : Prop where
  database : d.databaseName = body.database
  lcCollate : ShownIfAsked body.lcCollate d.lcCollate
  lcCtype : ShownIfAsked body.lcCtype d.lcCtype

structure PoolBody.EchoedBy (body : PoolBody) (p : PoolDocument) : Prop where
  poolName : ShownIfAsked body.poolName (some p.poolName)
  database : p.database = body.database
  username : p.username = some body.username
  poolSize : p.poolSize = some body.poolSize
  poolMode : p.poolMode = some body.poolMode

structure TopicBody.EchoedBy (body : TopicBody) (t : TopicDocument) : Prop where
  topicName : ShownIfAsked body.topicName (some t.topicName)
  partitions : t.partitionCount = body.partitions
  replication : t.replication = body.replication

structure CreateAcl.EchoedBy (body : CreateAcl) (a : AclDocument) : Prop where
  permission : a.permission = body.permission
  topic : a.topic = body.topic
  username : a.username = body.username

structure CreateVpc.EchoedBy (body : CreateVpc) (v : VpcDocument) : Prop where
  cloudName : v.cloudName = body.cloudName
  networkCidr : v.networkCidr = body.networkCidr

structure CreateIntegration.EchoedBy (body : CreateIntegration) (i : IntegrationDocument) :
    Prop where
  integrationType : i.integrationType = body.integrationType
  sourceService : i.sourceService = body.sourceService
  destService : i.destService = body.destService
  userConfig : i.userConfig = body.userConfig

/-- A resource echoes the body with which its record creates it.  A service is sent with the id of
its VPC, whichever that is.  The user that comes with a service is no user of a record. -/
def Spec.EchoedBy (r : Record) : (s : Spec) → s.kind.Remote → Prop
  | .postgreSql s, d => ∃ vpc body,
      s.service.createRequest s.flavour r.name vpc = .ok body ∧ body.EchoedBy d
  | .kafka s, d => ∃ vpc body,
      s.service.createRequest s.flavour r.name vpc = .ok body ∧ body.EchoedBy d
  | .serviceUser s, u => (s.createRequest r.name).EchoedBy u ∧ u.userType ≠ some primaryUserType
  | .database s, d => (s.createRequest (s.databaseNameOf r.name)).EchoedBy d
  | .connectionPool s, p => (s.request (some r.name)).EchoedBy p.pool
  | .kafkaTopic s, t => (s.request (some (s.topicNameOf r.name))).EchoedBy t
  | .kafkaAcl s, a => s.request.EchoedBy a
  | .projectVpc s, v => s.request.EchoedBy v
  | .serviceIntegration s, i => s.createRequest.EchoedBy i

/-! ## Taking over -/

/-- The body that creates a service asks for the type that its kind stands for. -/
theorem ServiceSpec.serviceType_of_createRequest {s : ServiceSpec} {flavour : ServiceFlavour}
    {name : String} {vpc : Option String} {body : CreateService}
    (built : s.createRequest flavour name vpc = .ok body) :
    body.serviceType = flavour.serviceType := by
  obtain ⟨disk, -, rfl⟩ := createRequest_eq_ok.mp built
  rfl

/-- A locale that was asked for fits if it is shown, and any fits if none was asked for. -/
theorem DatabaseSpec.localeFits_of_shown {wanted existing : Option String}
    (shown : ShownIfAsked wanted existing) : localeFits wanted existing = true := by
  cases wanted with
  | none => rfl
  | some locale => simp [localeFits, shown locale rfl]

/-- **A record takes over what its own create made.** -/
theorem matchesExisting_of_echoedBy {base : Url} {r : Record} {s : Spec} {remote : s.kind.Remote}
    (echoes : s.EchoedBy r remote) :
    (adapterFor base r s).profile.matchesExisting remote = true := by
  -- Each kind compares some of what its create has sent, and the resource repeats all of that.
  cases s with
  | postgreSql s =>
      obtain ⟨vpc, body, built, echoes⟩ := echoes
      exact decide_eq_true
        (echoes.serviceType.trans (ServiceSpec.serviceType_of_createRequest built))
  | kafka s =>
      obtain ⟨vpc, body, built, echoes⟩ := echoes
      exact decide_eq_true
        (echoes.serviceType.trans (ServiceSpec.serviceType_of_createRequest built))
  | serviceUser s => exact decide_eq_true echoes.2
  | database s =>
      have collate := DatabaseSpec.localeFits_of_shown echoes.lcCollate
      have ctype := DatabaseSpec.localeFits_of_shown echoes.lcCtype
      exact Bool.and_eq_true_iff.mpr ⟨collate, ctype⟩
  | connectionPool s =>
      exact Bool.and_eq_true_iff.mpr
        ⟨decide_eq_true echoes.database, decide_eq_true echoes.username⟩
  | kafkaTopic s =>
      exact Bool.and_eq_true_iff.mpr
        ⟨decide_eq_true echoes.replication, decide_eq_true (Nat.le_of_eq echoes.partitions)⟩
  | kafkaAcl s =>
      have grants : remote.permission = s.request.permission ∧ remote.topic = s.request.topic :=
        ⟨echoes.permission, echoes.topic⟩
      change ControlPlane.CreateAcl.isGrantedBy s.request remote = true
      simp [ControlPlane.CreateAcl.isGrantedBy, grants, echoes.username]
  | projectVpc s =>
      exact Bool.and_eq_true_iff.mpr
        ⟨decide_eq_true echoes.cloudName, decide_eq_true echoes.networkCidr⟩
  | serviceIntegration s =>
      have type : remote.integrationType = s.integrationType := echoes.integrationType
      have source : remote.sourceService = s.sourceServiceName := echoes.sourceService
      have dest : remote.destService = s.destinationServiceName := echoes.destService
      change s.isSameLink remote = true
      simp [ServiceIntegrationSpec.isSameLink, type, source, dest]

/-! ## Drift -/

/-- A pool of the size and in the mode that are asked for has not drifted. -/
theorem ConnectionPoolSpec.steady_of_same {s : ConnectionPoolSpec} {name : Option String}
    {p : ServicePool} (size : p.pool.poolSize = some (s.request name).poolSize)
    (mode : p.pool.poolMode = some (s.request name).poolMode) :
    s.profile.needsUpdate p = false := by
  change (decide (p.pool.poolSize ≠ some s.size) || decide (p.pool.poolMode ≠ some s.mode)) = false
  rw [size, mode]
  simp [request]

/-- A topic with the partitions that are asked for has not drifted, whatever its state. -/
theorem KafkaTopicSpec.steady_of_same {s : KafkaTopicSpec} {name : Option String}
    {t : TopicDocument} (partitions : t.partitionCount = (s.request name).partitions) :
    s.profile.needsUpdate t = false := by
  have enough : ¬ t.partitionCount < s.partitions := by
    rw [partitions]
    exact Nat.lt_irrefl _
  change (decide (t.state = activeState) && decide (t.partitionCount < s.partitions)) = false
  rw [decide_eq_false enough, Bool.and_false]

/-- The state of rest that an update of a service asks for. -/
def UpdateService.restState (body : UpdateService) : String :=
  if body.powered then runningState else poweredOffState

/-- The other state of rest. -/
def UpdateService.oppositeState (body : UpdateService) : String :=
  if body.powered then poweredOffState else runningState

/-- How services are judged by the state that an update asks for.  One at rest in this state is
ready and has not drifted.  Any other one either has drifted, and is at rest in the opposite state,
or is left alone and waited for, and never both. -/
structure UpdateService.Judges (body : UpdateService) (profile : Profile ServiceDocument) :
    Prop where
  settled : ∀ d : ServiceDocument, d.state = body.restState →
    profile.needsUpdate d = false ∧ profile.isReady d = true
  unsettled : ∀ d : ServiceDocument, d.state ≠ body.restState →
    Xor (profile.needsUpdate d = true ∧ d.state = body.oppositeState)
      (profile.needsUpdate d = false ∧ profile.isReady d = false)

/-- **A service is judged by the state that its update asks for.** -/
theorem ServiceSpec.judges {s : ServiceSpec} {flavour : ServiceFlavour} {vpc : Option String}
    {body : UpdateService} (built : s.updateRequest flavour vpc = .ok body) :
    body.Judges (s.profile flavour) := by
  obtain ⟨disk, -, rfl⟩ := updateRequest_eq_ok.mp built
  have ready (d : ServiceDocument) : (s.profile flavour).isReady d = true ↔
      d.state = if s.wantsPower then runningState else poweredOffState := decide_eq_true_iff
  have drifted (d : ServiceDocument) : (s.profile flavour).needsUpdate d = true ↔
      d.state = if s.wantsPower then poweredOffState else runningState := decide_eq_true_iff
  have apart (powered : Bool) : (if powered then runningState else poweredOffState) ≠
      if powered then poweredOffState else runningState := by
    cases powered <;> decide
  constructor
  · intro d settled
    refine ⟨Bool.eq_false_iff.mpr fun opposed => ?_, (ready d).mpr settled⟩
    exact apart s.wantsPower (settled.symm.trans ((drifted d).mp opposed))
  · intro d unsettled
    have unready : (s.profile flavour).isReady d = false :=
      Bool.eq_false_iff.mpr fun isReady => unsettled ((ready d).mp isReady)
    cases opposed : (s.profile flavour).needsUpdate d with
    | true => exact .inl ⟨⟨rfl, (drifted d).mp opposed⟩, fun waits => nomatch waits.1⟩
    | false => exact .inr ⟨⟨rfl, unready⟩, fun drifts => nomatch drifts.1⟩

/-- **What a record asks for and what it takes for its own agree.**  Whatever its kind, a record
takes over a resource that echoes its create.  A pool of the size and in the mode that it asks for
has not drifted, nor has a topic with the partitions and the replication that it asks for, in any
state.  And the services of a record whose update can be built are judged by the state that the
update asks for. -/
theorem requests_agree (base : Url) (r : Record) :
    (∀ (s : Spec) (remote : s.kind.Remote), s.EchoedBy r remote →
      (adapterFor base r s).profile.matchesExisting remote = true) ∧
    (∀ (s : ConnectionPoolSpec) (name : Option String) (p : ServicePool),
      p.pool.poolSize = some (s.request name).poolSize →
      p.pool.poolMode = some (s.request name).poolMode →
      (adapterFor base r (.connectionPool s)).profile.needsUpdate p = false) ∧
    (∀ (s : KafkaTopicSpec) (name : Option String) (t : TopicDocument),
      t.partitionCount = (s.request name).partitions →
      t.replication = (s.request name).replication →
      (adapterFor base r (.kafkaTopic s)).profile.needsUpdate t = false) ∧
    (∀ (s : PostgreSqlSpec) (vpc : Option String) (body : UpdateService),
      s.service.updateRequest s.flavour vpc = .ok body →
      body.Judges (adapterFor base r (.postgreSql s)).profile) ∧
    (∀ (s : KafkaSpec) (vpc : Option String) (body : UpdateService),
      s.service.updateRequest s.flavour vpc = .ok body →
      body.Judges (adapterFor base r (.kafka s)).profile) := by
  refine ⟨fun s remote => matchesExisting_of_echoedBy, ?_, ?_, ?_, ?_⟩
  · intro s name p size mode
    exact ConnectionPoolSpec.steady_of_same size mode
  · intro s name t partitions _
    exact KafkaTopicSpec.steady_of_same partitions
  · intro s vpc body built
    exact ServiceSpec.judges built
  · intro s vpc body built
    exact ServiceSpec.judges built

/-! ## A service with a pool and a topic -/

namespace Echoed

/-- The base URL of the control plane. -/
def base : Url := ⟨"http", some [""], "", none, none⟩

/-- A pool of the default size and in the default mode. -/
def pool : ConnectionPoolSpec := ⟨"p", "orders", "app", "reader", none, none, none, none⟩

def record : Record where
  metadata := { Metadata.empty with name := some "pool" }
  spec := .connectionPool pool
  status := none

/-- A topic whose record asks for three partitions. -/
def topic : KafkaTopicSpec := ⟨"p", "orders", none, 3, 2, none, none, none⟩

/-- The topic while it is being set up. -/
def young : TopicDocument := ⟨"orders", "CONFIGURING", 2, [.null, .null, .null]⟩

/-- A service that shall run. -/
def service : ServiceSpec where
  project := "p"
  plan := "startup-4"
  cloudName := none
  projectVpcRef := none
  projectVpcId := none
  powered := none
  terminationProtection := none
  diskSpace := some "80 GiB"
  tags := none
  serviceIntegrations := none
  userConfig := none
  secretTarget := none
  secretTargetDisabled := none

/-- The service of the pool. -/
def host : ServiceDocument where
  serviceName := "orders"
  serviceType := "pg"
  state := "RUNNING"
  plan := some "startup-4"
  cloudName := none
  projectVpcId := none
  terminationProtection := none
  serviceUri := none
  serviceUriParams := .empty
  components := []
  users := []
  connectionPools := []
  tags := .empty

/-- The pool that the record asked for. -/
def shown : ServicePool where
  service := host
  pool := ⟨"pool", "app", some "reader", some "transaction", some 10, none⟩

/-- The pool shows what its record asked for, and the defaults where it asked for nothing. -/
theorem echoes : (Spec.connectionPool pool).EchoedBy record shown where
  poolName value asked := by cases asked; rfl
  database := rfl
  username := rfl
  poolSize := rfl
  poolMode := rfl

end Echoed

/-- The pool is taken over and left alone, the topic is left alone while it is being set up, and the
service is judged by the state in which it shall be. -/
theorem requests_agree_echoed :
    (adapterFor Echoed.base Echoed.record (.connectionPool Echoed.pool)).profile.matchesExisting
        Echoed.shown = true ∧
      (adapterFor Echoed.base Echoed.record (.connectionPool Echoed.pool)).profile.needsUpdate
        Echoed.shown = false ∧
      (adapterFor Echoed.base Echoed.record (.kafkaTopic Echoed.topic)).profile.needsUpdate
        Echoed.young = false ∧
      (∃ body : UpdateService, body.powered = true ∧ body.Judges
        (adapterFor Echoed.base Echoed.record (.postgreSql ⟨Echoed.service, none⟩)).profile) ∧
      ∃ body : UpdateService, body.powered = true ∧ body.Judges
        (adapterFor Echoed.base Echoed.record (.kafka ⟨Echoed.service, some true⟩)).profile := by
  obtain ⟨takes, poolStays, topicStays, judges, judges'⟩ :=
    requests_agree Echoed.base Echoed.record
  refine ⟨takes _ _ Echoed.echoes, poolStays _ (some "pool") _ rfl rfl,
    topicStays _ none _ rfl rfl, ⟨_, ?_, judges ⟨Echoed.service, none⟩ none _ rfl⟩,
    ⟨_, ?_, judges' ⟨Echoed.service, some true⟩ none _ rfl⟩⟩
  · rfl
  · rfl

end ServiceOperator
