import ServiceOperator.Proofs.Json.RoundTrip
import ServiceOperator.Proofs.Status.Patches
import ServiceOperator.Record.Spec

/-!
# Records are read as they were written

Every record, and every part of one, is written field by field.  Its `slots` list the fields with
what is written for each: a required field always has a value, and one that is unset has none.  From
these a record is read again (`reads`), whichever of its optional fields are set.  What is common to
all services stands among the other fields of a service and not in a document of its own, so it is
read off the same members (`ServiceSpec.ofFields?_of_holds`).

The numbers of a record are kept in words of a fixed size, and only a number that fits is read.
`Fits` says that it does; every record that was read has it.

### Slots

In a specification a field that is unset is not written as `null`; it is left out.  So the members
of a document are not the fields of its record but some of them.  `slots` keeps the place of each
field, with or without a value, and the lemmas of `Json.Fields` read a field off its slot by name.
A status is written with all its fields, `null` for those that are unset, so that each of its slots
has a value.
-/

namespace ServiceOperator

open Json (Slots Fields Reads reads_text reads_bool reads_nat32 reads_int64 reads_list reads_map
  reads_choice firstOf)
open Json.Fields (required_of_slot unset_of_slot defaulted_of_slot unset_of_nullable
  required_yields unset_yields defaulted_yields)

/-- A map of texts. -/
theorem reads_texts {m : StringMap String} :
    Reads (Json.Decode.map Json.Decode.text) (StringMap.encode .string) m :=
  reads_map fun _ _ => rfl

/-- Configuration of any shape. -/
theorem reads_config {m : StringMap Json} :
    Reads (Json.Decode.map Json.Decode.any) (StringMap.encode id) m :=
  reads_map fun _ _ => rfl

/-! ## Parts -/

namespace ResourceReference

def slots (r : ResourceReference) : Slots :=
  [("name", some (.string r.name)), ("namespace", r.namespaceName.map .string)]

theorem reads (r : ResourceReference) : Reads decode encode r := by
  refine Slots.reads r.slots (by simp [encode, slots]) (by simp [slots]) fun ms fields holds => ?_
  simp only [slots, Slots.Holds, List.map_cons, List.map_nil, List.forall_mem_cons] at fields holds
  obtain ⟨name, namespaceName, -⟩ := holds
  simp only [decode, Fields.of?, fields, required_of_slot name reads_text,
    unset_of_slot namespaceName fun _ _ => reads_text, Option.bind_eq_bind, Option.bind_some]

end ResourceReference

namespace SecretTarget

def slots (t : SecretTarget) : Slots :=
  [("name", t.name.map .string), ("prefix", t.keyStart.map .string),
    ("annotations", t.annotations.map (StringMap.encode .string)),
    ("labels", t.labels.map (StringMap.encode .string))]

theorem reads (t : SecretTarget) : Reads decode encode t := by
  refine Slots.reads t.slots (by simp [encode, slots]) (by simp [slots]) fun ms fields holds => ?_
  simp only [slots, Slots.Holds, List.map_cons, List.map_nil, List.forall_mem_cons] at fields holds
  obtain ⟨name, keyStart, annotations, labels, -⟩ := holds
  simp only [decode, Fields.of?, fields, unset_of_slot name fun _ _ => reads_text,
    unset_of_slot keyStart fun _ _ => reads_text,
    unset_of_slot annotations fun _ _ => reads_texts,
    unset_of_slot labels fun _ _ => reads_texts, Option.bind_eq_bind, Option.bind_some]

end SecretTarget

namespace SecretSource

def slots (s : SecretSource) : Slots :=
  [("name", some (.string s.name)), ("namespace", s.namespaceName.map .string),
    ("passwordKey", some (.string s.passwordKey))]

theorem reads (s : SecretSource) : Reads decode encode s := by
  refine Slots.reads s.slots (by simp [encode, slots]) (by simp [slots]) fun ms fields holds => ?_
  simp only [slots, Slots.Holds, List.map_cons, List.map_nil, List.forall_mem_cons] at fields holds
  obtain ⟨name, namespaceName, passwordKey, -⟩ := holds
  simp only [decode, Fields.of?, fields, required_of_slot name reads_text,
    unset_of_slot namespaceName fun _ _ => reads_text,
    required_of_slot passwordKey reads_text, Option.bind_eq_bind, Option.bind_some]

end SecretSource

/-- Two texts. -/
theorem InitialIntegration.decode_encode (i : InitialIntegration) : decode i.encode = some i := rfl

namespace TopicConfig

/-- The numbers fit the words in which they are kept. -/
structure Fits (c : TopicConfig) : Prop where
  retention : ∀ n, c.retentionMs = some n → -Word.bound 63 ≤ n ∧ n ≤ Word.bound 63 - 1
  replicas : ∀ n, c.minInsyncReplicas = some n → n < Word.bound 32

def slots (c : TopicConfig) : Slots :=
  [("retentionMs", c.retentionMs.map .ofInt), ("cleanupPolicy", c.cleanupPolicy.map .string),
    ("minInsyncReplicas", c.minInsyncReplicas.map .ofNat)]

/-- The settings of a topic are read as they were written, if their numbers fit. -/
theorem reads {c : TopicConfig} (fits : c.Fits) : Reads decode encode c := by
  refine Slots.reads c.slots (by simp [encode, slots]) (by simp [slots]) fun ms fields holds => ?_
  simp only [slots, Slots.Holds, List.map_cons, List.map_nil, List.forall_mem_cons] at fields holds
  obtain ⟨retention, cleanupPolicy, replicas, -⟩ := holds
  simp only [decode, Fields.of?, fields,
    unset_of_slot retention fun n set => reads_int64 (fits.retention n set),
    unset_of_slot cleanupPolicy fun _ _ => reads_text,
    unset_of_slot replicas fun n set => reads_nat32 (fits.replicas n set),
    Option.bind_eq_bind, Option.bind_some]

theorem fits_of_decode {j : Json} {c : TopicConfig} (read : decode j = some c) : c.Fits := by
  simp only [decode, Option.bind_eq_bind, Option.bind_eq_some_iff, Option.some_inj] at read
  obtain ⟨f, -, retention, readRetention, cleanupPolicy, -, replicas, readReplicas, rfl⟩ := read
  exact ⟨unset_yields Json.Decode.int64_yields readRetention,
    unset_yields Json.Decode.nat32_yields readReplicas⟩

end TopicConfig

/-! ## Services -/

namespace ServiceSpec

def slots (s : ServiceSpec) : Slots :=
  [("project", some (.string s.project)), ("plan", some (.string s.plan)),
    ("cloudName", s.cloudName.map .string),
    ("projectVPCRef", s.projectVpcRef.map ResourceReference.encode),
    ("projectVpcId", s.projectVpcId.map .string), ("powered", s.powered.map .bool),
    ("terminationProtection", s.terminationProtection.map .bool),
    ("diskSpace", s.diskSpace.map .string), ("tags", s.tags.map (StringMap.encode .string)),
    ("serviceIntegrations",
      s.serviceIntegrations.map fun is => .array (is.map InitialIntegration.encode)),
    ("userConfig", s.userConfig.map (StringMap.encode id)),
    ("connInfoSecretTarget", s.secretTarget.map SecretTarget.encode),
    ("connInfoSecretTargetDisabled", s.secretTargetDisabled.map .bool)]

@[simp] theorem members_slots (s : ServiceSpec) : s.slots.members = s.encodeMembers := by
  simp [slots, encodeMembers]

/-- A service is read off its fields, whatever other fields stand beside them. -/
theorem ofFields?_of_holds {s : ServiceSpec} {ms : List (String × Json)}
    (holds : s.slots.Holds ms) : ofFields? (firstOf ms) = some s := by
  simp only [slots, Slots.Holds, List.forall_mem_cons] at holds
  obtain ⟨project, plan, cloudName, vpcRef, vpcId, powered, protection, diskSpace, tags,
    integrations, userConfig, secretTarget, disabled, -⟩ := holds
  simp only [ofFields?, required_of_slot project reads_text, required_of_slot plan reads_text,
    unset_of_slot cloudName fun _ _ => reads_text,
    unset_of_slot vpcRef fun r _ => r.reads,
    unset_of_slot vpcId fun _ _ => reads_text,
    unset_of_slot powered fun _ _ => reads_bool,
    unset_of_slot protection fun _ _ => reads_bool,
    unset_of_slot diskSpace fun _ _ => reads_text,
    unset_of_slot tags fun _ _ => reads_texts,
    unset_of_slot integrations fun _ _ => reads_list fun i _ => i.decode_encode,
    unset_of_slot userConfig fun _ _ => reads_config,
    unset_of_slot secretTarget fun t _ => t.reads,
    unset_of_slot disabled fun _ _ => reads_bool, Option.bind_eq_bind, Option.bind_some]

end ServiceSpec

namespace PostgreSqlSpec

def slots (s : PostgreSqlSpec) : Slots :=
  s.service.slots ++ [("forkFromServiceName", s.forkFromServiceName.map .string)]

theorem reads (s : PostgreSqlSpec) : Reads decode encode s := by
  refine Slots.reads s.slots (by simp [encode, slots]) (by simp [slots, ServiceSpec.slots])
    fun ms fields holds => ?_
  obtain ⟨service, own⟩ := Slots.Holds.of_append holds
  have fork := own _ (List.mem_cons_self ..)
  have fields : Fields.ofObject? (ServiceSpec.fieldNames ++ ["forkFromServiceName"]) (.object ms) =
      some (firstOf ms) := fields
  simp only [decode, fields, ServiceSpec.ofFields?_of_holds service,
    unset_of_slot fork fun _ _ => reads_text, Option.bind_eq_bind, Option.bind_some]

end PostgreSqlSpec

namespace KafkaSpec

def slots (s : KafkaSpec) : Slots :=
  s.service.slots ++ [("karapace", s.karapace.map .bool)]

theorem reads (s : KafkaSpec) : Reads decode encode s := by
  refine Slots.reads s.slots (by simp [encode, slots]) (by simp [slots, ServiceSpec.slots])
    fun ms fields holds => ?_
  obtain ⟨service, own⟩ := Slots.Holds.of_append holds
  have karapace := own _ (List.mem_cons_self ..)
  have fields : Fields.ofObject? (ServiceSpec.fieldNames ++ ["karapace"]) (.object ms) =
      some (firstOf ms) := fields
  simp only [decode, fields, ServiceSpec.ofFields?_of_holds service,
    unset_of_slot karapace fun _ _ => reads_bool, Option.bind_eq_bind, Option.bind_some]

end KafkaSpec

/-! ## What belongs to a service -/

namespace ServiceUserSpec

def slots (s : ServiceUserSpec) : Slots :=
  [("project", some (.string s.project)), ("serviceName", some (.string s.serviceName)),
    ("authentication", s.authentication.map .string),
    ("connInfoSecretTarget", s.secretTarget.map SecretTarget.encode),
    ("connInfoSecretTargetDisabled", s.secretTargetDisabled.map .bool),
    ("connInfoSecretSource", s.secretSource.map SecretSource.encode)]

theorem reads (s : ServiceUserSpec) : Reads decode encode s := by
  refine Slots.reads s.slots (by simp [encode, slots]) (by simp [slots]) fun ms fields holds => ?_
  simp only [slots, Slots.Holds, List.map_cons, List.map_nil, List.forall_mem_cons] at fields holds
  obtain ⟨project, serviceName, authentication, secretTarget, disabled, secretSource, -⟩ := holds
  simp only [decode, Fields.of?, fields, required_of_slot project reads_text,
    required_of_slot serviceName reads_text,
    unset_of_slot authentication fun _ _ => reads_text,
    unset_of_slot secretTarget fun t _ => t.reads,
    unset_of_slot disabled fun _ _ => reads_bool,
    unset_of_slot secretSource fun s _ => s.reads, Option.bind_eq_bind, Option.bind_some]

end ServiceUserSpec

namespace DatabaseSpec

def slots (s : DatabaseSpec) : Slots :=
  [("project", some (.string s.project)), ("serviceName", some (.string s.serviceName)),
    ("databaseName", s.databaseName.map .string), ("lcCollate", s.lcCollate.map .string),
    ("lcCtype", s.lcCtype.map .string),
    ("terminationProtection", s.terminationProtection.map .bool)]

theorem reads (s : DatabaseSpec) : Reads decode encode s := by
  refine Slots.reads s.slots (by simp [encode, slots]) (by simp [slots]) fun ms fields holds => ?_
  simp only [slots, Slots.Holds, List.map_cons, List.map_nil, List.forall_mem_cons] at fields holds
  obtain ⟨project, serviceName, databaseName, lcCollate, lcCtype, protection, -⟩ := holds
  simp only [decode, Fields.of?, fields, required_of_slot project reads_text,
    required_of_slot serviceName reads_text,
    unset_of_slot databaseName fun _ _ => reads_text,
    unset_of_slot lcCollate fun _ _ => reads_text,
    unset_of_slot lcCtype fun _ _ => reads_text,
    unset_of_slot protection fun _ _ => reads_bool, Option.bind_eq_bind, Option.bind_some]

end DatabaseSpec

theorem PoolMode.lookup_text (m : PoolMode) : spellings.lookup m.text = some m := by
  cases m <;> rfl

namespace ConnectionPoolSpec

/-- The size fits the word in which it is kept. -/
def Fits (s : ConnectionPoolSpec) : Prop :=
  ∀ n, s.poolSize = some n → n < Word.bound 32

def slots (s : ConnectionPoolSpec) : Slots :=
  [("project", some (.string s.project)), ("serviceName", some (.string s.serviceName)),
    ("databaseName", some (.string s.databaseName)), ("username", some (.string s.username)),
    ("poolSize", s.poolSize.map .ofNat),
    ("poolMode", s.poolMode.map fun m => .string m.text),
    ("connInfoSecretTarget", s.secretTarget.map SecretTarget.encode),
    ("connInfoSecretTargetDisabled", s.secretTargetDisabled.map .bool)]

/-- A connection pool is read as it was written, if its size fits. -/
theorem reads {s : ConnectionPoolSpec} (fits : s.Fits) : Reads decode encode s := by
  refine Slots.reads s.slots (by simp [encode, slots]) (by simp [slots]) fun ms fields holds => ?_
  simp only [slots, Slots.Holds, List.map_cons, List.map_nil, List.forall_mem_cons] at fields holds
  obtain ⟨project, serviceName, databaseName, username, poolSize, poolMode, secretTarget, disabled,
    -⟩ := holds
  simp only [decode, Fields.of?, fields, required_of_slot project reads_text,
    required_of_slot serviceName reads_text, required_of_slot databaseName reads_text,
    required_of_slot username reads_text,
    unset_of_slot poolSize fun n set => reads_nat32 (fits n set),
    unset_of_slot poolMode fun m _ => reads_choice m.lookup_text,
    unset_of_slot secretTarget fun t _ => t.reads,
    unset_of_slot disabled fun _ _ => reads_bool, Option.bind_eq_bind, Option.bind_some]

theorem fits_of_decode {j : Json} {s : ConnectionPoolSpec} (read : decode j = some s) :
    s.Fits := by
  simp only [decode, Option.bind_eq_bind, Option.bind_eq_some_iff, Option.some_inj] at read
  obtain ⟨f, -, -, -, -, -, -, -, -, -, poolSize, readSize, -, -, -, -, -, -, rfl⟩ := read
  exact unset_yields Json.Decode.nat32_yields readSize

end ConnectionPoolSpec

namespace KafkaTopicSpec

/-- The numbers fit the words in which they are kept. -/
structure Fits (s : KafkaTopicSpec) : Prop where
  partitions : s.partitions < Word.bound 32
  replication : s.replication < Word.bound 32
  config : ∀ c, s.config = some c → c.Fits

def slots (s : KafkaTopicSpec) : Slots :=
  [("project", some (.string s.project)), ("serviceName", some (.string s.serviceName)),
    ("topicName", s.topicName.map .string), ("partitions", some (.ofNat s.partitions)),
    ("replication", some (.ofNat s.replication)), ("config", s.config.map TopicConfig.encode),
    ("tags", s.tags.map (StringMap.encode .string)),
    ("terminationProtection", s.terminationProtection.map .bool)]

/-- A topic is read as it was written, if its numbers fit. -/
theorem reads {s : KafkaTopicSpec} (fits : s.Fits) : Reads decode encode s := by
  refine Slots.reads s.slots (by simp [encode, slots]) (by simp [slots]) fun ms fields holds => ?_
  simp only [slots, Slots.Holds, List.map_cons, List.map_nil, List.forall_mem_cons] at fields holds
  obtain ⟨project, serviceName, topicName, partitions, replication, config, tags, protection, -⟩ :=
    holds
  simp only [decode, Fields.of?, fields, required_of_slot project reads_text,
    required_of_slot serviceName reads_text,
    unset_of_slot topicName fun _ _ => reads_text,
    required_of_slot partitions (reads_nat32 fits.partitions),
    required_of_slot replication (reads_nat32 fits.replication),
    unset_of_slot config fun c set => TopicConfig.reads (fits.config c set),
    unset_of_slot tags fun _ _ => reads_texts,
    unset_of_slot protection fun _ _ => reads_bool, Option.bind_eq_bind, Option.bind_some]

/-- A topic that was read has numbers that fit. -/
theorem fits_of_decode {j : Json} {s : KafkaTopicSpec} (read : decode j = some s) : s.Fits := by
  simp only [decode, Option.bind_eq_bind, Option.bind_eq_some_iff, Option.some_inj] at read
  obtain ⟨f, -, -, -, -, -, -, -, partitions, readPartitions, replication, readReplication,
    config, readConfig, -, -, -, -, rfl⟩ := read
  exact ⟨required_yields (P := (· < Word.bound 32)) Json.Decode.nat32_yields readPartitions,
    required_yields (P := (· < Word.bound 32)) Json.Decode.nat32_yields readReplication,
    unset_yields TopicConfig.fits_of_decode readConfig⟩

end KafkaTopicSpec

theorem Permission.lookup_text (p : Permission) : spellings.lookup p.text = some p := by
  cases p <;> rfl

namespace KafkaAclSpec

def slots (s : KafkaAclSpec) : Slots :=
  [("project", some (.string s.project)), ("serviceName", some (.string s.serviceName)),
    ("permission", some (.string s.permission.text)), ("topic", some (.string s.topic)),
    ("username", some (.string s.username))]

theorem reads (s : KafkaAclSpec) : Reads decode encode s := by
  refine Slots.reads s.slots (by simp [encode, slots]) (by simp [slots]) fun ms fields holds => ?_
  simp only [slots, Slots.Holds, List.map_cons, List.map_nil, List.forall_mem_cons] at fields holds
  obtain ⟨project, serviceName, permission, topic, username, -⟩ := holds
  have permission : (firstOf ms).required "permission" (Json.Decode.choice Permission.spellings) =
      some s.permission := required_of_slot permission (reads_choice s.permission.lookup_text)
  simp only [decode, Fields.of?, fields, required_of_slot project reads_text,
    required_of_slot serviceName reads_text, permission, required_of_slot topic reads_text,
    required_of_slot username reads_text, Option.bind_eq_bind, Option.bind_some]

end KafkaAclSpec

/-! ## Projects -/

theorem ProjectVpcSpec.decode_encode (s : ProjectVpcSpec) : decode s.encode = some s := rfl

namespace ServiceIntegrationSpec

def slots (s : ServiceIntegrationSpec) : Slots :=
  [("project", some (.string s.project)), ("integrationType", some (.string s.integrationType)),
    ("sourceServiceName", some (.string s.sourceServiceName)),
    ("destinationServiceName", some (.string s.destinationServiceName)),
    ("userConfig", s.userConfig.map (StringMap.encode id))]

theorem reads (s : ServiceIntegrationSpec) : Reads decode encode s := by
  refine Slots.reads s.slots (by simp [encode, slots]) (by simp [slots]) fun ms fields holds => ?_
  simp only [slots, Slots.Holds, List.map_cons, List.map_nil, List.forall_mem_cons] at fields holds
  obtain ⟨project, integrationType, source, destination, userConfig, -⟩ := holds
  simp only [decode, Fields.of?, fields, required_of_slot project reads_text,
    required_of_slot integrationType reads_text, required_of_slot source reads_text,
    required_of_slot destination reads_text,
    unset_of_slot userConfig fun _ _ => reads_config, Option.bind_eq_bind, Option.bind_some]

end ServiceIntegrationSpec

/-! ## Any kind -/

namespace Spec

/-- The numbers fit the words in which they are kept. -/
def Fits : Spec → Prop
  | connectionPool s => s.Fits
  | kafkaTopic s => s.Fits
  | _ => True

/-- A specification of any kind is read as it was written, if its numbers fit. -/
theorem decode_encode {s : Spec} (fits : s.Fits) : decode s.kind s.encode = some s := by
  cases s with
  | postgreSql s => simp only [kind, encode, decode, s.reads.same, Option.map_some]
  | kafka s => simp only [kind, encode, decode, s.reads.same, Option.map_some]
  | serviceUser s => simp only [kind, encode, decode, s.reads.same, Option.map_some]
  | database s => simp only [kind, encode, decode, s.reads.same, Option.map_some]
  | connectionPool s =>
      simp only [kind, encode, decode, (ConnectionPoolSpec.reads fits).same, Option.map_some]
  | kafkaTopic s =>
      simp only [kind, encode, decode, (KafkaTopicSpec.reads fits).same, Option.map_some]
  | kafkaAcl s => simp only [kind, encode, decode, s.reads.same, Option.map_some]
  | projectVpc s => simp only [kind, encode, decode, s.decode_encode, Option.map_some]
  | serviceIntegration s => simp only [kind, encode, decode, s.reads.same, Option.map_some]

/-- What was read is of the kind that it was read as, and its numbers fit. -/
theorem of_decode {k : Kind} {j : Json} {s : Spec} (read : decode k j = some s) :
    s.kind = k ∧ s.Fits := by
  cases k <;> obtain ⟨own, readOwn, rfl⟩ := Option.map_eq_some_iff.mp read
  case connectionPool => exact ⟨rfl, ConnectionPoolSpec.fits_of_decode readOwn⟩
  case kafkaTopic => exact ⟨rfl, KafkaTopicSpec.fits_of_decode readOwn⟩
  all_goals exact ⟨rfl, trivial⟩

end Spec

/-! ## The status -/

namespace ResourceStatus

def slots (s : ResourceStatus) : Slots :=
  s.encode.members.map fun m => (m.1, some m.2)

/-- A status is read as it was written, if its numbers fit. -/
theorem reads {s : ResourceStatus} (fits : s.Fits) : Reads decode encode s := by
  refine Slots.reads s.slots rfl (by simp [slots, encode, Json.members]) fun ms fields holds => ?_
  have fields : Fields.of? fieldNames (.object ms) = some (firstOf ms) := fields
  simp only [slots, encode, Json.members, Slots.Holds, List.map_cons, List.map_nil,
    List.forall_mem_cons] at holds
  obtain ⟨conditions, state, id, observed, failed, started, deletion, source, attempts, -⟩ := holds
  have conditions : (firstOf ms).defaulted "conditions" _ [] = some s.conditions :=
    defaulted_of_slot conditions (reads_list fun c _ => c.decode_encode)
  have attempts : (firstOf ms).defaulted "failedAttempts" _ 0 = some s.failedAttempts :=
    defaulted_of_slot attempts (reads_nat32 fits.attempts)
  simp only [decode, fields, conditions, unset_of_nullable state fun _ _ => reads_text,
    unset_of_nullable id fun _ _ => reads_text,
    unset_of_nullable observed fun g set => reads_int64 (fits.observed g set),
    unset_of_nullable failed fun g set => reads_int64 (fits.failed g set),
    unset_of_nullable started fun _ _ => reads_text,
    unset_of_nullable deletion fun _ _ => reads_text,
    unset_of_nullable source fun _ _ => reads_text, attempts, Option.bind_eq_bind,
    Option.bind_some]

/-- A status that was read has numbers that fit. -/
theorem fits_of_decode {j : Json} {s : ResourceStatus} (read : decode j = some s) : s.Fits := by
  simp only [decode, Option.bind_eq_bind, Option.bind_eq_some_iff, Option.some_inj] at read
  obtain ⟨f, -, -, -, -, -, -, -, observed, readObserved, failed, readFailed, -, -, -, -, -, -,
    attempts, readAttempts, rfl⟩ := read
  refine ⟨unset_yields Json.Decode.int64_yields readObserved,
    unset_yields Json.Decode.int64_yields readFailed, ?_⟩
  exact defaulted_yields (P := (· < Word.bound 32)) Json.Decode.nat32_yields (by decide)
    readAttempts

end ResourceStatus

/-- **Records are read as they were written.**  A specification of any kind whose numbers fit their
words is read off its document, whichever of its optional fields are set and whatever maps, lists
and configuration they hold.  One that was read is of the kind that was asked for, has numbers that
fit, and is read again off what is written for it.  The same holds of a status. -/
theorem documents_round_trip :
    (∀ s : Spec, s.Fits → Spec.decode s.kind s.encode = some s) ∧
    (∀ (k : Kind) (j : Json) (s : Spec), Spec.decode k j = some s →
      s.kind = k ∧ s.Fits ∧ Spec.decode k s.encode = some s) ∧
    (∀ s : ResourceStatus, s.Fits → ResourceStatus.decode s.encode = some s) ∧
    (∀ (j : Json) (s : ResourceStatus), ResourceStatus.decode j = some s →
      s.Fits ∧ ResourceStatus.decode s.encode = some s) := by
  refine ⟨fun s fits => Spec.decode_encode fits, ?_,
    fun s fits => (ResourceStatus.reads fits).same, ?_⟩
  · intro k j s read
    obtain ⟨rfl, fits⟩ := Spec.of_decode read
    exact ⟨rfl, fits, Spec.decode_encode fits⟩
  · intro j s read
    have fits := ResourceStatus.fits_of_decode read
    exact ⟨fits, (ResourceStatus.reads fits).same⟩

/-! ## A topic, a service and a status -/

namespace Documented

/-- A topic with a configuration and with tags, of which there are none. -/
def topic : KafkaTopicSpec where
  project := "acme"
  serviceName := "events"
  topicName := none
  partitions := 3
  replication := 2
  config := some ⟨some (-1), none, some 2⟩
  tags := some .empty
  terminationProtection := none

/-- A service as a user writes it, with a member unheard of. -/
def service : Json :=
  .object [("project", .string "acme"), ("plan", .string "hobbyist"), ("cloudName", .null),
    ("projectVPCRef", .object [("name", .string "net")]), ("tags", .object []),
    ("userConfig", .object [("b", .array [.null, .number (.decimal true 15 (-1))]),
      ("a", .object [("deep", .object [])])]),
    ("comment", .string "not read")]

/-- The status of a record that was given up. -/
def status : ResourceStatus :=
  { ResourceStatus.initial with
    conditions := [⟨"Error", "True", some "Rejected", none, none⟩]
    failedGeneration := some 4 }

/-- The numbers of the topic are small. -/
theorem topic_fits : (Spec.kafkaTopic topic).Fits := by
  refine ⟨by decide, by decide, ?_⟩
  rintro c ⟨⟩
  refine ⟨?_, ?_⟩
  · rintro n ⟨⟩
    decide
  · rintro n ⟨⟩
    decide

theorem status_fits : status.Fits := by
  refine ⟨?_, ?_, by decide⟩
  · rintro g ⟨⟩
  · rintro g ⟨⟩
    decide

end Documented

/-- A topic and a status are read as they were written, and a service as a user writes it is read a
second time as it was the first. -/
theorem documents_round_trip_documented :
    Spec.decode .kafkaTopic (Spec.kafkaTopic Documented.topic).encode =
      some (.kafkaTopic Documented.topic) ∧
    (∃ s, Spec.decode .postgreSql Documented.service = some s ∧
      Spec.decode .postgreSql s.encode = some s) ∧
    ResourceStatus.decode Documented.status.encode = some Documented.status ∧
    ∃ s, ResourceStatus.decode (.object []) = some s ∧ ResourceStatus.decode s.encode = some s := by
  obtain ⟨spec, specAgain, status, statusAgain⟩ := documents_round_trip
  refine ⟨spec _ Documented.topic_fits, ⟨_, rfl, ?_⟩, status _ Documented.status_fits, ⟨_, rfl, ?_⟩⟩
  · exact (specAgain .postgreSql Documented.service _ rfl).2.2
  · exact (statusAgain (.object []) _ rfl).2

end ServiceOperator
