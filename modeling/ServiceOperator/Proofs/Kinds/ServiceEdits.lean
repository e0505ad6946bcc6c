import ServiceOperator.Kinds.Service
import ServiceOperator.Proofs.Json.RoundTrip

/-!
# Edits of a service that reach the control plane

A service is created with one body and changed with another, and the second one is built anew from
the record at every change.  So an edit reaches the control plane exactly if it shows in that body.

What is sent is told apart by its fields: the body of an update is written field by field, those
that are unset or empty are left out, and no two bodies are written alike
(`UpdateService.encode_injective`).  Of what a create sends besides, the fork of a PostgreSQL
service and the first integrations belong to the creation alone.  The tags do not, but there is no
field for them in the body of an update: an edit that touches nothing else is lost
(`edits_reach_except_tags`).

### Why injectivity is the point

That a setting has a field in the body of an update does not yet make an edit of it visible, since a
field is left out when it is unset or empty.  `UpdateService.encode_injective` closes this gap: the
body can be read back field by field off the members that are written (`Slots.eq_of_members_eq`), so
two bodies that are written alike are the same body.  The bodies of two creates are then compared by
the settings that they are built from, and the tags are the one setting that may be edited and has
no counterpart.
-/

namespace ServiceOperator

open Json (Slots)

/-! ## Bodies that can be built -/

theorem map_eq_ok_iff {ε α β : Type} {f : α → β} {attempt : Except ε α} {b : β} :
    attempt.map f = .ok b ↔ ∃ a, attempt = .ok a ∧ b = f a := by
  cases attempt with
  | error e => simp [Except.map]
  | ok a => simp [Except.map, eq_comm]

namespace ServiceSpec

variable {s : ServiceSpec} {flavour : ServiceFlavour} {name : String} {vpc : Option String}

/-- The body of a create can be built exactly if the size of the disk can be read. -/
theorem createRequest_eq_ok {body : CreateService} :
    s.createRequest flavour name vpc = .ok body ↔ ∃ disk, s.diskSpaceMb = .ok disk ∧
      body = ⟨name, flavour.serviceType, s.plan, s.cloudName, vpc, s.terminationProtection, disk,
        s.tags.getD .empty, s.serviceIntegrations.getD [], flavour.createUserConfig⟩ :=
  map_eq_ok_iff

theorem updateRequest_eq_ok {body : UpdateService} :
    s.updateRequest flavour vpc = .ok body ↔ ∃ disk, s.diskSpaceMb = .ok disk ∧
      body = ⟨s.plan, s.cloudName, vpc, s.wantsPower, s.terminationProtection, disk,
        flavour.userConfig⟩ :=
  map_eq_ok_iff

end ServiceSpec

/-! ## Bodies that are told apart -/

theorem Json.ofNat_injective {m n : Nat} (same : Json.ofNat m = Json.ofNat n) : m = n :=
  Int.ofNat.inj (Json.Number.int.inj (Json.number.inj same))

/-- Maps of documents that are written alike are the same. -/
theorem StringMap.encode_id_injective {m n : StringMap Json} (same : m.encode id = n.encode id) :
    m = n := by
  have written : m.toList.map (fun e => (e.1, id e.2)) = n.toList.map fun e => (e.1, id e.2) :=
    Json.object.inj same
  have entries : m.toList = n.toList := by simpa using written
  exact ext_entries entries

theorem StringMap.eq_empty_of_isEmpty {m : StringMap Json} (nothing : m.isEmpty = true) :
    m = .empty :=
  ext_entries (List.isEmpty_iff.mp nothing)

/-- A map as an optional field, unset if it is empty. -/
def StringMap.field? (m : StringMap Json) : Option Json :=
  if m.isEmpty then none else some (m.encode id)

theorem StringMap.field?_injective {m n : StringMap Json} (same : m.field? = n.field?) : m = n := by
  unfold field? at same
  split at same
  case isTrue nothing =>
    split at same
    case isTrue nothing' => rw [eq_empty_of_isEmpty nothing, eq_empty_of_isEmpty nothing']
    case isFalse => cases same
  case isFalse =>
    split at same
    case isTrue => cases same
    case isFalse => exact encode_id_injective (Option.some.inj same)

namespace UpdateService

/-- The fields of the body. -/
def slots (r : UpdateService) : Slots :=
  [("plan", some (.string r.plan)), ("cloud", r.cloud.map .string),
    ("project_vpc_id", r.projectVpcId.map .string), ("powered", some (.bool r.powered)),
    ("termination_protection", r.terminationProtection.map .bool),
    ("disk_space_mb", r.diskSpaceMb.map .ofNat), ("user_config", r.userConfig.field?)]

theorem encode_eq (r : UpdateService) : r.encode = .object r.slots.members := by
  have config : mapMember "user_config" id r.userConfig =
      Slots.members [("user_config", r.userConfig.field?)] := by
    unfold mapMember StringMap.field?
    split <;> rfl
  simp [encode, slots, config]

/-- **No two bodies are written alike.** -/
theorem encode_injective {r r' : UpdateService} (same : r.encode = r'.encode) : r = r' := by
  rw [encode_eq, encode_eq] at same
  have fields : r.slots = r'.slots :=
    Slots.eq_of_members_eq (by simp [slots]) (by simp [slots]) (Json.object.inj same)
  simp only [slots, List.cons.injEq, Prod.mk.injEq, Option.some.injEq, Json.string.injEq,
    Json.bool.injEq, true_and, and_true] at fields
  obtain ⟨plan, cloud, vpc, powered, protection, disk, config⟩ := fields
  have cloud := Option.map_injective (fun _ _ => Json.string.inj) cloud
  have vpc := Option.map_injective (fun _ _ => Json.string.inj) vpc
  have protection := Option.map_injective (fun _ _ => Json.bool.inj) protection
  have disk := Option.map_injective (fun _ _ => Json.ofNat_injective) disk
  have config := StringMap.field?_injective config
  cases r
  cases r'
  simp_all

end UpdateService

/-! ## Edits -/

/-- The bodies that create two services differ in a setting that can be edited while the service
lives, the tags apart. -/
def CreateService.DiffersBesidesTags (body body' : CreateService) : Prop :=
  body'.plan ≠ body.plan ∨ body'.cloud ≠ body.cloud ∨
    body'.terminationProtection ≠ body.terminationProtection ∨
    body'.diskSpaceMb ≠ body.diskSpaceMb ∨ body'.userConfig ≠ body.userConfig

/-- An edit of one service into another can be sent, and what shows of it to the control plane. -/
def EditShows (s s' : ServiceSpec) (flavour flavour' : ServiceFlavour) (vpc : Option String)
    (body body' : CreateService) : Prop :=
  ∃ u u', s.updateRequest flavour vpc = .ok u ∧ s'.updateRequest flavour' vpc = .ok u' ∧
    (body.DiffersBesidesTags body' → u'.encode ≠ u.encode) ∧
    (u'.encode = u.encode ↔ body'.plan = body.plan ∧ body'.cloud = body.cloud ∧
      s'.wantsPower = s.wantsPower ∧ body'.terminationProtection = body.terminationProtection ∧
      body'.diskSpaceMb = body.diskSpaceMb ∧ flavour'.userConfig = flavour.userConfig)

/-- An edit shows in the update exactly as far as it is one of the settings that an update has a
field for. -/
theorem ServiceSpec.editShows {s s' : ServiceSpec} {flavour flavour' : ServiceFlavour}
    {name : String} {vpc : Option String} {body body' : CreateService}
    (built : s.createRequest flavour name vpc = .ok body)
    (built' : s'.createRequest flavour' name vpc = .ok body')
    (creates : flavour'.userConfig = flavour.userConfig →
      flavour'.createUserConfig = flavour.createUserConfig) :
    EditShows s s' flavour flavour' vpc body body' := by
  obtain ⟨disk, parsed, rfl⟩ := createRequest_eq_ok.mp built
  obtain ⟨disk', parsed', rfl⟩ := createRequest_eq_ok.mp built'
  have same_iff {u u' : UpdateService} : u'.encode = u.encode ↔ u' = u :=
    ⟨UpdateService.encode_injective, congrArg _⟩
  refine ⟨_, _, updateRequest_eq_ok.mpr ⟨disk, parsed, rfl⟩,
    updateRequest_eq_ok.mpr ⟨disk', parsed', rfl⟩, ?_, ?_⟩
  · intro differs same
    simp only [same_iff, UpdateService.mk.injEq] at same
    obtain ⟨plan, cloud, -, -, protection, space, config⟩ := same
    simp [CreateService.DiffersBesidesTags, plan, cloud, protection, space, creates config]
      at differs
  · simp [same_iff]

/-- **Which edits of a service reach the control plane.**  Let two PostgreSQL services, forked from
the same service if from any, or two Kafka services be such that both can be created, in the same
VPC.  Then both can be updated, and if the bodies that create them differ in the plan, the cloud,
the protection, the disk space or the configuration, so do the encoded bodies that update them.
These are the same exactly if the services agree on these settings and on being switched on,
whatever their tags. -/
theorem edits_reach_except_tags (name : String) (vpc : Option String) (body body' : CreateService) :
    (∀ s s' : PostgreSqlSpec, s'.forkFromServiceName = s.forkFromServiceName →
      s.service.createRequest s.flavour name vpc = .ok body →
      s'.service.createRequest s'.flavour name vpc = .ok body' →
      EditShows s.service s'.service s.flavour s'.flavour vpc body body') ∧
    (∀ s s' : KafkaSpec, s.service.createRequest s.flavour name vpc = .ok body →
      s'.service.createRequest s'.flavour name vpc = .ok body' →
      EditShows s.service s'.service s.flavour s'.flavour vpc body body') := by
  constructor
  · intro s s' sameFork built built'
    refine ServiceSpec.editShows built built' ?_
    intro same
    simp only [PostgreSqlSpec.flavour] at same ⊢
    rw [same, sameFork]
  · intro s s' built built'
    exact ServiceSpec.editShows built built' id

/-! ## A service that is edited -/

namespace Edited

/-- A PostgreSQL service with a plan and tags. -/
def spec (plan : String) (tags : Option (StringMap String)) : PostgreSqlSpec where
  service :=
    { project := "p", plan := plan, cloudName := none, projectVpcRef := none
      projectVpcId := none, powered := none, terminationProtection := none, diskSpace := none
      tags := tags, serviceIntegrations := none, userConfig := none, secretTarget := none
      secretTargetDisabled := none }
  forkFromServiceName := none

/-- The service before the edit. -/
def before : PostgreSqlSpec := spec "startup-4" none

/-- The service with another plan. -/
def grown : PostgreSqlSpec := spec "startup-8" none

/-- The service with a tag. -/
def tagged : PostgreSqlSpec := spec "startup-4" (some (.ofList [("team", "blue")]))

end Edited

/-- Another plan reaches the control plane. -/
theorem edits_reach_except_tags_grown : ∃ u u',
    Edited.before.service.updateRequest Edited.before.flavour none = .ok u ∧
      Edited.grown.service.updateRequest Edited.grown.flavour none = .ok u' ∧
      u'.encode ≠ u.encode := by
  have shows := (edits_reach_except_tags "orders" none _ _).1 Edited.before Edited.grown rfl rfl rfl
  obtain ⟨u, u', built, built', reaches, -⟩ := shows
  exact ⟨u, u', built, built', reaches (.inl (by decide))⟩

/-- **A tag does not reach the control plane**: not every edit that shows in the body of a create
shows in that of an update. -/
theorem not_edits_reach : ¬ ∀ (s s' : PostgreSqlSpec) (name : String) (vpc : Option String)
    (body body' : CreateService) (u u' : UpdateService),
    s'.forkFromServiceName = s.forkFromServiceName →
    s'.service.serviceIntegrations = s.service.serviceIntegrations →
    s.service.createRequest s.flavour name vpc = .ok body →
    s'.service.createRequest s'.flavour name vpc = .ok body' →
    (body.DiffersBesidesTags body' ∨ body'.tags ≠ body.tags) →
    s.service.updateRequest s.flavour vpc = .ok u →
    s'.service.updateRequest s'.flavour vpc = .ok u' → u'.encode ≠ u.encode := by
  intro reach
  exact reach Edited.before Edited.tagged "orders" none _ _ _ _ rfl rfl rfl rfl
    (.inr (by decide)) rfl rfl rfl

end ServiceOperator
