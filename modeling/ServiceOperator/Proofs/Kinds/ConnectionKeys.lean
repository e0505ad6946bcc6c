import Mathlib.Data.List.Forall2
import Mathlib.Data.List.Nodup
import ServiceOperator.Kinds.ConnectionPool
import ServiceOperator.Kinds.Service
import ServiceOperator.Kinds.ServiceUser
import ServiceOperator.Proofs.StringMap

/-!
# The keys of connection secrets

What a connection secret holds is said by a table for each kind (`KeySet`): its keys in their
documented order, which of them are needed, and what in the documents each of them tells.  A table
does not say how documents are searched.  It speaks of the first component of a name that is for
primary use, of the listener for certificates, of the primary user (`First`, `Preferably`), and it
names the keys that are pairs, because they tell one endpoint.

The tables govern what comes of connecting (`connection_keys_exact`).  This is the error that names
the first needed key for which the documents have no value, or else a connection secret with the
keys that are needed and those that have a value and no others, and with one endpoint in each pair.

### How a table comes to govern

The code of a kind collects its values one after the other and stops at the first needed one that is
missing.  `gather` does the same for any table, given a list of values, and `governs_gather` is the
induction over the table: if each value is from where its key says (`Sourced`), what comes of
gathering is described by the table.  A kind is then left with two things to check, that its code is
the `gather` of its table, and that each of its searches finds what the key names (`Found`).  The
second is made of the few lemmas at the beginning, which say so for a search of a list, for a search
with another one behind it, and for what is read off something found.

### Pairs

The host and the port of an endpoint are two keys, and a table that gave each of them a source of
its own would let them come from two endpoints.  `KeyPair` gives them one source, and
`KeySet.Tells.together` uses that an endpoint that is found is the only one.
-/

namespace ServiceOperator

/-! ## Being found -/

section Found

variable {α β : Type} {P Q : α → Prop} {x y : Option α} {l : List α}

/-- The first element of a list with a property. -/
def First (l : List α) (P : α → Prop) (a : α) : Prop :=
  ∃ before after, l = before ++ a :: after ∧ P a ∧ ∀ b ∈ before, ¬ P b

/-- With one property, or else, where nothing has it, with another one. -/
def Preferably (P Q : α → Prop) (a : α) : Prop :=
  P a ∨ (∀ b, ¬ P b) ∧ Q a

/-- Read off something with a property. -/
def Of (P : α → Prop) (f : α → β) (b : β) : Prop :=
  ∃ a, P a ∧ f a = b

/-- A lookup finds what has a property. -/
def Found (x : Option α) (P : α → Prop) : Prop :=
  ∀ a, P a ↔ x = some a

theorem Found.none_iff (found : Found x P) : (∀ a, ¬ P a) ↔ x = none := by
  rw [Option.eq_none_iff_forall_ne_some]
  exact forall_congr' fun a => not_congr (found a)

theorem Found.given (a : α) : Found (some a) (· = a) := fun b => by
  rw [Option.some.injEq, eq_comm]

theorem Found.self (x : Option α) : Found x fun a => x = some a := fun _ => Iff.rfl

/-- A search of a list finds the first element with a property, if a test decides it. -/
theorem Found.find? {p : α → Bool} (decides : ∀ a, p a = true ↔ P a) :
    Found (l.find? p) (First l P) := fun a => by
  simp only [First, List.find?_eq_some_iff_append, Bool.not_eq_true', ← Bool.not_eq_true, decides]
  constructor
  · rintro ⟨before, after, split, holds, fails⟩
    exact ⟨holds, before, after, split, fails⟩
  · rintro ⟨holds, before, after, split, fails⟩
    exact ⟨before, after, split, holds, fails⟩

theorem Found.or (found : Found x P) (instead : Found y Q) :
    Found (x.or y) (Preferably P Q) := fun a => by
  rw [Option.or_eq_some_iff, Preferably, found a, found.none_iff, instead a]

theorem Found.map (found : Found x P) (f : α → β) : Found (x.map f) (Of P f) := fun b => by
  simp only [Option.map_eq_some_iff, Of, found _]

/-- What something found has, if it has it. -/
theorem Found.bind (found : Found x P) (f : α → Option β) :
    Found (x.bind f) fun b => ∃ a, P a ∧ f a = some b := fun b => by
  simp only [Option.bind_eq_some_iff, found _]

end Found

/-! ## What documents tell -/

/-- Where one connects to. -/
structure Endpoint where
  host : String
  port : String

/-- Where a component of a service listens. -/
def ServiceComponent.address (c : ServiceComponent) : Endpoint where
  host := c.host
  port := toString c.port

namespace ServiceDocument

variable (d : ServiceDocument)

/-- A parameter of the address of the service. -/
def HasParam (name value : String) : Prop := d.serviceUriParams.get? name = some value

/-- How strictly the connection is encrypted: as the service says, or else in the usual way. -/
def IsSslMode : String → Prop := Preferably (d.HasParam "sslmode") (· = defaultSslMode)

/-- The part of a service with a name, its primary one before any other. -/
def IsPart (name : String) : ServiceComponent → Prop :=
  Preferably (First d.components fun c => c.component = name ∧ c.usage = some "primary")
    (First d.components fun c => c.component = name)

/-- The part of a service that serves Kafka to clients with a way to authenticate. -/
def IsListener (method : String) : ServiceComponent → Prop :=
  First d.components fun c => c.component = "kafka" ∧ c.kafkaAuthenticationMethod = some method

/-- The part of a Kafka service to which one connects with a certificate. -/
def IsBroker : ServiceComponent → Prop :=
  Preferably (d.IsListener "certificate") (d.IsPart "kafka")

/-- The user that stands for a service: its primary one before the first. -/
def IsAdmin : UserDocument → Prop :=
  Preferably (First d.users fun u => u.userType = some "primary") (First d.users fun _ => True)

/-- The address of a service. -/
def IsAddress (e : Endpoint) : Prop := d.HasParam "host" e.host ∧ d.HasParam "port" e.port

/-- Where the users of a service connect to: its address, or else its part that is named like its
type. -/
def IsEntrance : Endpoint → Prop :=
  Preferably d.IsAddress (Of (d.IsPart d.serviceType) ServiceComponent.address)

end ServiceDocument

/-! ## Tables of keys -/

/-- A key of a connection secret, with the values that it may have. -/
structure ConnectionKey where
  name : String
  /-- There is no connection secret without a value for it. -/
  needed : Bool
  source : String → Prop

/-- Two keys that tell the host and the port of an endpoint. -/
structure KeyPair where
  host : String
  port : String
  serves : Endpoint → Prop

/-- The keys of a connection secret in their documented order, and those of them that are pairs. -/
structure KeySet where
  keys : List ConnectionKey
  pairs : List KeyPair

/-- The keys that tell an endpoint. -/
def KeyPair.keys (p : KeyPair) (needed : Bool) : List ConnectionKey :=
  [⟨p.host, needed, Of p.serves Endpoint.host⟩, ⟨p.port, needed, Of p.serves Endpoint.port⟩]

/-- Both keys are missing, or both tell one endpoint. -/
def KeyPair.Together (p : KeyPair) (info : ConnectionInfo) : Prop :=
  info.get? p.host = none ∧ info.get? p.port = none ∨
    ∃ e, p.serves e ∧ info.get? p.host = some e.host ∧ info.get? p.port = some e.port

/-- A connection secret has the keys of a table that are needed and those that have a value, and no
others.  The values are from where the table says, and pairs tell one endpoint. -/
structure KeySet.Describes (s : KeySet) (info : ConnectionInfo) : Prop where
  present : ∀ name, info.get? name ≠ none ↔
    ∃ key ∈ s.keys, key.name = name ∧ (key.needed = true ∨ ∃ v, key.source v)
  told : ∀ key ∈ s.keys, ∀ v, info.get? key.name = some v ↔ key.source v
  together : ∀ p ∈ s.pairs, p.Together info

/-- What comes of collecting values of keys: the error that names the first needed key without a
value, or a result with a property. -/
inductive UnlessMissing {α : Type} (service : String) (keys : List ConnectionKey) (P : α → Prop) :
    Except OperatorError α → Prop
  | missing {before after : List ConnectionKey} {key : ConnectionKey} :
      keys = before ++ key :: after → key.needed = true → (∀ v, ¬ key.source v) →
      (∀ earlier ∈ before, earlier.needed = true → ∃ v, earlier.source v) →
      UnlessMissing service keys P
        (.error (.transport ("service " ++ service ++ " reported no value for " ++ key.name)))
  | complete {a : α} : P a → UnlessMissing service keys P (.ok a)

/-- Connecting to a service goes by a table. -/
def KeySet.Governs (s : KeySet) (service : String) : Except OperatorError ConnectionInfo → Prop :=
  UnlessMissing service s.keys s.Describes

section Tables

variable (d : ServiceDocument) (ca : String)

/-- What one needs to connect to a PostgreSQL service. -/
def PostgreSqlSpec.keySet : KeySet where
  keys :=
    [⟨"HOST", true, d.HasParam "host"⟩,
     ⟨"PORT", true, d.HasParam "port"⟩,
     ⟨"DATABASE", true, d.HasParam "dbname"⟩,
     ⟨"USER", true, d.HasParam "user"⟩,
     ⟨"PASSWORD", true, d.HasParam "password"⟩,
     ⟨"SSLMODE", true, d.IsSslMode⟩,
     ⟨"DATABASE_URI", true, fun v => d.serviceUri = some v⟩,
     ⟨"CA_CERT", true, (· = ca)⟩]
  pairs := [⟨"HOST", "PORT", d.IsAddress⟩]

namespace KafkaSpec

/-- The main endpoint of a Kafka service. -/
def brokerPair : KeyPair := ⟨"HOST", "PORT", Of d.IsBroker ServiceComponent.address⟩

/-- The endpoint for clients with a password. -/
def saslPair : KeyPair :=
  ⟨"SASL_HOST", "SASL_PORT", Of (d.IsListener "sasl") ServiceComponent.address⟩

/-- The endpoint of the schema registry. -/
def registryPair : KeyPair :=
  ⟨"SCHEMA_REGISTRY_HOST", "SCHEMA_REGISTRY_PORT",
    Of (d.IsPart "schema_registry") ServiceComponent.address⟩

/-- The endpoint for requests over HTTP. -/
def restPair : KeyPair :=
  ⟨"REST_HOST", "REST_PORT", Of (d.IsPart "kafka_rest") ServiceComponent.address⟩

/-- What one shows to a Kafka service, and the certificate that it shows. -/
def credentialKeys : List ConnectionKey :=
  [⟨"USERNAME", true, Of d.IsAdmin UserDocument.username⟩,
   ⟨"PASSWORD", true, fun v => ∃ u, d.IsAdmin u ∧ u.password = some v⟩,
   ⟨"ACCESS_CERT", false, fun v => ∃ u, d.IsAdmin u ∧ u.accessCert = some v⟩,
   ⟨"ACCESS_KEY", false, fun v => ∃ u, d.IsAdmin u ∧ u.accessKey = some v⟩,
   ⟨"CA_CERT", true, (· = ca)⟩]

/-- What one needs to connect to a Kafka service. -/
def keySet : KeySet where
  keys :=
    (brokerPair d).keys true ++ credentialKeys d ca ++ (saslPair d).keys false ++
    (registryPair d).keys false ++ (restPair d).keys false
  pairs := [brokerPair d, saslPair d, registryPair d, restPair d]

end KafkaSpec

namespace ServiceUserSpec

/-- The endpoint for the users of a service. -/
def entrancePair : KeyPair := ⟨"HOST", "PORT", d.IsEntrance⟩

/-- What one needs to connect as a user of a service. -/
def keySet (u : UserDocument) : KeySet where
  keys := (entrancePair d).keys true ++
    [⟨"USERNAME", true, (· = u.username)⟩,
     ⟨"PASSWORD", true, fun v => u.password = some v⟩,
     ⟨"ACCESS_CERT", false, fun v => u.accessCert = some v⟩,
     ⟨"ACCESS_KEY", false, fun v => u.accessKey = some v⟩,
     ⟨"CA_CERT", true, (· = ca)⟩]
  pairs := [entrancePair d]

end ServiceUserSpec

namespace ConnectionPoolSpec

variable (s : ConnectionPoolSpec) (p : ServicePool)

/-- The endpoint of the pools of a service. -/
def frontPair : KeyPair := ⟨"HOST", "PORT", Of (d.IsPart "pgbouncer") ServiceComponent.address⟩

/-- The password of the user as which the pool connects. -/
def IsPassword (v : String) : Prop :=
  ∃ u, First p.service.users (fun u => u.username = s.username) u ∧ u.password = some v

/-- An address of the pool, put together from the other values. -/
def IsBuiltUri (v : String) : Prop :=
  ∃ e, Of (p.service.IsPart "pgbouncer") ServiceComponent.address e ∧
    ∃ password, s.IsPassword p password ∧
    ∃ sslMode, p.service.IsSslMode sslMode ∧
    uri s.username password e.host e.port p.pool.poolName sslMode = v

/-- What one needs to connect to a pool. -/
def keySet : KeySet where
  keys := (frontPair p.service).keys true ++
    [⟨"DATABASE", true, (· = p.pool.poolName)⟩,
     ⟨"USER", true, (· = s.username)⟩,
     ⟨"PASSWORD", true, s.IsPassword p⟩,
     ⟨"SSLMODE", true, p.service.IsSslMode⟩,
     ⟨"DATABASE_URI", true,
      Preferably (fun v => p.pool.connectionUri = some v) (s.IsBuiltUri p)⟩,
     ⟨"CA_CERT", true, (· = ca)⟩]
  pairs := [frontPair p.service]

end ConnectionPoolSpec

end Tables

/-! ## Gathering values -/

/-- The values for keys that tell an endpoint. -/
def Endpoint.values (e : Option Endpoint) : List (Option String) :=
  [e.map Endpoint.host, e.map Endpoint.port]

section Gathering

variable {α β : Type} {d : ServiceDocument} {s : KeySet} {p : KeyPair} {key : ConnectionKey}
  {keys : List ConnectionKey} {values : List (Option String)} {entries : List (String × String)}
  {info : ConnectionInfo} {service name : String} {source : String → Prop} {value : Option String}

/-- The entry of a key in a connection secret, from its value. -/
def ConnectionKey.entry (d : ServiceDocument) (key : ConnectionKey) (value : Option String) :
    Except OperatorError (List (String × String)) :=
  if key.needed then (fun v => [(key.name, v)]) <$> required d key.name value
  else .ok (optional key.name value)

/-- The entries of a connection secret from the values of its keys, in their order. -/
def gather (d : ServiceDocument) :
    List ConnectionKey → List (Option String) → Except OperatorError (List (String × String))
  | key :: keys, value :: values => do
    let first ← key.entry d value
    (first ++ ·) <$> gather d keys values
  | _, _ => .ok []

@[simp] theorem required_some {v : String} : required d name (some v) = pure v := rfl

@[simp] theorem gather_nil : gather d [] [] = pure [] := rfl

theorem gather_needed : gather d (⟨name, true, source⟩ :: keys) (value :: values) =
    required d name value >>= fun v => ((name, v) :: ·) <$> gather d keys values := by
  cases value <;> rfl

theorem gather_optional : gather d (⟨name, false, source⟩ :: keys) (value :: values) =
    (optional name value ++ ·) <$> gather d keys values := rfl

/-- Two needed keys that tell an endpoint are gathered one after the other. -/
theorem gather_pair_needed {e : Option Endpoint} :
    gather d (p.keys true ++ keys) (Endpoint.values e ++ values) =
      required d p.host (e.map Endpoint.host) >>= fun host =>
        required d p.port (e.map Endpoint.port) >>= fun port =>
          ([(p.host, host), (p.port, port)] ++ ·) <$> gather d keys values := by
  simp only [KeyPair.keys, Endpoint.values, List.cons_append, List.nil_append, gather_needed,
    map_bind, Functor.map_map]

/-- Two keys that tell an endpoint and are not needed are both there or both left out. -/
theorem gather_pair_optional {c : Option ServiceComponent} :
    gather d (p.keys false ++ keys) (Endpoint.values (c.map ServiceComponent.address) ++ values) =
      (endpoint p.host p.port c ++ ·) <$> gather d keys values := by
  simp only [KeyPair.keys, Endpoint.values, List.cons_append, List.nil_append, gather_optional,
    Functor.map_map]
  cases c <;> rfl

theorem gather_pair_last {c : Option ServiceComponent} :
    gather d (p.keys false) (Endpoint.values (c.map ServiceComponent.address)) =
      pure (endpoint p.host p.port c) := by
  cases c <;> rfl

/-- The values of keys are from where the keys say. -/
abbrev Sourced (keys : List ConnectionKey) (values : List (Option String)) : Prop :=
  List.Forall₂ (fun key value => Found value key.source) keys values

theorem Sourced.append {more : List ConnectionKey} {others : List (Option String)}
    (sourced : Sourced keys values) (rest : Sourced more others) :
    Sourced (keys ++ more) (values ++ others) :=
  List.rel_append sourced rest

theorem Sourced.pair {e : Option Endpoint} {needed : Bool} (found : Found e p.serves) :
    Sourced (p.keys needed) (Endpoint.values e) :=
  .cons (found.map _) (.cons (found.map _) .nil)

/-- Entries of a connection secret are those of the keys that have a value. -/
structure EntriesOf (keys : List ConnectionKey) (entries : List (String × String)) : Prop where
  needed : ∀ key ∈ keys, key.needed = true → ∃ v, key.source v
  names : (entries.map Prod.fst).Sublist (keys.map ConnectionKey.name)
  mem_iff : ∀ name v, (name, v) ∈ entries ↔ ∃ key ∈ keys, key.name = name ∧ key.source v

namespace EntriesOf

theorem nil : EntriesOf [] [] where
  needed := by simp
  names := .slnil
  mem_iff := by simp

theorem skip (rest : EntriesOf keys entries) (free : key.needed = false)
    (none : ∀ v, ¬ key.source v) : EntriesOf (key :: keys) entries where
  needed := List.forall_mem_cons.mpr ⟨fun needed => by simp [free] at needed, rest.needed⟩
  names := rest.names.cons _
  mem_iff name v := by simp [rest.mem_iff, none]

/-- A key with a value is entered with it. -/
theorem enter {v : String} (rest : EntriesOf keys entries) (found : Found (some v) key.source) :
    EntriesOf (key :: keys) ((key.name, v) :: entries) where
  needed := List.forall_mem_cons.mpr ⟨fun _ => ⟨v, (found v).mpr rfl⟩, rest.needed⟩
  names := rest.names.cons_cons _
  mem_iff name w := by
    rw [List.mem_cons, rest.mem_iff, Prod.mk.injEq]
    simp only [List.mem_cons, exists_eq_or_imp, found w, Option.some.injEq]
    rw [eq_comm, eq_comm (a := v)]

end EntriesOf

namespace UnlessMissing

variable {P : α → Prop} {Q : β → Prop} {result : Except OperatorError α}

/-- What is made of the results. -/
theorem map (outcome : UnlessMissing service keys P result) {f : α → β}
    (makes : ∀ a, P a → Q (f a)) : UnlessMissing service keys Q (f <$> result) := by
  cases outcome with
  | missing split needed none earlier => exact .missing split needed none earlier
  | complete holds => exact .complete (makes _ holds)

/-- A key that is not missing comes first. -/
theorem behind (outcome : UnlessMissing service keys P result)
    (told : key.needed = true → ∃ v, key.source v) :
    UnlessMissing service (key :: keys) P result := by
  cases outcome with
  | missing split needed none earlier =>
      exact .missing (congrArg (key :: ·) split) needed none
        (List.forall_mem_cons.mpr ⟨told, earlier⟩)
  | complete holds => exact .complete holds

end UnlessMissing

/-- Values are gathered up to the first needed key that has none. -/
theorem unlessMissing_gather (sourced : Sourced keys values) :
    UnlessMissing d.serviceName keys (EntriesOf keys) (gather d keys values) := by
  induction sourced with
  | nil => exact .complete .nil
  | @cons key value keys values found _ ih =>
      obtain ⟨name, needed, source⟩ := key
      cases needed with
      | true =>
          rw [gather_needed]
          cases value with
          | none =>
              have split : ⟨name, true, source⟩ :: keys = [] ++ ⟨name, true, source⟩ :: keys := rfl
              exact .missing split rfl (found.none_iff.mpr rfl) (by simp)
          | some v =>
              exact (ih.map fun _ rest => rest.enter found).behind fun _ => ⟨v, (found v).mpr rfl⟩
      | false =>
          rw [gather_optional]
          refine (ih.map fun entries rest => ?_).behind nofun
          cases value with
          | none => exact rest.skip rfl (found.none_iff.mpr rfl)
          | some v => exact rest.enter found

/-- The value of a key is under its name, as no other key has that name. -/
theorem EntriesOf.get?_iff (gathered : EntriesOf keys entries)
    (distinct : (keys.map ConnectionKey.name).Nodup) (member : key ∈ keys) {v : String} :
    (StringMap.ofList entries).get? key.name = some v ↔ key.source v := by
  rw [StringMap.get?_ofList (gathered.names.nodup distinct), gathered.mem_iff]
  constructor
  · rintro ⟨other, listed, same, holds⟩
    exact List.inj_on_of_nodup_map distinct listed member same ▸ holds
  · exact fun holds => ⟨key, member, rfl, holds⟩

/-- A connection secret has what a table tells. -/
abbrev KeySet.Tells (s : KeySet) (info : ConnectionInfo) : Prop :=
  ∀ key ∈ s.keys, ∀ v, info.get? key.name = some v ↔ key.source v

/-- Keys that tell an endpoint tell one endpoint. -/
theorem KeySet.Tells.together (told : s.Tells info) (needed : Bool)
    (listed : p.keys needed ⊆ s.keys) : p.Together info := by
  obtain ⟨hostListed, listed⟩ := List.cons_subset.mp listed
  have host := told _ hostListed
  have port := told _ (List.cons_subset.mp listed).1
  cases found : info.get? p.host with
  | none =>
      refine .inl ⟨found, Option.eq_none_iff_forall_ne_some.mpr fun w told => ?_⟩
      obtain ⟨e, serves, -⟩ := (port w).mp told
      cases found.symm.trans ((host e.host).mpr ⟨e, serves, rfl⟩)
  | some v =>
      obtain ⟨e, serves, rfl⟩ := (host v).mp found
      exact .inr ⟨e, serves, found, (port e.port).mpr ⟨e, serves, rfl⟩⟩

/-- A table whose values are gathered governs what comes of it. -/
theorem KeySet.governs_gather (sourced : Sourced s.keys values)
    (distinct : (s.keys.map ConnectionKey.name).Nodup)
    (together : ∀ info, s.Tells info →
      (∀ key ∈ s.keys, key.needed = true → ∃ v, key.source v) → ∀ p ∈ s.pairs, p.Together info) :
    s.Governs d.serviceName (StringMap.ofList <$> gather d s.keys values) := by
  refine (unlessMissing_gather sourced).map fun entries gathered => ?_
  have told : s.Tells (.ofList entries) := fun key member v => gathered.get?_iff distinct member
  refine ⟨fun name => ?_, told, together _ told gathered.needed⟩
  rw [Option.ne_none_iff_exists']
  simp only [StringMap.get?_ofList (gathered.names.nodup distinct), gathered.mem_iff]
  constructor
  · rintro ⟨v, key, member, same, holds⟩
    exact ⟨key, member, same, .inr ⟨v, holds⟩⟩
  · rintro ⟨key, member, same, needed | ⟨v, holds⟩⟩
    · obtain ⟨v, holds⟩ := gathered.needed key member needed
      exact ⟨v, key, member, same, holds⟩
    · exact ⟨v, key, member, same, holds⟩

end Gathering

/-! ## Searching documents -/

namespace ServiceDocument

variable (d : ServiceDocument)

theorem found_param (name : String) : Found (d.serviceUriParams.get? name) (d.HasParam name) :=
  .self _

/-- How strictly the connection is encrypted is always found, as there is a usual way. -/
theorem found_sslMode :
    Found (some ((d.serviceUriParams.get? "sslmode").getD defaultSslMode)) d.IsSslMode := by
  rw [← Option.or_some]
  exact (d.found_param "sslmode").or (.given _)

/-- A part of a service is found by its name, its primary one first. -/
theorem found_part (name : String) : Found (d.component? name) (d.IsPart name) := by
  have searched : d.component? name =
      (d.components.find? fun c => c.component = name && c.usage = some "primary").or
        (d.components.find? fun c => c.component = name) := by
    unfold component?
    cases d.components.find? fun c => c.component = name && c.usage = some "primary" <;> rfl
  rw [searched]
  exact (Found.find? fun c => by simp).or (Found.find? fun c => by simp)

theorem found_listener (method : String) :
    Found (d.kafkaComponent? "kafka" method) (d.IsListener method) :=
  .find? fun c => by simp

theorem found_broker :
    Found ((d.kafkaComponent? "kafka" "certificate").or (d.component? "kafka")) d.IsBroker :=
  (d.found_listener "certificate").or (d.found_part "kafka")

theorem found_admin :
    Found ((d.users.find? fun u => u.userType = some "primary").or d.users.head?) d.IsAdmin := by
  have first : d.users.head? = d.users.find? fun _ => true := by cases d.users <;> rfl
  rw [first]
  exact (Found.find? fun u => by simp).or (Found.find? fun u => by simp)

/-- The address of a service, if its parameters tell the host and the port. -/
def address? : Option Endpoint :=
  (d.serviceUriParams.get? "host").bind fun host =>
    (d.serviceUriParams.get? "port").map fun port => ⟨host, port⟩

theorem found_address : Found d.address? d.IsAddress := fun ⟨host, port⟩ => by
  simp [address?, IsAddress, HasParam, Option.bind_eq_some_iff]

/-- Where the users of a service connect to, if the service tells it. -/
def entrance? : Option Endpoint :=
  d.address?.or ((d.component? d.serviceType).map ServiceComponent.address)

theorem found_entrance : Found d.entrance? d.IsEntrance :=
  d.found_address.or ((d.found_part d.serviceType).map _)

/-- The host and the port for a user are those of one entrance: they are never taken from two. -/
theorem hostAndPort_eq : ServiceUserSpec.hostAndPort d =
    (d.entrance?.map Endpoint.host, d.entrance?.map Endpoint.port) := by
  unfold ServiceUserSpec.hostAndPort entrance? address?
  cases d.serviceUriParams.get? "host" with
  | none => cases d.component? d.serviceType <;> rfl
  | some host =>
      cases d.serviceUriParams.get? "port" with
      | none => cases d.component? d.serviceType <;> rfl
      | some port => rfl

end ServiceDocument

/-! ## The kinds -/

section Kinds

variable (d : ServiceDocument) (ca : String)

/-- Connecting to a PostgreSQL service goes by its table. -/
theorem PostgreSqlSpec.governs_connectionInfo :
    (keySet d ca).Governs d.serviceName (connectionInfo d ca) := by
  let param := d.serviceUriParams.get?
  have gathered : connectionInfo d ca = StringMap.ofList <$> gather d (keySet d ca).keys
      [param "host", param "port", param "dbname", param "user", param "password",
        some ((param "sslmode").getD defaultSslMode), d.serviceUri, some ca] := by
    simp only [keySet, gather_needed, map_bind, Functor.map_map]
    rfl
  rw [gathered]
  refine KeySet.governs_gather ?_ ?_ ?_
  · exact .cons (.self _) (.cons (.self _) (.cons (.self _) (.cons (.self _) (.cons (.self _)
      (.cons d.found_sslMode (.cons (.self _) (.cons (.given _) .nil)))))))
  · have distinct : ["HOST", "PORT", "DATABASE", "USER", "PASSWORD", "SSLMODE", "DATABASE_URI",
        "CA_CERT"].Nodup := by decide
    exact distinct
  · intro info told needed pair member
    obtain rfl := List.mem_singleton.mp member
    obtain ⟨hostTold, told⟩ := List.forall_mem_cons.mp told
    obtain ⟨hostNeeded, needed⟩ := List.forall_mem_cons.mp needed
    obtain ⟨host, hasHost⟩ := hostNeeded rfl
    obtain ⟨port, hasPort⟩ := needed _ (.head _) rfl
    exact .inr ⟨⟨host, port⟩, ⟨hasHost, hasPort⟩, (hostTold host).mpr hasHost,
      (told _ (.head _) port).mpr hasPort⟩

/-- Connecting to a Kafka service goes by its table. -/
theorem KafkaSpec.governs_connectionInfo :
    (keySet d ca).Governs d.serviceName (connectionInfo d ca) := by
  let broker := (d.kafkaComponent? "kafka" "certificate").or (d.component? "kafka")
  let admin := (d.users.find? fun u => u.userType = some "primary").or d.users.head?
  let address := Option.map ServiceComponent.address
  let credentials := [admin.map UserDocument.username, admin.bind UserDocument.password,
    admin.bind UserDocument.accessCert, admin.bind UserDocument.accessKey, some ca]
  have gathered : connectionInfo d ca = StringMap.ofList <$> gather d (keySet d ca).keys
      (Endpoint.values (address broker) ++ credentials ++
        Endpoint.values (address (d.kafkaComponent? "kafka" "sasl")) ++
        Endpoint.values (address (d.component? "schema_registry")) ++
        Endpoint.values (address (d.component? "kafka_rest"))) := by
    simp only [connectionInfo, keySet, credentialKeys, credentials, List.append_assoc,
      List.cons_append, List.nil_append, gather_pair_needed, gather_pair_optional,
      gather_pair_last, gather_needed, gather_optional, address, Option.map_map, map_bind,
      map_pure]
    rfl
  rw [gathered]
  refine KeySet.governs_gather ?_ ?_ fun info told _ => ?_
  · have shown : Sourced (credentialKeys d ca) credentials :=
      have found := d.found_admin
      .cons (found.map _) (.cons (found.bind _) (.cons (found.bind _)
        (.cons (found.bind _) (.cons (.given ca) .nil))))
    exact ((((Sourced.pair (d.found_broker.map _)).append shown).append
      (.pair ((d.found_listener "sasl").map _))).append
      (.pair ((d.found_part "schema_registry").map _))).append
      (.pair ((d.found_part "kafka_rest").map _))
  · have distinct : ["HOST", "PORT", "USERNAME", "PASSWORD", "ACCESS_CERT", "ACCESS_KEY", "CA_CERT",
        "SASL_HOST", "SASL_PORT", "SCHEMA_REGISTRY_HOST", "SCHEMA_REGISTRY_PORT", "REST_HOST",
        "REST_PORT"].Nodup := by decide
    exact distinct
  · simp only [keySet, List.forall_mem_cons]
    refine ⟨told.together true ?_, told.together false ?_, told.together false ?_,
      told.together false ?_, nofun⟩
    all_goals
      intro key member
      simp [keySet, member]

/-- Connecting as a user goes by its table. -/
theorem ServiceUserSpec.governs_connectionInfo (u : UserDocument) :
    (keySet d ca u).Governs d.serviceName (connectionInfo d ca u) := by
  have gathered : connectionInfo d ca u = StringMap.ofList <$> gather d (keySet d ca u).keys
      (Endpoint.values d.entrance? ++
        [some u.username, u.password, u.accessCert, u.accessKey, some ca]) := by
    simp only [connectionInfo, ServiceDocument.hostAndPort_eq, keySet, gather_pair_needed,
      gather_needed, gather_optional, List.append_assoc, map_bind]
    rfl
  rw [gathered]
  refine KeySet.governs_gather ?_ ?_ fun info told _ => ?_
  · exact (Sourced.pair d.found_entrance).append <| .cons (.given _) (.cons (.self _)
      (.cons (.self _) (.cons (.self _) (.cons (.given _) .nil))))
  · have distinct : ["HOST", "PORT", "USERNAME", "PASSWORD", "ACCESS_CERT", "ACCESS_KEY",
        "CA_CERT"].Nodup := by decide
    exact distinct
  · simp only [keySet, List.forall_mem_cons]
    exact ⟨told.together true (List.subset_append_left ..), nofun⟩

end Kinds

section Pools

variable (s : ConnectionPoolSpec) (p : ServicePool) (ca : String)

namespace ConnectionPoolSpec

/-- The address of a pool that has one, or else the one put together from the other values. -/
def uri? : Option String :=
  p.pool.connectionUri.or <|
    ((p.service.component? "pgbouncer").map ServiceComponent.address).bind fun e =>
      ((p.service.user? s.username).bind UserDocument.password).map fun password =>
        uri s.username password e.host e.port p.pool.poolName
          ((p.service.serviceUriParams.get? "sslmode").getD defaultSslMode)

theorem found_password :
    Found ((p.service.user? s.username).bind UserDocument.password) (s.IsPassword p) :=
  (Found.find? fun u => by simp).bind _

/-- The address of a pool is the one that the pool tells, or else the one that is put together. -/
theorem found_uri : Found (s.uri? p)
    (Preferably (fun v => p.pool.connectionUri = some v) (s.IsBuiltUri p)) := by
  refine (Found.self _).or fun v => ?_
  simp only [IsBuiltUri, (p.service.found_part "pgbouncer").map ServiceComponent.address _,
    s.found_password p _, p.service.found_sslMode _, Option.bind_eq_some_iff,
    Option.map_eq_some_iff, Option.some.injEq, exists_eq_left']

/-- Connecting to a pool goes by its table. -/
theorem governs_connectionInfo :
    (s.keySet ca p).Governs p.service.serviceName (s.connectionInfo p ca) := by
  let front := (p.service.component? "pgbouncer").map ServiceComponent.address
  let sslMode := (p.service.serviceUriParams.get? "sslmode").getD defaultSslMode
  have gathered : s.connectionInfo p ca =
      StringMap.ofList <$> gather p.service (s.keySet ca p).keys (Endpoint.values front ++
        [some p.pool.poolName, some s.username,
          (p.service.user? s.username).bind UserDocument.password, some sslMode, s.uri? p,
          some ca]) := by
    simp only [connectionInfo, keySet, gather_pair_needed, gather_needed, map_bind, uri?, front,
      sslMode]
    -- The text of the address is only there behind the values that it is put together from.
    cases p.service.component? "pgbouncer" with
    | none => rfl
    | some c =>
        cases (p.service.user? s.username).bind UserDocument.password with
        | none => rfl
        | some password =>
            cases p.pool.connectionUri <;> simp [ServiceComponent.address, frontPair]
  rw [gathered]
  refine KeySet.governs_gather ?_ ?_ fun info told _ => ?_
  · exact (Sourced.pair ((p.service.found_part "pgbouncer").map _)).append <|
      .cons (.given _) (.cons (.given _) (.cons (s.found_password p)
        (.cons p.service.found_sslMode (.cons (s.found_uri p) (.cons (.given _) .nil)))))
  · have distinct : ["HOST", "PORT", "DATABASE", "USER", "PASSWORD", "SSLMODE", "DATABASE_URI",
        "CA_CERT"].Nodup := by decide
    exact distinct
  · simp only [keySet, List.forall_mem_cons]
    exact ⟨told.together true (List.subset_append_left ..), nofun⟩

end ConnectionPoolSpec

end Pools

/-- **The keys of connection secrets are exact.**  For every document of a service, a user or a pool
and every certificate, the table of the kind governs what comes of connecting. -/
theorem connection_keys_exact :
    (∀ d ca, (PostgreSqlSpec.keySet d ca).Governs d.serviceName
      (PostgreSqlSpec.connectionInfo d ca)) ∧
    (∀ d ca, (KafkaSpec.keySet d ca).Governs d.serviceName (KafkaSpec.connectionInfo d ca)) ∧
    (∀ d ca u, (ServiceUserSpec.keySet d ca u).Governs d.serviceName
      (ServiceUserSpec.connectionInfo d ca u)) ∧
    ∀ (s : ConnectionPoolSpec) p ca, (s.keySet ca p).Governs p.service.serviceName
      (s.connectionInfo p ca) :=
  ⟨PostgreSqlSpec.governs_connectionInfo, KafkaSpec.governs_connectionInfo,
    ServiceUserSpec.governs_connectionInfo, ConnectionPoolSpec.governs_connectionInfo⟩

end ServiceOperator
