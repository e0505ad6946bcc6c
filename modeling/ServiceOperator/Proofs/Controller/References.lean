import ServiceOperator.Controller.Watches
import ServiceOperator.Kinds.Service
import ServiceOperator.Proofs.Kubernetes.Places

/-!
# References

A record refers to other objects by texts of its own: to what its dependencies are on, and to the
secret with its password (`Record.RefersTo`).  These are the objects that its controller watches
(`Record.RefersTo.covered`), and they are the ones from which a change leads back to the record
(`Record.mem_dependents`).  `Record.places` are the places at which it has them looked for.

Two directions have to agree here.  What a pass looks for is told by `Record.dependencies`, and what
leads back from an object is told by what the object provides (`Record.provides?`); the watches of a
controller stand between them, one switch for each sort of target (`Watches.coversTarget`).
`coversTarget_of_mem_dependencies` checks the switches against the dependencies, kind by kind.
-/

namespace ServiceOperator

open Kubernetes (Place)

variable {r : Record} {o : Watched} {d : Dependency}

/-- Where the declared record of a dependency is looked for. -/
def Dependency.places (d : Dependency) : List Place :=
  match d.target with
  | .service name => [.record .postgreSql d.namespaceName name, .record .kafka d.namespaceName name]
  | .projectVpc name => [.record .projectVpc d.namespaceName name]
  | .database _ _ => [.records .database d.namespaceName]
  | .serviceUser _ _ => [.records .serviceUser d.namespaceName]

theorem Dependency.mem_places_projectVpc (ns name : String) :
    .record .projectVpc ns name ∈ (projectVpc ns name).places :=
  List.mem_singleton.mpr rfl

/-- Some watch is for what a dependency is on. -/
def Watches.coversTarget (w : Watches) : DependencyTarget → Bool
  | .service _ => w.services
  | .projectVpc _ => w.projectVpcs
  | .database _ _ => w.databases
  | .serviceUser _ _ => w.serviceUsers

namespace Record

/-- The service that a record declares, if it declares one. -/
def service? (r : Record) : Option ServiceSpec :=
  match r.spec with
  | .postgreSql s => some s.service
  | .kafka s => some s.service
  | _ => none

/-- Where the objects lie that a record refers to. -/
def places (r : Record) : List Place :=
  r.dependencies.flatMap Dependency.places ++
    r.secretSource?.toList.map fun s => .secret (r.sourceNamespace s) s.name

/-- The texts by which a record refers to objects stand for themselves. -/
def RefersPlainly (r : Record) : Prop := ∀ p ∈ r.places, p.Plain

instance (r : Record) : Decidable r.RefersPlainly :=
  List.decidableBAll Place.Plain r.places

/-- A record refers to an object: it depends on what the object provides, or the object is the
secret from which it gets its password. -/
def RefersTo (r : Record) : Watched → Prop
  | .record o => ∃ d ∈ r.dependencies, o.provides? = some d
  | .secret ns name => ∃ s, r.secretSource? = some s ∧ r.sourceNamespace s = ns ∧ s.name = name

theorem RefersPlainly.dependency (plain : r.RefersPlainly) (depends : d ∈ r.dependencies) :
    ∀ p ∈ d.places, p.Plain :=
  fun p listed => plain p (List.mem_append_left _ (List.mem_flatMap.mpr ⟨d, depends, listed⟩))

theorem RefersPlainly.source {s : SecretSource} (plain : r.RefersPlainly)
    (declared : r.secretSource? = some s) : (Place.secret (r.sourceNamespace s) s.name).Plain :=
  plain _ (List.mem_append_right _ (by simp [declared]))

/-- The VPC of a service is one of the dependencies of its record. -/
theorem projectVpc_mem_dependencies {s : ServiceSpec} {reference : ResourceReference}
    (declared : r.service? = some s) (refers : s.projectVpcRef = some reference) :
    .projectVpc (reference.namespaceName.getD r.namespaceName) reference.name ∈ r.dependencies := by
  cases spec : r.spec <;> simp only [service?, spec] at declared <;> cases declared
  · simp [dependencies, spec, serviceDependencies, refers]
  · simp [dependencies, spec, serviceDependencies, refers]

/-- A service depends on its VPC and on other services only. -/
theorem target_of_mem_serviceDependencies {ns : String} {s : ServiceSpec}
    (depends : d ∈ serviceDependencies ns s) :
    (∃ name, d.target = .projectVpc name) ∨ ∃ name, d.target = .service name := by
  rcases List.mem_append.mp depends with depends | depends
  · obtain ⟨v, -, rfl⟩ := List.mem_map.mp depends
    exact .inl ⟨_, rfl⟩
  · obtain ⟨i, -, rfl⟩ := List.mem_map.mp depends
    exact .inr ⟨_, rfl⟩

/-- **Every dependency is on something that the controller of the kind watches.** -/
theorem coversTarget_of_mem_dependencies (depends : d ∈ r.dependencies) :
    r.kind.watches.coversTarget d.target = true := by
  have ofService {ns : String} {s : ServiceSpec} {w : Watches} (services : w.services = true)
      (projectVpcs : w.projectVpcs = true) (depends : d ∈ serviceDependencies ns s) :
      w.coversTarget d.target = true := by
    rcases target_of_mem_serviceDependencies depends with ⟨name, target⟩ | ⟨name, target⟩
    · rwa [target]
    · rwa [target]
  unfold kind
  unfold dependencies at depends
  cases spec : r.spec with
  | postgreSql s =>
      simp only [spec] at depends
      rcases List.mem_append.mp depends with depends | depends
      · exact ofService rfl rfl depends
      · obtain ⟨source, -, rfl⟩ := List.mem_map.mp depends
        rfl
  | kafka s =>
      simp only [spec] at depends
      exact ofService rfl rfl depends
  | connectionPool s =>
      simp only [spec, List.mem_cons, List.not_mem_nil, or_false] at depends
      rcases depends with rfl | rfl | rfl <;> rfl
  | serviceIntegration s =>
      simp only [spec, List.mem_cons, List.not_mem_nil, or_false] at depends
      rcases depends with rfl | rfl <;> rfl
  | projectVpc s =>
      simp only [spec] at depends
      cases depends
  | _ =>
      simp only [spec, List.mem_singleton] at depends
      subst depends
      rfl

/-- A watch covers a record exactly if it is for what the record provides. -/
theorem covers_of_provides {o : Record} {w : Watches} (provides : o.provides? = some d) :
    w.covers (.record o) = w.coversTarget d.target := by
  unfold provides? at provides
  cases spec : o.spec <;> simp only [spec] at provides <;> cases provides <;>
    simp [Watches.covers, kind, spec, Spec.kind, Watches.coversTarget, Dependency.service,
      Dependency.projectVpc, Dependency.database, Dependency.serviceUser]

/-- What a record refers to is watched by the controller of its kind. -/
theorem RefersTo.covered (refers : r.RefersTo o) : r.kind.watches.covers o = true := by
  cases o with
  | record o =>
      obtain ⟨d, depends, provides⟩ := refers
      rw [covers_of_provides provides]
      exact coversTarget_of_mem_dependencies depends
  | secret ns name =>
      obtain ⟨s, declared, -⟩ := refers
      unfold secretSource? at declared
      unfold kind
      cases spec : r.spec with
      | serviceUser s => rfl
      | _ => simp only [spec] at declared; cases declared

/-- The records that come back when an object changes are those that refer to it. -/
theorem mem_dependents {records : List Record} :
    r ∈ o.dependents records ↔ r ∈ records ∧ r.RefersTo o := by
  cases o with
  | record o =>
      cases provides : o.provides? with
      | none => simp [Watched.dependents, RefersTo, provides]
      | some d => simp [Watched.dependents, RefersTo, provides, dependentsOf]
  | secret ns name =>
      cases declared : r.secretSource? with
      | none => simp [Watched.dependents, RefersTo, declared, usersOfSecret]
      | some s =>
          simp [Watched.dependents, RefersTo, declared, usersOfSecret, and_comm]

end Record

end ServiceOperator
