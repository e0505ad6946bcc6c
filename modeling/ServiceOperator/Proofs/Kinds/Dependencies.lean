import ServiceOperator.Proofs.Kinds.Frames

/-!
# What dependencies come to

A pass looks the dependencies of its record up one after the other, and stops at the first one that
cannot be used.

* `DependencyLookup` says how one dependency is looked up and what it comes to: its declared record
  decides, and only where none is declared the resource that may exist without one.  The answers of
  the peers leave no choice (`DependencyLookup.unique`).
* `AllReady` and `FirstUnready` are the two ways in which a list of dependencies comes out, and
  `ensureReady_course` says that there is no other.

A lookup may also fail because a peer does.  Such an error says nothing about the dependency
(`OperatorError.OfCall`), so that a dependency is reported as missing or as not ready only where it
is (`DependencyLookup.missing_iff`, `DependencyLookup.notReady_iff`).

### What the records of a list declare

A service and a VPC are declared by the record of a name, which Kubernetes is asked for directly.  A
database and a user go by names of their own, and so the records of their kind are listed and
searched.  `Dependency.FirstProvider` says what the search comes to without mention of how it is
done: the first record of the list that provides the dependency, and none only where no record of
the list does.  By `providing_yields_ok_iff` a search yields nothing else, and
`DependencyLookup.provides` draws from it that the record which decides on such a dependency
declares that very database or user.

### Why a lookup is a relation

`DependencyLookup` speaks of an exchange and a finding, because the same answers have to be compared
with what they are taken for: an error is only known to be right when the lookup is at hand that it
came from.  It is still a function of the answers (`DependencyLookup.unique`), which is what turns
"there is a lookup that comes to nothing" into "every lookup does".
-/

namespace ServiceOperator

open ControlPlane (fetch_ofCall fetch_findOr_ofCall)

/-! ## What a dependency comes to -/

/-- What looking a dependency up comes to. -/
inductive Finding where
  | declared (record : Record)
  /-- No record is declared, but there is a resource, in a state if it is a service. -/
  | external (state : Option String)
  /-- There is neither a declared record nor a resource. -/
  | nowhere
  | failed (e : OperatorError)

namespace Finding

/-- The dependency can be used. -/
def Ready : Finding → Prop
  | declared r => r.isUsable = true
  | external (some state) => state = runningState
  | external none => True
  | nowhere => False
  | failed _ => False

/-- The dependency exists and cannot be used yet. -/
def Unready : Finding → Prop
  | declared r => r.isUsable = false
  | external (some state) => state ≠ runningState
  | external none => False
  | nowhere => False
  | failed _ => False

/-- The error of a dependency that cannot be used. -/
inductive Refuses (d : Dependency) : Finding → OperatorError → Prop
  | declared {r : Record} (unusable : r.isUsable = false) :
      Refuses d (.declared r) (.dependencyNotReady (d.describe ++ " is not ready: " ++
        (r.kind.name ++ " state is " ++ r.currentStatus.state.getD "not yet created")))
  | external {state : String} (other : state ≠ runningState) :
      Refuses d (.external (some state)) (.dependencyNotReady (d.describe ++ " is not ready: " ++
        ("service state is " ++ state)))
  | nowhere : Refuses d .nowhere (.dependencyMissing (d.describe ++ " does not exist"))
  | failed {e : OperatorError} : Refuses d (.failed e) e

/-- How far a dependency is, as the check of the preconditions sees it. -/
def readiness : Finding → Except OperatorError Readiness
  | declared r => .ok r.readiness
  | external (some state) =>
    .ok (if state = runningState then .ready else .notReady ("service state is " ++ state))
  | external none => .ok .ready
  | nowhere => .ok .absent
  | failed e => .error e

variable {d : Dependency} {finding : Finding} {e : OperatorError}

/-- The check lets a dependency through only if it can be used. -/
theorem ready_of_require (holds : finding.readiness.bind (Readiness.require d) = .ok ()) :
    finding.Ready := by
  cases finding with
  | declared r =>
      cases usable : r.isUsable with
      | true => exact usable
      | false => simp [readiness, Record.readiness, usable, Except.bind, Readiness.require] at holds
  | external state =>
      cases state with
      | none => trivial
      | some state =>
          by_cases running : state = runningState
          · exact running
          · simp [readiness, running, Except.bind, Readiness.require] at holds
  | nowhere => cases holds
  | failed e => cases holds

/-- The check refuses a dependency with the error that what was found calls for: the state is
told of one that exists, and the error of a lookup is handed on. -/
theorem refuses_of_require (fails : finding.readiness.bind (Readiness.require d) = .error e) :
    finding.Refuses d e := by
  cases finding with
  | declared r =>
      cases usable : r.isUsable with
      | true => simp [readiness, Record.readiness, usable, Except.bind, Readiness.require] at fails
      | false =>
          simp only [readiness, Record.readiness, usable] at fails
          cases fails
          exact .declared usable
  | external state =>
      cases state with
      | none => cases fails
      | some state =>
          by_cases running : state = runningState
          · simp [readiness, running, Except.bind, Readiness.require] at fails
          · simp only [readiness, if_neg running] at fails
            cases fails
            exact .external running
  | nowhere =>
      cases fails
      exact .nowhere
  | failed e =>
      cases fails
      exact .failed

end Finding

/-! ## Looking one dependency up -/

/-- The declared record of a dependency, if there is one.  A service may be declared as a record of
either of two kinds. -/
def declaredRecord (d : Dependency) : Action (Option Record) :=
  match d.target with
  | .service name => do
    match ← named .postgreSql d.namespaceName name with
    | some r => return some r
    | none => named .kafka d.namespaceName name
  | .projectVpc name => named .projectVpc d.namespaceName name
  | .database _ _ => providing .database d
  | .serviceUser _ _ => providing .serviceUser d

/-- What a list of records declares of a dependency: the first record that provides it, or none if
no record of the list does. -/
inductive Dependency.FirstProvider (d : Dependency) : List Record → Option Record → Prop
  | found {before after : List Record} {r : Record} (provides : r.provides? = some d)
      (first : ∀ o ∈ before, o.provides? ≠ some d) :
      FirstProvider d (before ++ r :: after) (some r)
  | nobody {records : List Record} (others : ∀ o ∈ records, o.provides? ≠ some d) :
      FirstProvider d records none

/-- The search of a list ends at its first provider. -/
theorem Dependency.firstProvider_iff {d : Dependency} {records : List Record}
    {found : Option Record} :
    d.FirstProvider records found ↔
      (records.find? fun r => r.provides? = some d) = found := by
  constructor
  · intro declares
    cases declares with
    | found provides first =>
        refine List.find?_eq_some_iff_append.mpr ⟨decide_eq_true provides, _, _, rfl, ?_⟩
        simpa using first
    | nobody others =>
        exact List.find?_eq_none.mpr fun o member => by simpa using others o member
  · rintro rfl
    cases search : records.find? fun r => r.provides? = some d with
    | none => exact .nobody fun o member => by simpa using List.find?_eq_none.mp search o member
    | some r =>
        obtain ⟨provides, before, after, rfl, first⟩ := List.find?_eq_some_iff_append.mp search
        exact .found (of_decide_eq_true provides) fun o member => by simpa using first o member

/-- A database or a user is declared by the first provider in the list of the records of its kind,
as Kubernetes gives it. -/
theorem providing_yields_ok_iff {k : Kind} {d : Dependency} {t : Exchange}
    {found : Option Record} :
    (providing k d).Yields t (.ok found) ↔ ∃ records,
      (Kubernetes.list (k.collection d.namespaceName)).Yields t (.ok records) ∧
        d.FirstProvider records found := by
  simp only [Dependency.firstProvider_iff]
  refine Action.yields_map.trans ⟨?_, ?_⟩
  · rintro ⟨listed, asked, same⟩
    cases listed with
    | error e => cases same
    | ok records => exact ⟨records, asked, (Except.ok.inj same).symm⟩
  · rintro ⟨records, asked, rfl⟩
    exact ⟨.ok records, asked, rfl⟩

/-- What a dependency of which no record is declared comes to by an answer of the control plane. -/
def Finding.ofAnswer : Except OperatorError (Option String) → Finding
  | .ok state => .external state
  | .error e => if e.isNotFound then .nowhere else .failed e

/-- An action that looks for a resource, which may have a state, comes to a finding. -/
def Seeks {α : Type} (action : Action α) (state : α → Option String) (t : Exchange)
    (finding : Finding) : Prop :=
  ∃ found, action.Yields t found ∧ finding = .ofAnswer (found.map state)

/-- How the resource of a dependency is looked up, if no record is declared.  A VPC is known by its
record only. -/
def ResourceLookup (base : Url) (project : String) (d : Dependency) (t : Exchange)
    (finding : Finding) : Prop :=
  match d.target with
  | .service name =>
    Seeks (ControlPlane.getService base project name) (fun s => some s.state) t finding
  | .projectVpc _ => t = [] ∧ finding = .nowhere
  | .database service name =>
    Seeks (ControlPlane.getDatabase base project service name) (fun _ => none) t finding
  | .serviceUser service name =>
    Seeks (ControlPlane.getUser base project service name) (fun _ => none) t finding

/-- How a dependency is looked up: by its declared record, and only where there is none by its
resource. -/
def DependencyLookup (base : Url) (project : String) (d : Dependency) (t : Exchange)
    (finding : Finding) : Prop :=
  ∃ first found second, t = first ++ second ∧ (declaredRecord d).Yields first found ∧
    match found with
    | .ok (some r) => second = [] ∧ finding = .declared r
    | .ok none => ResourceLookup base project d second finding
    | .error e => second = [] ∧ finding = .failed e

section Lookups

variable {base : Url} {project : String} {d : Dependency} {t : Exchange} {e : OperatorError}
  {finding other : Finding}

/-- How far a declared record is, is asked by searching for the record, and told from what the
search comes to. -/
theorem declaredReadiness_lookup {result : Except OperatorError Readiness}
    (yields : (declaredReadiness d).Yields t result) :
    ∃ found, (declaredRecord d).Yields t found ∧ result = found.map readinessOf := by
  unfold declaredReadiness at yields
  unfold declaredRecord
  cases target : d.target with
  | service name =>
      simp only [target] at yields ⊢
      obtain ⟨e, failed, rfl⟩ | ⟨first, found, second, rfl, looked, rest⟩ :=
        Action.yields_bind.mp yields
      · exact ⟨.error e, Action.yields_bind.mpr (.inl ⟨e, failed, rfl⟩), rfl⟩
      · cases found with
        | some r =>
            obtain ⟨rfl, rfl⟩ := Action.yields_pure.mp rest
            refine ⟨.ok (some r), Action.yields_bind.mpr (.inr ?_), rfl⟩
            exact ⟨first, some r, [], rfl, looked, Action.yields_pure.mpr ⟨rfl, rfl⟩⟩
        | none =>
            obtain ⟨found, lookedAgain, rfl⟩ := Action.yields_map.mp rest
            refine ⟨found, Action.yields_bind.mpr (.inr ?_), rfl⟩
            exact ⟨first, none, second, rfl, looked, lookedAgain⟩
  | projectVpc name =>
      simp only [target] at yields
      exact Action.yields_map.mp yields
  | database service name =>
      simp only [target] at yields
      exact Action.yields_map.mp yields
  | serviceUser service name =>
      simp only [target] at yields
      exact Action.yields_map.mp yields

/-- A look that takes an absence for an answer comes to a finding, and to how far the finding is. -/
theorem seeks_of_absentIfNotFound {α : Type} {action : Action α} {readiness : α → Readiness}
    {state : α → Option String} {result : Except OperatorError Readiness}
    (agrees : ∀ a, (Finding.external (state a)).readiness = .ok (readiness a))
    (yields : (absentIfNotFound action readiness).Yields t result) :
    ∃ finding, Seeks action state t finding ∧ result = finding.readiness := by
  obtain ⟨first, found, rest, rfl, looked, ending⟩ := Program.yields_bind.mp yields
  cases found with
  | ok a =>
      obtain ⟨rfl, rfl⟩ := Program.yields_done.mp ending
      exact ⟨_, ⟨.ok a, by simpa using looked, rfl⟩, (agrees a).symm⟩
  | error e =>
      cases absent : e.isNotFound with
      | true =>
          simp only [absent, if_true] at ending
          obtain ⟨rfl, rfl⟩ := Program.yields_done.mp ending
          exact ⟨.nowhere, ⟨.error e, by simpa using looked, (if_pos absent).symm⟩, rfl⟩
      | false =>
          have present : ¬ e.isNotFound = true := Bool.eq_false_iff.mp absent
          simp only [absent] at ending
          obtain ⟨rfl, rfl⟩ := Program.yields_done.mp ending
          exact ⟨.failed e, ⟨.error e, by simpa using looked, (if_neg present).symm⟩, rfl⟩

/-- How far a resource is, is asked by looking for it on the control plane, if it may exist
without a record. -/
theorem externalReadiness_lookup {result : Except OperatorError Readiness}
    (yields : (externalReadiness base project d).Yields t result) :
    ∃ finding, ResourceLookup base project d t finding ∧ result = finding.readiness := by
  unfold externalReadiness at yields
  unfold ResourceLookup
  cases target : d.target with
  | service name =>
      simp only [target] at yields
      exact seeks_of_absentIfNotFound (fun _ => rfl) yields
  | projectVpc name =>
      simp only [target] at yields
      obtain ⟨rfl, rfl⟩ := Action.yields_pure.mp yields
      exact ⟨_, ⟨rfl, rfl⟩, rfl⟩
  | database service name =>
      simp only [target] at yields
      exact seeks_of_absentIfNotFound (fun _ => rfl) yields
  | serviceUser service name =>
      simp only [target] at yields
      exact seeks_of_absentIfNotFound (fun _ => rfl) yields

/-- A dependency is looked up as `DependencyLookup` says. -/
theorem findDependency_lookup {result : Except OperatorError Readiness}
    (yields : ((findDependency project d).interpret fun q => (q.answer base).result).Yields t
      result) :
    ∃ finding, DependencyLookup base project d t finding ∧ result = finding.readiness := by
  obtain ⟨first, answer, rest, rfl, asked, after⟩ := Program.yields_bind.mp yields
  obtain ⟨found, looked, rfl⟩ := declaredReadiness_lookup asked
  cases found with
  | error e =>
      obtain ⟨rfl, rfl⟩ := Program.yields_done.mp after
      exact ⟨_, ⟨first, _, [], rfl, looked, rfl, rfl⟩, rfl⟩
  | ok found =>
      cases found with
      | none =>
          have asksOn : (externalReadiness base project d).Yields rest result := by
            rw [Action.Yields, ← Program.bind_done (externalReadiness base project d).result]
            exact after
          obtain ⟨finding, sought, rfl⟩ := externalReadiness_lookup asksOn
          exact ⟨finding, ⟨first, _, rest, rfl, looked, sought⟩, rfl⟩
      | some r =>
          -- A record that is declared is ready or not, but never absent.
          have ends : rest = [] ∧ result = .ok r.readiness := by
            dsimp only [Except.map, readinessOf] at after
            cases far : r.readiness with
            | ready =>
                rw [far] at after
                exact Program.yields_done.mp after
            | notReady why =>
                rw [far] at after
                exact Program.yields_done.mp after
            | absent =>
                unfold Record.readiness at far
                split at far <;> cases far
          obtain ⟨rfl, rfl⟩ := ends
          exact ⟨_, ⟨first, _, [], rfl, looked, rfl, rfl⟩, rfl⟩

/-! ## What a lookup says, and what it does not -/

/-- A search for a declared record fails with an error of a call only. -/
theorem declaredRecord_ofCall (failed : (declaredRecord d).Yields t (.error e)) : e.OfCall := by
  have byName {k : Kind} {ns name : String} {t : Exchange}
      (failed : (named k ns name).Yields t (.error e)) : e.OfCall := Kubernetes.call_ofCall failed
  have inList {k : Kind} (failed : (providing k d).Yields t (.error e)) : e.OfCall :=
    Kubernetes.call_ofCall (Action.yields_map_error.mp failed)
  unfold declaredRecord at failed
  split at failed
  case h_1 name target =>
    obtain ⟨e, failed, same⟩ | ⟨first, found, second, rfl, -, rest⟩ :=
      Action.yields_bind.mp failed
    · cases same
      exact byName failed
    · cases found with
      | some r => cases rest
      | none => exact byName rest
  case h_2 => exact byName failed
  case h_3 => exact inList failed
  case h_4 => exact inList failed

/-- A look that fails without meaning an absence fails as a call. -/
theorem Seeks.failed {α : Type} {action : Action α} {state : α → Option String}
    (seeks : Seeks action state t (.failed e)) : action.Yields t (.error e) := by
  obtain ⟨found, looked, settled⟩ := seeks
  cases found with
  | ok a => cases settled
  | error other =>
      rw [Except.map, Finding.ofAnswer] at settled
      split at settled <;> cases settled
      exact looked

/-- The answers decide what a look for a resource comes to. -/
theorem Seeks.unique {α : Type} {action : Action α} {state : α → Option String}
    (seeks : Seeks action state t finding) (again : Seeks action state t other) :
    finding = other := by
  obtain ⟨found, looked, rfl⟩ := seeks
  obtain ⟨found', looked', rfl⟩ := again
  obtain ⟨-, rfl⟩ := Program.Yields.unique looked looked' (rfl : t ++ [] = t ++ [])
  rfl

/-- A resource that cannot be looked up is one whose call failed. -/
theorem ResourceLookup.ofCall (looked : ResourceLookup base project d t (.failed e)) :
    e.OfCall := by
  unfold ResourceLookup at looked
  split at looked
  case h_1 => exact fetch_ofCall looked.failed
  case h_2 => cases looked.2
  case h_3 => exact fetch_findOr_ofCall .notFound looked.failed
  case h_4 => exact fetch_ofCall looked.failed

/-- A resource that is looked for on the control plane is never taken for a declared record. -/
theorem ResourceLookup.not_declared {r : Record}
    (looked : ResourceLookup base project d t (.declared r)) : False := by
  have notSought {α : Type} {action : Action α} {state : α → Option String} {t : Exchange}
      (seeks : Seeks action state t (.declared r)) : False := by
    obtain ⟨found, -, settled⟩ := seeks
    cases found with
    | ok a => cases settled
    | error e =>
        rw [Except.map, Finding.ofAnswer] at settled
        split at settled <;> cases settled
  unfold ResourceLookup at looked
  split at looked
  case h_1 => exact notSought looked
  case h_2 => cases looked.2
  case h_3 => exact notSought looked
  case h_4 => exact notSought looked

/-- The record that decides on a database or a user provides it: it declares that very database or
user of that service, in the namespace of the dependency. -/
theorem DependencyLookup.provides {r : Record} {service name : String}
    (looked : DependencyLookup base project d t (.declared r))
    (listed : d.target = .database service name ∨ d.target = .serviceUser service name) :
    r.provides? = some d := by
  obtain ⟨first, found, second, rfl, record, settled⟩ := looked
  split at settled
  case h_1 s =>
    cases settled.2
    have searched : ∃ k, (providing k d).Yields first (.ok (some r)) := by
      unfold declaredRecord at record
      rcases listed with target | target
      · exact ⟨.database, by simpa only [target] using record⟩
      · exact ⟨.serviceUser, by simpa only [target] using record⟩
    obtain ⟨k, searched⟩ := searched
    obtain ⟨records, -, declares⟩ := providing_yields_ok_iff.mp searched
    cases declares with
    | found provides => exact provides
  case h_2 => exact absurd settled ResourceLookup.not_declared
  case h_3 => cases settled.2

/-- A lookup that fails has met an error of a peer. -/
theorem DependencyLookup.ofCall (looked : DependencyLookup base project d t (.failed e)) :
    e.OfCall := by
  obtain ⟨first, found, second, rfl, record, settled⟩ := looked
  split at settled
  case h_1 => cases settled.2
  case h_2 => exact settled.ofCall
  case h_3 =>
    obtain ⟨-, same⟩ := settled
    cases same
    exact declaredRecord_ofCall record

/-- The answers decide what the resource of a dependency comes to. -/
theorem ResourceLookup.unique (looked : ResourceLookup base project d t finding)
    (again : ResourceLookup base project d t other) : finding = other := by
  unfold ResourceLookup at looked again
  cases target : d.target with
  | service name =>
      simp only [target] at looked again
      exact looked.unique again
  | projectVpc name =>
      simp only [target] at looked again
      exact looked.2.trans again.2.symm
  | database service name =>
      simp only [target] at looked again
      exact looked.unique again
  | serviceUser service name =>
      simp only [target] at looked again
      exact looked.unique again

/-- The answers decide what a dependency comes to. -/
theorem DependencyLookup.unique (looked : DependencyLookup base project d t finding)
    (again : DependencyLookup base project d t other) : finding = other := by
  -- Both begin with the search for the declared record, which ends in the same for both.
  obtain ⟨first, found, second, rfl, record, settled⟩ := looked
  obtain ⟨first', found', second', same, record', settled'⟩ := again
  obtain ⟨rfl, rfl⟩ := Program.Yields.unique record record' same
  cases List.append_cancel_left same
  split at settled
  case h_1 => exact settled.2.trans settled'.2.symm
  case h_2 => exact settled.unique settled'
  case h_3 => exact settled.2.trans settled'.2.symm

/-- A dependency is reported as missing exactly when there is neither a record nor a resource. -/
theorem DependencyLookup.missing_iff (looked : DependencyLookup base project d t finding)
    (refuses : finding.Refuses d e) :
    e.reason = .dependencyMissing ↔ DependencyLookup base project d t .nowhere := by
  have decided : DependencyLookup base project d t .nowhere ↔ finding = .nowhere :=
    ⟨looked.unique, fun same => same ▸ looked⟩
  rw [decided]
  cases refuses with
  | declared => exact iff_of_false Reason.noConfusion Finding.noConfusion
  | external => exact iff_of_false Reason.noConfusion Finding.noConfusion
  | nowhere => exact iff_of_true rfl rfl
  | failed => exact iff_of_false looked.ofCall.notMissing Finding.noConfusion

/-- A dependency is reported as not ready exactly when it exists and cannot be used yet. -/
theorem DependencyLookup.notReady_iff (looked : DependencyLookup base project d t finding)
    (refuses : finding.Refuses d e) :
    e.reason = .dependencyNotReady ↔
      ∃ found, DependencyLookup base project d t found ∧ found.Unready := by
  have decided : (∃ found, DependencyLookup base project d t found ∧ found.Unready) ↔
      finding.Unready := by
    refine ⟨?_, fun unready => ⟨finding, looked, unready⟩⟩
    rintro ⟨found, again, unready⟩
    rwa [looked.unique again]
  rw [decided]
  cases refuses with
  | declared unusable => exact iff_of_true rfl unusable
  | external other => exact iff_of_true rfl other
  | nowhere => exact iff_of_false Reason.noConfusion id
  | failed => exact iff_of_false looked.ofCall.notUnready id

end Lookups

/-! ## Looking all of them up -/

/-- All dependencies of a list are looked up, and all of them are ready. -/
inductive AllReady (base : Url) (project : String) : List Dependency → Exchange → Prop
  | nil : AllReady base project [] []
  | cons {d : Dependency} {later : List Dependency} {first second : Exchange} {finding : Finding}
      (looked : DependencyLookup base project d first finding) (ready : finding.Ready)
      (rest : AllReady base project later second) :
      AllReady base project (d :: later) (first ++ second)

/-- The dependencies of a list are looked up until one of them is not ready.  The error is the one
of that dependency, and none behind it is looked up. -/
inductive FirstUnready (base : Url) (project : String) :
    List Dependency → Exchange → OperatorError → Prop
  | intro {ready later : List Dependency} {d : Dependency} {first last : Exchange}
      {finding : Finding} {e : OperatorError} (before : AllReady base project ready first)
      (looked : DependencyLookup base project d last finding) (refuses : finding.Refuses d e)
      (missing : e.reason = .dependencyMissing ↔ DependencyLookup base project d last .nowhere)
      (notReady : e.reason = .dependencyNotReady ↔
        ∃ found, DependencyLookup base project d last found ∧ found.Unready) :
      FirstUnready base project (ready ++ d :: later) (first ++ last) e

section Check

variable {base : Url} {project : String} {t : Exchange}

/-- A dependency that is ready may stand in front of those that are looked up until one is not. -/
theorem FirstUnready.cons {d : Dependency} {later : List Dependency} {first second : Exchange}
    {finding : Finding} {e : OperatorError} (looked : DependencyLookup base project d first finding)
    (ready : finding.Ready) (unready : FirstUnready base project later second e) :
    FirstUnready base project (d :: later) (first ++ second) e := by
  cases unready with
  | intro before lookedLast refuses missing notReady =>
      rw [← List.cons_append, ← List.append_assoc]
      exact .intro (.cons looked ready before) lookedLast refuses missing notReady

/-- A dependency that is not ready is no fault of the record that asks for it. -/
theorem FirstUnready.notInvalid {ds : List Dependency} {e : OperatorError}
    (unready : FirstUnready base project ds t e) : e.reason ≠ .invalidSpec := by
  cases unready with
  | intro before looked refuses =>
      cases refuses with
      | declared => exact Reason.noConfusion
      | external => exact Reason.noConfusion
      | nowhere => exact Reason.noConfusion
      | failed => exact looked.ofCall.notInvalid

/-- The check of a list of dependencies finds all of them ready, or fails with the error of the
first one that is not. -/
theorem ensureReady_course {ds : List Dependency} {result : Except OperatorError Unit}
    (yields : ((ensureReady project ds).interpret fun q => (q.answer base).result).Yields t
      result) :
    (result = .ok () ∧ AllReady base project ds t) ∨
      ∃ e, result = .error e ∧ FirstUnready base project ds t e := by
  induction ds generalizing t with
  | nil =>
      obtain ⟨rfl, rfl⟩ := Program.yields_done.mp yields
      exact .inl ⟨rfl, .nil⟩
  | cons d later ih =>
      rw [ensureReady, Program.interpret_bind] at yields
      obtain ⟨first, answer, second, rfl, asked, rest⟩ := Program.yields_bind.mp yields
      obtain ⟨finding, looked, rfl⟩ := findDependency_lookup asked
      cases required : finding.readiness.bind (Readiness.require d) with
      | error e =>
          rw [required] at rest
          obtain ⟨rfl, rfl⟩ := Program.yields_done.mp rest
          have refuses := Finding.refuses_of_require required
          have unready : FirstUnready base project ([] ++ d :: later) ([] ++ first) e :=
            .intro .nil looked refuses (looked.missing_iff refuses) (looked.notReady_iff refuses)
          rw [List.append_nil]
          exact .inr ⟨e, rfl, unready⟩
      | ok u =>
          have ready := Finding.ready_of_require required
          rw [required] at rest
          rcases ih rest with ⟨rfl, all⟩ | ⟨e, rfl, unready⟩
          · exact .inl ⟨rfl, .cons looked ready all⟩
          · exact .inr ⟨e, rfl, unready.cons looked ready⟩

end Check

end ServiceOperator
