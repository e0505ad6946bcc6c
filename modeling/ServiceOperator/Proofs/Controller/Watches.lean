import ServiceOperator.Proofs.Controller.References
import ServiceOperator.Proofs.Kinds.Frames
import ServiceOperator.Proofs.Manifest.Edits
import ServiceOperator.Proofs.Program.InStep

/-!
# Watches miss nothing

A record that waits for another object is looked at again when that object changes, but only if its
controller watches such objects, and if a change of the object leads back to the record.  What a
record refers to, what a record provides, where a reference is looked up and what a controller
watches are written down separately.  Here they are shown to agree.

* `Watched.CanChange` says that an object has a say in what an action comes to: in two surroundings
  that differ in that object alone, the action comes to different results.
* `Watched.Matters` says so of what a pass finds out when it looks around for a record.

What matters to a record is what it refers to (`Watched.Matters.refersTo`), and that is watched and
leads back to it (`Record.RefersTo.covered`, `Record.mem_dependents`).  For the first the references
have to be plain: one with a question mark in it leads to an object that is called otherwise, and a
change of that object does not lead back.

### From what matters to what is watched

Whether an object matters is not read off the code of a pass: `Watched.CanChange` quantifies over
all surroundings, with a state of their own, and over how they differ in the object.  That only what
is referred to can matter is therefore proved by contraposition.  For an object that a record does
not refer to, each lookup of a pass goes in step in the two surroundings (`InStep`), and what goes
in step comes to the same (`not_canChange`).  The lists of records need the most care, because an
unrelated record may well be in the list that is searched: there it is enough that the search passes
it over (`Dependency.FoundAlike`).
-/

namespace ServiceOperator

open Kubernetes (Place ofReply items)
open Program (Twins InStep)

variable {σ τ : Type} {w : Twins Question.Answer σ τ} {o : Watched} {base : Url} {r : Record}
  {d : Dependency}

/-! ## Calls in step -/

namespace Kubernetes

variable {α : Type}

/-- The objects of a plain place are listed in step, if the answers to a request for them are
read alike. -/
theorem list_inStep {c : Collection α} {p : Place} {R : List α → List α → Prop}
    (address : c.path = p.path) (plain : p.Plain)
    (answers : w.Relate (.kube p.request) fun x y =>
      SameOutcome R (ofReply (items c.decode) x) (ofReply (items c.decode) y))
    (patience : w.Agree (.patience .kubernetes)) :
    InStep w (SameOutcome R) (list c).result (list c).result := by
  refine call_compares (K := w.comparison) ?_ patience
  change InStep w (SameOutcome R) _ _
  rw [address]
  unfold sendTo
  split
  case h_1 path sendable =>
    rw [Place.sendablePath?_path plain sendable]
    exact InStep.bind (InStep.question answers) fun x y same => .done same
  case h_2 => exact .done (.error _)

end Kubernetes

/-! ## Surroundings that differ in one object -/

namespace Record

/-- Two lists hold the same records in the same order, except for the versions of one record that
they may hold at one point. -/
def DifferIn (r : Record) (xs ys : List Record) : Prop :=
  ∃ (before after : List Record) (x y : Option Record),
    (∀ v ∈ x, v.IsVersionOf r) ∧ (∀ v ∈ y, v.IsVersionOf r) ∧
      xs = before ++ x.toList ++ after ∧ ys = before ++ y.toList ++ after

/-- Two answers list the records of a kind in the same way, except for the versions of one
record. -/
def ListedAlike (r : Record) (x y : KubeReply) : Prop :=
  x = y ∨ ∃ xs ys, ofReply (items (Record.decode r.kind)) x = .ok xs ∧
    ofReply (items (Record.decode r.kind)) y = .ok ys ∧ r.DifferIn xs ys

end Record

namespace Watched

/-- The object is shown by what lies at a place: by itself, or in a list of records. -/
def ShownAt : Watched → Place → Prop
  | record r, p =>
    p = .record r.kind r.namespaceName r.name ∨ p = .records r.kind r.namespaceName
  | secret ns name, p => p = .secret ns name

/-- Two surroundings differ in one object alone.  They answer alike whatever is no request to
Kubernetes, and show the same at every plain place that does not show the object.  Lists that show
it differ in its versions alone, and what is shown where the object itself lies is free: it may be
there or not, and have any status and content. -/
structure DifferOnlyIn (o : Watched) (w : Twins Question.Answer σ τ) : Prop where
  apart : ∀ q, (∀ request, q ≠ .kube request) → w.Agree q
  elsewhere : ∀ p : Place, p.Plain → ¬ o.ShownAt p → w.Agree (.kube p.request)
  listing : ∀ r, o = .record r →
    w.Relate (.kube (Place.records r.kind r.namespaceName).request) r.ListedAlike

/-- An object can change the result of an action: in some surroundings that differ in the object
alone it comes to different results. -/
def CanChange (o : Watched) {α : Type} (action : Action α) : Prop :=
  ∃ (σ τ : Type) (w : Twins Question.Answer σ τ) (s : σ) (t : τ), DifferOnlyIn o w ∧ w.Alike s t ∧
    (action.result.run w.first s).1 ≠ (action.result.run w.second t).1

/-- What goes in step in any two surroundings that differ in the object alone, the object cannot
change. -/
theorem not_canChange {α : Type} {action : Action α}
    (steady : ∀ {σ τ : Type} {w : Twins Question.Answer σ τ}, DifferOnlyIn o w →
      InStep w Eq action.result action.result) : ¬ o.CanChange action := by
  rintro ⟨σ, τ, w, s, t, differ, alike, different⟩
  exact different (steady differ s t alike).1

namespace DifferOnlyIn

variable (differ : DifferOnlyIn o w)
include differ

/-- Surroundings that differ in one object agree on every get of the control plane, and on the
patience and the counting around it. -/
theorem permitsGetting : PermitsGetting w.Agree where
  get _ := differ.apart _ fun _ => Question.noConfusion
  patience _ := differ.apart _ fun _ => Question.noConfusion
  count _ := differ.apart _ fun _ => Question.noConfusion

/-- What lies at a plain place that does not show the object is read alike. -/
theorem read_asks {α : Type} {c : Kubernetes.Collection α} {name : String} {p : Place}
    (address : c.path ++ "/" ++ name = p.path) (plain : p.Plain) (hidden : ¬ o.ShownAt p) :
    (Kubernetes.read c name).Asks w.Agree := by
  refine Kubernetes.call_asks (Kubernetes.readOnce_asks ?_) (differ.permitsGetting.patience _)
  intro path sendable
  rw [address] at sendable
  rw [Place.sendablePath?_path plain sendable]
  exact differ.elsewhere p plain hidden

theorem named_asks {k : Kind} {ns name : String} (plain : (Place.record k ns name).Plain)
    (hidden : ¬ o.ShownAt (.record k ns name)) : (named k ns name).Asks w.Agree :=
  differ.read_asks rfl plain hidden

end DifferOnlyIn

end Watched

/-! ## What does not refer to an object does not mind it -/

/-- Of the dependencies in a list all lookups are. -/
theorem ensureReady_asks {P : Lookup → Prop} {project : String} {ds : List Dependency}
    (declared : ∀ d ∈ ds, P (.declared d)) (external : ∀ d ∈ ds, P (.external project d)) :
    (ensureReady project ds).Asks P := by
  induction ds with
  | nil => exact .done _
  | cons d later ih =>
      obtain ⟨declaredHead, declared⟩ := List.forall_mem_cons.mp declared
      obtain ⟨externalHead, external⟩ := List.forall_mem_cons.mp external
      have found : (findDependency project d).Asks P := by
        refine Program.Asks.bind (Program.asks_question declaredHead) fun answer => ?_
        split
        · exact Program.asks_question externalHead
        · exact .done _
      refine Program.Asks.bind found fun answer => ?_
      split
      · exact ih declared external
      · exact .done _

/-- A record that is shown where a dependency is looked for by name provides it. -/
theorem Watched.provides_of_shownAt {k : Kind} {name : String}
    (listed : .record k d.namespaceName name ∈ d.places)
    (shown : o.ShownAt (.record k d.namespaceName name)) :
    ∃ r, o = .record r ∧ r.provides? = some d := by
  obtain ⟨ns, target⟩ := d
  cases o with
  | secret ns' name' => cases shown
  | record r =>
      rcases shown with same | same
      · obtain ⟨rfl, rfl, rfl⟩ := Place.record.inj same
        refine ⟨r, rfl, ?_⟩
        unfold Record.provides?
        cases target <;> cases spec : r.spec <;>
          simp_all [Dependency.places, Record.kind, Spec.kind, Dependency.service,
            Dependency.projectVpc]
      · cases same

/-- What is shown in the list of a kind is a record of that kind and of that namespace. -/
theorem Watched.record_of_shownAt {k : Kind} {ns : String} (shown : o.ShownAt (.records k ns)) :
    ∃ r, o = .record r ∧ r.kind = k ∧ r.namespaceName = ns := by
  cases o with
  | secret ns' name => cases shown
  | record r =>
      rcases shown with same | same
      · cases same
      · obtain ⟨rfl, rfl⟩ := Place.records.inj same
        exact ⟨r, rfl, rfl, rfl⟩

/-- Of two lists the same record is found to provide a dependency. -/
def Dependency.FoundAlike (d : Dependency) (xs ys : List Record) : Prop :=
  (xs.find? fun x => x.provides? = some d) = ys.find? fun x => x.provides? = some d

theorem Dependency.FoundAlike.refl (xs : List Record) : d.FoundAlike xs xs := rfl

namespace Record

/-- What provides something else is not found, whatever its version. -/
theorem DifferIn.foundAlike {xs ys : List Record} (differ : r.DifferIn xs ys)
    (other : r.provides? ≠ some d) : d.FoundAlike xs ys := by
  obtain ⟨before, after, x, y, versions, versions', rfl, rfl⟩ := differ
  have skipped {v : Option Record} (versions : ∀ u ∈ v, u.IsVersionOf r) :
      (v.toList.find? fun x => decide (x.provides? = some d)) = none := by
    cases v with
    | none => rfl
    | some u => simp [(versions u rfl).provides, other]
  simp only [Dependency.FoundAlike, List.find?_append, skipped versions, skipped versions']

/-- In two lists that differ in an object only, the same record is found to provide what the
object does not. -/
theorem ListedAlike.foundAlike {x y : KubeReply} (listed : r.ListedAlike x y)
    (other : r.provides? ≠ some d) :
    SameOutcome d.FoundAlike (ofReply (items (Record.decode r.kind)) x)
      (ofReply (items (Record.decode r.kind)) y) := by
  rcases listed with rfl | ⟨xs, ys, read, read', differ⟩
  · exact .refl Dependency.FoundAlike.refl _
  · rw [read, read']
    exact .ok (differ.foundAlike other)

end Record

namespace Watched.DifferOnlyIn

variable (differ : DifferOnlyIn o w)
include differ

/-- What a list of records declares of a dependency goes in step, unless the object provides the
dependency. -/
theorem providing_inStep {k : Kind} (plain : (Place.records k d.namespaceName).Plain)
    (other : ∀ r, o = .record r → r.provides? ≠ some d) :
    InStep w Eq (providing k d).result (providing k d).result := by
  have answers : w.Relate (.kube (Place.records k d.namespaceName).request) fun x y =>
      SameOutcome d.FoundAlike (ofReply (items (Record.decode k)) x)
        (ofReply (items (Record.decode k)) y) := by
    intro s t alike
    by_cases shown : o.ShownAt (.records k d.namespaceName)
    case neg =>
      obtain ⟨same, alike⟩ := differ.elsewhere _ plain shown s t alike
      rw [same]
      exact ⟨.refl Dependency.FoundAlike.refl _, alike⟩
    case pos =>
      obtain ⟨r, rfl, rfl, namespaceName⟩ := record_of_shownAt shown
      rw [← namespaceName]
      obtain ⟨listed, alike⟩ := differ.listing r rfl s t alike
      exact ⟨listed.foundAlike (other r rfl), alike⟩
  refine Action.inStep_bind
    (Kubernetes.list_inStep rfl plain answers (differ.permitsGetting.patience _)) ?_
  intro xs ys same
  exact .done (congrArg Except.ok same)

/-- How far a declared record is, goes in step unless it is the object. -/
theorem declaredReadiness_inStep (plain : ∀ p ∈ d.places, p.Plain)
    (other : ∀ r, o = .record r → r.provides? ≠ some d) :
    InStep w Eq (declaredReadiness d).result (declaredReadiness d).result := by
  have named {k : Kind} {name : String} (listed : .record k d.namespaceName name ∈ d.places) :
      (named k d.namespaceName name).Asks w.Agree := by
    refine differ.named_asks (plain _ listed) fun shown => ?_
    obtain ⟨r, same, provides⟩ := provides_of_shownAt listed shown
    exact other r same provides
  have ready {k : Kind} (listed : .records k d.namespaceName ∈ d.places) :
      InStep w Eq (providing k d >>= fun found => pure (readinessOf found) : Action _).result
        (providing k d >>= fun found => pure (readinessOf found) : Action _).result := by
    rw [Action.result_bind]
    refine (differ.providing_inStep (plain _ listed) other).bind_same fun found => ?_
    cases found with
    | ok found => exact .done rfl
    | error e => exact .done rfl
  unfold declaredReadiness
  unfold Dependency.places at named ready
  cases target : d.target with
  | service name =>
      simp only [target] at named
      refine Program.Asks.inStep (Action.Asks.bind (named (by simp)) fun found => ?_)
      cases found with
      | some r => exact Action.asks_pure
      | none => exact Action.Asks.bind (named (by simp)) fun _ => Action.asks_pure
  | projectVpc name =>
      simp only [target] at named
      exact Program.Asks.inStep (Action.Asks.bind (named (by simp)) fun _ => Action.asks_pure)
  | database service name =>
      simp only [target] at ready
      exact ready (by simp)
  | serviceUser service name =>
      simp only [target] at ready
      exact ready (by simp)

/-- The check of the dependencies goes in step, unless the record refers to the object. -/
theorem ensureDependencies_inStep (plain : r.RefersPlainly) (unrelated : ¬ r.RefersTo o) :
    InStep w Eq (r.ensureDependencies base).result (r.ensureDependencies base).result := by
  have asks : (ensureReady r.project r.dependencies).Asks fun q =>
      ∀ d, q = .declared d → d ∈ r.dependencies := by
    refine ensureReady_asks ?_ ?_
    · rintro d depends _ ⟨⟩
      exact depends
    · rintro d depends _ ⟨⟩
  refine asks.interpret_inStep fun q listed => ?_
  cases q with
  | declared d =>
      refine differ.declaredReadiness_inStep (plain.dependency (listed d rfl)) ?_
      rintro x rfl provides
      exact unrelated ⟨d, listed d rfl, provides⟩
  | external project d =>
      exact (differ.permitsGetting.externalReadiness base project d).inStep

/-- The id of the VPC of a service goes in step, unless the object is that VPC. -/
theorem vpcId_inStep {s : ServiceSpec} (declared : r.service? = some s) (plain : r.RefersPlainly)
    (unrelated : ¬ r.RefersTo o) :
    InStep w Eq (s.vpcId r.namespaceName).result (s.vpcId r.namespaceName).result := by
  refine Program.Asks.inStep (ServiceSpec.vpcId_asks fun reference refers => ?_)
  have depends := Record.projectVpc_mem_dependencies declared refers
  have listed := Dependency.mem_places_projectVpc
    (reference.namespaceName.getD r.namespaceName) reference.name
  refine resolveVpc_asks (differ.named_asks (plain.dependency depends _ listed) fun shown => ?_)
  obtain ⟨x, rfl, provides⟩ := provides_of_shownAt listed shown
  exact unrelated ⟨_, depends, provides⟩

/-- The source secret is read in step, unless it is the object. -/
theorem readSource_inStep (plain : r.RefersPlainly) (unrelated : ¬ r.RefersTo o) :
    InStep w Eq r.readSource.result r.readSource.result := by
  refine Program.Asks.inStep (Record.readSource_asks fun s declared => ?_)
  refine differ.read_asks rfl (plain.source declared) fun shown => ?_
  cases o with
  | record x => rcases shown with same | same <;> cases same
  | secret ns name =>
      obtain ⟨namespaceName, same⟩ := Place.secret.inj shown
      exact unrelated ⟨s, declared, namespaceName, same⟩

end Watched.DifferOnlyIn

/-! ## What matters is watched -/

/-- An object can change what a pass finds out when it looks around for a record: what the check of
the dependencies comes to, the id of the VPC of a service, or the value in the source secret. -/
inductive Watched.Matters (base : Url) (r : Record) (o : Watched) : Prop
  | dependencies (changes : o.CanChange (r.ensureDependencies base))
  | vpc {s : ServiceSpec} (declared : r.service? = some s)
      (changes : o.CanChange (s.vpcId r.namespaceName))
  | source (changes : o.CanChange r.readSource)

/-- A record whose references are plain refers to whatever matters to it. -/
theorem Watched.Matters.refersTo (matters : o.Matters base r) (plain : r.RefersPlainly) :
    r.RefersTo o := by
  refine Classical.byContradiction fun unrelated => ?_
  cases matters with
  | dependencies changes =>
      exact not_canChange (fun differ => differ.ensureDependencies_inStep plain unrelated) changes
  | vpc declared changes =>
      exact not_canChange (fun differ => differ.vpcId_inStep declared plain unrelated) changes
  | source changes =>
      exact not_canChange (fun differ => differ.readSource_inStep plain unrelated) changes

/-- **Watches miss nothing, and bring back nothing in vain.**  Let the references of a record be
plain.  If an object, by being there, by its status or by its content, can change what the check of
the dependencies of the record comes to, which id its VPC has or what its source secret holds, then
the controller of the kind of the record watches objects like this one, and a change of the object
brings the record back out of every collection that it is in.  And of all records, only those come
back that depend on what the object provides, or whose source is the secret. -/
theorem dependents_complete_and_sound (base : Url) (o : Watched) :
    (∀ r : Record, r.RefersPlainly → o.Matters base r →
        r.kind.watches.covers o = true ∧ ∀ records, r ∈ records → r ∈ o.dependents records) ∧
      ∀ (r : Record) (records : List Record),
        r ∈ o.dependents records → r ∈ records ∧ r.RefersTo o := by
  constructor
  · intro r plain matters
    have refers := matters.refersTo plain
    refine ⟨refers.covered, fun records listed => ?_⟩
    exact Record.mem_dependents.mpr ⟨listed, refers⟩
  · intro r records back
    exact Record.mem_dependents.mp back

/-! ## A VPC in one cluster and not in the other -/

namespace Watched

/-- The answer that there is nothing. -/
def absent : KubeReply := .answered 404 "\x7b\"code\":404,\"reason\":\"NotFound\"\x7d"

/-- Peers of which Kubernetes gives one reply at a path and has nothing else, and the control plane
does not answer. -/
def showing (path : String) (reply : KubeReply) : (q : Question) → q.Answer :=
  Question.answerBy (fun _ => .lost) fun request =>
    if request.path = path then reply else absent

/-- Two surroundings without a state that differ in the reply at one path. -/
def twins (path : String) (reply other : KubeReply) : Twins Question.Answer Unit Unit where
  first q _ := (showing path reply q, ())
  second q _ := (showing path other q, ())
  Alike _ _ := True

theorem twins_agree {path elsewhere : String} {reply other : KubeReply} (ne : elsewhere ≠ path) :
    (twins path reply other).Agree (.kube ⟨elsewhere, none⟩) := by
  intro s t _
  simp only [twins, showing, Question.answerBy, if_neg ne, and_self]

/-- If only the reply at the plain place of a record differs, the surroundings differ in that record
alone. -/
theorem differOnlyIn_twins (r : Record) (reply other : KubeReply)
    (plain : (Place.record r.kind r.namespaceName r.name).Plain) :
    (record r).DifferOnlyIn
      (twins (Place.record r.kind r.namespaceName r.name).path reply other) where
  apart q noRequest := by
    intro s t _
    refine ⟨?_, trivial⟩
    cases q with
    | kube request => exact absurd rfl (noRequest request)
    | _ => rfl
  elsewhere p plain' hidden :=
    twins_agree fun same => hidden (.inl (Place.path_inj plain' plain same))
  listing x same := by
    cases same
    have plainList : (Place.records r.kind r.namespaceName).Plain :=
      Place.plain_records (plain _ (by simp [Place.segments]))
    have ne : (Place.records r.kind r.namespaceName).path ≠
        (Place.record r.kind r.namespaceName r.name).path :=
      fun same => Place.noConfusion (Place.path_inj plainList plain same)
    intro s t alike
    exact (twins_agree ne s t alike).imp_left .inl

end Watched

namespace Hosted

/-- A VPC, as it is stored once it can be used. -/
def document : String :=
  "\x7b\"metadata\":\x7b\"name\":\"net\",\"namespace\":\"shop\"\x7d," ++
    "\"spec\":\x7b\"project\":\"p\",\"cloudName\":\"c\",\"networkCidr\":\"10.0.0.0/24\"\x7d," ++
    "\"status\":\x7b\"id\":\"vpc-1\"," ++
    "\"conditions\":[\x7b\"type\":\"Running\",\"status\":\"True\"\x7d]\x7d\x7d"

/-- The VPC as a watch sees it. -/
def vpc : Record where
  metadata := { Metadata.empty with name := some "net", namespaceName := some "shop" }
  spec := .projectVpc ⟨"p", "c", "10.0.0.0/24"⟩
  status := some { ResourceStatus.initial with
    conditions := [⟨"Running", "True", none, none, none⟩]
    id := some "vpc-1" }

/-- A service in the VPC of a name. -/
def service (reference : String) : ServiceSpec where
  project := "p"
  plan := "x"
  cloudName := none
  projectVpcRef := some ⟨reference, none⟩
  projectVpcId := none
  powered := none
  terminationProtection := none
  diskSpace := none
  tags := none
  serviceIntegrations := none
  userConfig := none
  secretTarget := none
  secretTargetDisabled := none

/-- The record of such a service. -/
def record (reference : String) : Record where
  metadata := { Metadata.empty with name := some "orders", namespaceName := some "shop" }
  spec := .postgreSql ⟨service reference, none⟩
  status := none

/-- A cluster that has the VPC, and one that has not. -/
def clusters : Twins Question.Answer Unit Unit :=
  Watched.twins (Place.record .projectVpc "shop" "net").path (.answered 200 document) Watched.absent

/-- The id that was found, if any. -/
def idOf : Except OperatorError (Option String) → Option String
  | .ok id => id
  | .error _ => none

/-- What the id of the VPC of such a service comes to. -/
def resolved (reference : String) (answer : (q : Question) → Unit → q.Answer × Unit) :
    Option String :=
  idOf (((service reference).vpcId "shop").result.run answer ()).1

/-- The control plane. -/
def controlPlane : Url := ⟨"http", some [""], "", none, none⟩

/-- A reference by the name of the VPC leads to its id where the VPC is, and so does one with more
behind a question mark. -/
theorem found : ∀ reference ∈ ["net", "net?x"],
    resolved reference clusters.first ≠ resolved reference clusters.second := by
  decide +kernel

/-- The VPC matters to the records with such references. -/
theorem matters (reference : String) (leads : reference ∈ ["net", "net?x"]) :
    (Watched.record vpc).Matters controlPlane (record reference) := by
  have differ : (Watched.record vpc).DifferOnlyIn clusters :=
    Watched.differOnlyIn_twins vpc _ _ (by decide +kernel)
  refine .vpc (s := service reference) rfl
    ⟨Unit, Unit, clusters, (), (), differ, trivial, fun same => ?_⟩
  exact found reference leads (congrArg idOf same)

end Hosted

/-- The record of a service comes back when the VPC changes that it refers to. -/
theorem dependents_complete_and_sound_hosted :
    (Watched.record Hosted.vpc).Matters Hosted.controlPlane (Hosted.record "net") ∧
      Kind.postgreSql.watches.covers (.record Hosted.vpc) = true ∧
      Hosted.record "net" ∈ (Watched.record Hosted.vpc).dependents [Hosted.record "net"] ∧
      (Hosted.record "net").RefersTo (.record Hosted.vpc) := by
  have matters := Hosted.matters "net" (by simp)
  obtain ⟨complete, sound⟩ := dependents_complete_and_sound Hosted.controlPlane (.record Hosted.vpc)
  obtain ⟨covered, back⟩ := complete (Hosted.record "net") (by decide +kernel) matters
  have listed := back [Hosted.record "net"] List.mem_cons_self
  exact ⟨matters, covered, listed, (sound _ _ listed).2⟩

/-- A reference is not plain if it has a question mark in it.  The VPC that it leads to matters to
the record, but does not bring it back. -/
theorem dependents_not_complete_queried :
    (Watched.record Hosted.vpc).Matters Hosted.controlPlane (Hosted.record "net?x") ∧
      Kind.postgreSql.watches.covers (.record Hosted.vpc) = true ∧
      Hosted.record "net?x" ∉ (Watched.record Hosted.vpc).dependents [Hosted.record "net?x"] := by
  refine ⟨Hosted.matters "net?x" (by simp), rfl, ?_⟩
  have none : ((Watched.record Hosted.vpc).dependents [Hosted.record "net?x"]).isEmpty = true := by
    decide +kernel
  rw [List.isEmpty_iff.mp none]
  exact List.not_mem_nil

end ServiceOperator
