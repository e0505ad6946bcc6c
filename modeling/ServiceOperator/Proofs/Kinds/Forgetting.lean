import ServiceOperator.Proofs.Kinds.Rotation
import ServiceOperator.Proofs.Kinds.Updates
import ServiceOperator.Proofs.Pass.Acceptance

/-!
# When a resource is forgotten

A pass that takes the resource of its record to be gone forgets it: the id and the observed
generation are cleared, and the next pass creates the resource anew.  It does so when a look at the
resource, or an update of it, fails with an absence (`CompletedPass.forgets_iff_endsMissing`).

A look asks nobody but the control plane, so that its absence is one that the control plane has
reported.  An update may have misread the cluster instead.  `forgotten_iff` says that a resource is
forgotten in these two ways and in no other (`RecordPass.FindsGone`, `RecordPass.Misreads`).  In the
second the resource may be there, and is created once more.

### Two levels

That a pass forgets what it knows is decided by its calls (`CompletedPass.forgets_iff_endsMissing`),
and there an absence is a class of errors.  What is behind such an error can be told only one level
below, where the calls are carried out: `RecordPass.EndsWith` cuts the exchange of a pass at its
last call, and the laws of lookups and updates (`get_finds`, `update_missed`) are applied to the
rest.  The two ways of `forgotten_iff` are disjoint, as the second one has no word of the control
plane in it (`Unreported`).
-/

namespace ServiceOperator

open ControlPlane
open Calls (Entry)
open Program (Worked)

/-! ## Calls that find a resource gone -/

/-- A look at the resource with an id, or an update of it, that fails with an absence. -/
inductive Calls.Entry.Misses {R : Type} (id : String) : Entry R → Prop
  | got {e : OperatorError} (absent : e.isNotFound = true) : Misses id (.got (some id) (.error e))
  | updated {e : OperatorError} (absent : e.isNotFound = true) : Misses id (.updated id (.error e))

section Calls

variable {R : Type} {p : Pass R} {fingerprint : Option String} {t calls : List (Entry R)}
  {entry : Entry R} {o : Outcome} {id : String}

/-- Some calls change nothing but for the last one, which finds a resource gone. -/
def EndsMissing (id : String) (t : List (Entry R)) : Prop :=
  ∃ calls entry, t = calls ++ [entry] ∧ (∀ call ∈ calls, call.1.changes = false) ∧ entry.Misses id

/-- Calls that end with a resource found gone notice an absence. -/
theorem EndsMissing.notices (ends : EndsMissing id t) : noticesAbsence t = true := by
  obtain ⟨calls, entry, rfl, quiet, misses⟩ := ends
  have reports : entry.reportsAbsence = true := by
    cases misses with
    | got absent => exact absent
    | updated absent => exact absent
  simpa [noticesAbsence, reports] using quiet

/-- A look at rest that notices an absence looks for the id that is known. -/
theorem Pass.LookCourse.endsMissing (known : p.status.id = some id)
    (course : LookCourse p .atRest t o) (noticed : noticesAbsence t = true) : EndsMissing id t := by
  cases course with
  | gone absent => exact ⟨[], _, rfl, by simp, known ▸ .got absent⟩
  | unseen absent fresh => cases fresh
  | unread present => cases present.symm.trans noticed
  | corrected => cases noticed
  | goneUncorrected rest drifted absent =>
      refine ⟨[.got _ _], _, rfl, by simp [Call.changes], ?_⟩
      rw [known]
      exact .updated absent
  | uncorrected rest drifted present => cases present.symm.trans noticed
  | waiting => cases noticed
  | unconnected => cases noticed
  | converged => cases noticed

/-- Behind a read of the source secret, a step of a living record that notices an absence looks for
the id that is known, or updates it. -/
theorem Pass.StepCourse.endsMissing (known : p.status.id = some id)
    (course : StepCourse p fingerprint t o)
    (noticed : noticesAbsence (.fingerprinted (.ok fingerprint) :: t) = true) :
    EndsMissing id (.fingerprinted (.ok fingerprint) :: t) := by
  -- Where something was changed before, nothing is noticed.
  have changed {call : Entry R} (asked : call ∈ t) (changes : call.1.changes = true)
      (silent : call.reportsAbsence = false) : False := by
    have member := List.mem_cons_of_mem (.fingerprinted (.ok fingerprint)) asked
    cases (noticesAbsence_eq_false member changes silent).symm.trans noticed
  cases course with
  | looked rests look =>
      have noticed := (noticesAbsence_cons rfl look.ne_nil).symm.trans noticed
      obtain ⟨calls, entry, rfl, quiet, misses⟩ := look.endsMissing known noticed
      exact ⟨_ :: calls, entry, rfl, List.forall_mem_cons.mpr ⟨rfl, quiet⟩, misses⟩
  | unready => cases noticed
  | uncreated step obtains => cases (obtains.unnoticed [_, _]).symm.trans noticed
  | created step obtains look =>
      obtain ⟨answer, later, rfl, -⟩ := obtains.creates
      exact (changed (.tail _ (.head _)) rfl rfl).elim
  | goneUnchanged step absent =>
      refine ⟨[_, .checked (.ok ())], _, rfl, by simp [Call.changes], ?_⟩
      rw [known]
      exact .updated absent
  | unchanged step present => cases present.symm.trans noticed
  | changed | undeleted | unconfirmed | lingering | unreplaced | replaced =>
      exact (changed (.tail _ (.head _)) rfl rfl).elim

end Calls

/-- **A pass forgets the resource that it knows exactly if it finds it gone**, before it has changed
anything. -/
theorem CompletedPass.forgets_iff_endsMissing {R : Type} {id : String} (pass : CompletedPass R)
    (known : pass.subject.status.id = some id) :
    (pass.outcome.status.id = none ∧ pass.outcome.status.observedGeneration = none) ↔
      EndsMissing id pass.asked := by
  constructor
  · rintro ⟨forgotten, -⟩
    have noticed : noticesAbsence pass.asked = true := by
      cases pass.accounting with
      | kept nothing unnoticed account =>
          have same : pass.outcome.status.id = pass.subject.status.id := congrArg Prod.fst account
          cases (forgotten.symm.trans same).trans known
      | accepted acquired read smooth account =>
          cases forgotten.symm.trans (congrArg Prod.fst account)
      | forgotten nothing noticed => exact noticed
    -- Which get or update noticed it is a matter of the course.
    obtain ⟨profile, subject, settings, now, asked, o, yields⟩ := pass
    cases reconcileOnce_course yields with
    | deleting requested course =>
        obtain ⟨answer, rfl | ⟨found, rfl⟩⟩ := course.calls
        all_goals cases noticed
    | blocked => cases noticed
    | unresourced => cases noticed
    | lived alive free course => exact course.endsMissing known noticed
  · intro ends
    have noticed := ends.notices
    cases pass.accounting with
    | kept nothing unnoticed account => cases unnoticed.symm.trans noticed
    | accepted acquired => cases (acquired_of_noticesAbsence noticed).symm.trans acquired
    | forgotten nothing noticed smooth account =>
        exact ⟨congrArg Prod.fst account, congrArg (·.2.1) account⟩

/-! ## Passes over records -/

/-- In an answer to a request for the resource of a record, the control plane shows that there is
none with an id. -/
def Record.ShownAbsent (base : Url) (r : Record) (id : String) (entry : Sigma Question.Answer) :
    Prop :=
  ControlPlane.ReportsAbsence base (r.spec.lookupAddress r.name (some id))
    (r.spec.documentsIn (some id)) (r.spec.isSought r.name (some id)) entry

/-- Along an exchange the control plane reports that the resource of a record is absent, or what it
belongs to: it answers some request with the status 404, or shows what lacks the resource. -/
def Record.ReportedAbsent (base : Url) (r : Record) (id : String) (t : Exchange) : Prop :=
  AnswersNotFound t ∨ ∃ entry ∈ t, r.ShownAbsent base id entry

/-- Where the control plane is asked for no document, and answers nothing with the status 404, it
reports no absence. -/
theorem Unreported.not_reportedAbsent {base : Url} {r : Record} {id : String} {t : Exchange}
    (unreported : Unreported t) : ¬ r.ReportedAbsent base id t := by
  rintro (absent | ⟨entry, asked, reply, rfl, -⟩)
  · exact unreported.present absent
  · exact unreported.unasked _ _ _ asked

namespace RecordPass

variable {base : Url} {id : String}

/-- A pass carries out some calls that change nothing, along the first part of its exchange, and
then one last call along the rest. -/
structure EndsWith (pass : RecordPass base) (calls : List (Entry pass.record.kind.Remote))
    (before : Exchange) (entry : Entry pass.record.kind.Remote) (last : Exchange) : Prop where
  yields : (reconcileOnce (pass.record.adapter base).profile pass.record.subject pass.settings
    pass.now).Yields (calls ++ [entry]) pass.outcome
  quiet : ∀ call ∈ calls, call.1.changes = false
  asked : pass.asked = before ++ last
  earlier : Worked (pass.record.adapter base).answer calls before
  answered : ((pass.record.adapter base).answer entry.1).Yields last entry.2

/-- A pass ends when the control plane reports that the resource with an id is absent: to a look at
it, or to the request of an update. -/
inductive FindsGone (pass : RecordPass base) (id : String) : Prop
  | unseen {calls : List (Entry pass.record.kind.Remote)} {before last : Exchange}
      {e : OperatorError} {entry : Sigma Question.Answer}
      (ends : pass.EndsWith calls before (.got (some id) (.error e)) last)
      (absent : e.isNotFound = true) (asked : entry ∈ last)
      (shown : pass.record.ShownAbsent base id entry)
  | refused {calls : List (Entry pass.record.kind.Remote)} {before last : Exchange}
      {e : OperatorError} {body : Option Json} {text : String}
      (ends : pass.EndsWith calls before (.updated id (.error e)) last)
      (absent : e.isNotFound = true)
      (asked : ⟨.http ⟨.put, base.target (pass.record.spec.resourceAddress id), body⟩,
        .answered 404 text⟩ ∈ last)

/-- A pass ends when an update misreads an object of the cluster, without a word of the control
plane about any absence. -/
inductive Misreads (pass : RecordPass base) (id : String) : Prop
  | intro {calls : List (Entry pass.record.kind.Remote)} {before last : Exchange}
      {e : OperatorError} {path : String}
      (ends : pass.EndsWith calls before (.updated id (.error e)) last)
      (read : pass.record.spec.updatePath? pass.record = some path)
      (misread : Kubernetes.Misread path last e)
      (unreported : ¬ pass.record.ReportedAbsent base id last)

theorem EndsWith.mem {pass : RecordPass base} {calls : List (Entry pass.record.kind.Remote)}
    {before last : Exchange} {entry : Entry pass.record.kind.Remote} {asked : Sigma Question.Answer}
    (ends : pass.EndsWith calls before entry last) (member : asked ∈ last) :
    asked ∈ pass.asked := by
  rw [ends.asked]
  exact List.mem_append_right _ member

/-- A pass that ends with the resource found gone has a report of the control plane behind it. -/
theorem FindsGone.reportedAbsent {pass : RecordPass base} (found : pass.FindsGone id) :
    pass.record.ReportedAbsent base id pass.asked := by
  cases found with
  | unseen ends absent asked shown => exact .inr ⟨_, ends.mem asked, shown⟩
  | refused ends absent asked => exact .inl ⟨_, _, ends.mem asked⟩

/-- **When the resource of a record is forgotten.**  Let a record of any kind have a resource with
an id, whatever else its status holds, and whatever both peers answer.

A pass clears the id and the observed generation if and only if it ends, without having changed
anything, in one of two ways.  The control plane has reported to its last call that the resource is
absent; or its last call is an update that was answered by Kubernetes, for the record of a VPC or
for a source secret, with the code of an absence and not with the reason of one, and the control
plane has reported nothing to it. -/
theorem forgotten_iff (pass : RecordPass base) (known : pass.record.currentStatus.id = some id) :
    (pass.outcome.status.id = none ∧ pass.outcome.status.observedGeneration = none) ↔
      pass.FindsGone id ∨ pass.Misreads id := by
  -- A way to carry out the calls of the pass that ends with a miss makes it forget.
  have forgets {calls : List (Entry pass.record.kind.Remote)} {before last : Exchange}
      {entry : Entry pass.record.kind.Remote} (ends : pass.EndsWith calls before entry last)
      (misses : entry.Misses id) :
      pass.outcome.status.id = none ∧ pass.outcome.status.observedGeneration = none := by
    let inner : CompletedPass pass.record.kind.Remote := ⟨_, _, _, _, _, _, ends.yields⟩
    exact (inner.forgets_iff_endsMissing known).mpr ⟨calls, entry, rfl, ends.quiet, misses⟩
  constructor
  · intro forgotten
    obtain ⟨called, yields, worked⟩ := Program.yields_interpret.mp pass.yields
    let inner : CompletedPass pass.record.kind.Remote := ⟨_, _, _, _, called, _, yields⟩
    obtain ⟨calls, entry, split, quiet, misses⟩ :=
      (inner.forgets_iff_endsMissing known).mp forgotten
    obtain rfl : called = calls ++ [entry] := split
    obtain ⟨before, rest, asked, earlier, ending⟩ := Program.worked_append.mp worked
    obtain ⟨last, nothing, rfl, answered, done⟩ := Program.worked_cons.mp ending
    obtain rfl := Program.worked_nil.mp done
    rw [List.append_nil] at asked
    have ends : pass.EndsWith calls before entry last := ⟨yields, quiet, asked, earlier, answered⟩
    cases misses with
    | got absent =>
        obtain ⟨entry, asked, shown⟩ :=
          (get_finds base pass.record pass.record.spec (some id)).notFound answered absent
        exact .inl (.unseen ends absent asked shown)
    | updated absent =>
        have missed : UpdateMissed base pass.record pass.record.spec id last _ :=
          update_missed answered absent
        cases missed with
        | refused asked => exact .inl (.refused ends absent asked)
        | misread read misread unreported =>
            exact .inr (.intro ends read misread unreported.not_reportedAbsent)
  · rintro (found | ⟨ends, read, misread, unreported⟩)
    · cases found with
      | unseen ends absent => exact forgets ends (.got absent)
      | refused ends absent => exact forgets ends (.updated absent)
    · cases misread with
      | intro => exact forgets ends (.updated rfl)

end RecordPass

/-! ## A record that cannot be read -/

namespace Unserved

/-- The base URL of the control plane. -/
def base : Url := ⟨"http", some [""], "", none, none⟩

/-- A service that shall move into a VPC.  Its first generation was applied, and this is the second
one. -/
def record : Record where
  metadata := { Metadata.empty with
    name := some "orders", namespaceName := some "shop", generation := some 2 }
  spec := .postgreSql ⟨⟨"p", "x", none, some ⟨"net", none⟩, none, none, none, none, none, none,
    none, none, none⟩, none⟩
  status := some { ResourceStatus.initial with id := some "orders", observedGeneration := some 1 }

/-- The record of the VPC, which can be used. -/
def network : String :=
  "\x7b\"metadata\":\x7b\x7d,\"spec\":\x7b\"project\":\"p\",\"cloudName\":\"c\"," ++
    "\"networkCidr\":\"10.0.0.0/24\"\x7d,\"status\":\x7b\"id\":\"v\"," ++
    "\"conditions\":[\x7b\"type\":\"Running\",\"status\":\"True\"\x7d]\x7d\x7d"

/-- A cluster that shows the record of the VPC once, and then does not serve records of its kind any
more, and a control plane that is not reached. -/
def answer : (q : Question) → Nat → q.Answer × Nat
  | .http _, asked => (.unreachable, asked)
  | .kube _, 0 => (.answered 200 network, 1)
  | .kube _, asked + 1 => (.answered 404 "404 page not found", asked + 2)
  | .patience _, asked => (0, asked)
  | .now, asked => (⟨0, 0⟩, asked)
  | .acquire _, asked => ((), asked)
  | .release _, asked => ((), asked)
  | .count _, asked => ((), asked)

/-- The pass that applies the second generation. -/
def pass : RecordPass base where
  record := record
  settings := .standard
  now := ⟨0, 0⟩
  asked := (record.reconcile base .standard ⟨0, 0⟩).trace answer 0
  outcome := ((record.reconcile base .standard ⟨0, 0⟩).run answer 0).1
  yields := Program.yields_run _ _ _

theorem known : pass.record.currentStatus.id = some "orders" := rfl

/-- What is seen of the pass, all at once. -/
theorem seen :
    pass.outcome.status.id = none ∧ pass.outcome.status.observedGeneration = none ∧
      (pass.asked.all fun entry => !entry.1.isExternal) = true := by
  decide +kernel

/-- The control plane is not even asked. -/
theorem unreported : ¬ pass.record.ReportedAbsent base "orders" pass.asked := by
  refine (unreported_of_internal fun entry member => ?_).not_reportedAbsent
  obtain ⟨-, -, internal⟩ := seen
  simpa using List.all_eq_true.mp internal entry member

end Unserved

/-- The service is forgotten without having been asked for, because the record of its VPC was
misread. -/
theorem forgotten_iff_unserved :
    Unserved.pass.record.currentStatus.id = some "orders" ∧ Unserved.pass.Misreads "orders" := by
  refine ⟨Unserved.known, ?_⟩
  obtain ⟨forgotten, unobserved, -⟩ := Unserved.seen
  refine ((RecordPass.forgotten_iff Unserved.pass Unserved.known).mp
    ⟨forgotten, unobserved⟩).resolve_left fun found => Unserved.unreported found.reportedAbsent

/-- It is not so that a resource is forgotten only where the control plane has reported it, or what
it belongs to, to be absent. -/
theorem not_forgotten_on_report :
    ¬ ∀ (base : Url) (pass : RecordPass base) (id : String) (generation : Int),
      pass.record.currentStatus.id = some id →
      pass.record.currentStatus.observedGeneration = some generation →
      pass.outcome.status.id = none → pass.outcome.status.observedGeneration = none →
      pass.record.ReportedAbsent base id pass.asked := by
  intro reported
  obtain ⟨forgotten, unobserved, -⟩ := Unserved.seen
  exact Unserved.unreported
    (reported _ Unserved.pass "orders" 1 Unserved.known rfl forgotten unobserved)

end ServiceOperator
