import ServiceOperator.Proofs.Kinds.Dependencies
import ServiceOperator.Proofs.Pass.Outcomes

/-!
# Dependencies stand before every change

A pass that creates, updates or replaces a resource checks first what its record depends on.
`dependencies_gate_changes` says what that is worth: until every dependency is known to be ready, no
request that changes anything is sent to the control plane, and if one of them is not ready, none is
sent at all.

Two things come together in it.  The course of a pass puts the check before everything else that the
step does (`Pass.ReconcileCourse.changing`), and the adapters of all kinds answer it with the one
check of `Proofs.Kinds.Dependencies`, which does nothing but look.

The first refusal ends the check, and so the error of the pass is the one of the first dependency
that is not ready, in the order in which the record declares them (`FirstUnready`).  A pass whose
source secret cannot be read does not come to the check at all; it changes nothing either.
-/

namespace ServiceOperator

/-- A request to the control plane that is more than a look. -/
def Question.alters : Question → Bool
  | .http request => request.method ≠ .get
  | _ => false

/-- To read from either peer alters nothing, so that the check of the dependencies is quiet. -/
theorem permitsReading_quiet : PermitsReading fun q => q.alters = false where
  get _ := rfl
  read _ := rfl
  patience _ := rfl
  count _ := rfl

theorem adapterFor_sourceFingerprint {base : Url} {r : Record} (s : Spec) :
    (adapterFor base r s).sourceFingerprint = r.currentFingerprint := by
  cases s <;> rfl

/-- No kind leaves the check of its dependencies out. -/
theorem adapterFor_checkPreconditions {base : Url} {r : Record} (s : Spec) :
    (adapterFor base r s).checkPreconditions = r.ensureDependencies base := by
  cases s <;> rfl

namespace Record

variable {base : Url} {r : Record} {settings : Settings} {now : Instant} {t : Exchange}

/-- The outcome of a pass over a record that fails with an error before its step has changed
anything. -/
def failedAt (base : Url) (r : Record) (settings : Settings) (now : Instant) (step : Step)
    (e : OperatorError) : Outcome :=
  (Pass.start (r.adapter base).profile r.subject settings now step).beginOperation.fail e

/-- The source secret of a record, read by the adapter of its kind. -/
theorem answer_sourceFingerprint {answer : Except OperatorError (Option String)}
    (yields : ((r.adapter base).answer .sourceFingerprint).Yields t answer) :
    r.currentFingerprint.Yields t answer ∧ ∀ entry ∈ t, entry.1.alters = false := by
  have same : (r.adapter base).sourceFingerprint = r.currentFingerprint :=
    adapterFor_sourceFingerprint r.spec
  change (r.adapter base).sourceFingerprint.Yields t answer at yields
  rw [same] at yields
  exact ⟨yields, Program.Asks.of_mem (permitsReading_quiet.currentFingerprint r) yields⟩

/-- The dependencies of a record, checked by the adapter of its kind. -/
theorem answer_checkPreconditions {answer : Except OperatorError Unit}
    (yields : ((r.adapter base).answer .checkPreconditions).Yields t answer) :
    ((answer = .ok () ∧ AllReady base r.project r.dependencies t) ∨
      ∃ e, answer = .error e ∧ FirstUnready base r.project r.dependencies t e) ∧
    ∀ entry ∈ t, entry.1.alters = false := by
  have same : (r.adapter base).checkPreconditions = r.ensureDependencies base :=
    adapterFor_checkPreconditions r.spec
  change (r.adapter base).checkPreconditions.Yields t answer at yields
  rw [same] at yields
  exact ⟨ensureReady_course yields,
    Program.Asks.of_mem (permitsReading_quiet.ensureDependencies base r) yields⟩

end Record

/-- **Dependencies stand before every change.**  Let a pass over a record create, update or replace
its resource.  Then it reads the source secret, looks up the dependencies in the order in which the
record declares them, and only then does anything else; up to there it sends nothing but looks.

Either all of the dependencies were found to be ready.  Or the pass sends nothing more and fails,
with the error of the source secret if that could not be read, and else with the error of the first
dependency that is not ready. -/
theorem dependencies_gate_changes {base : Url} {r : Record} {settings : Settings} {now : Instant}
    {t : Exchange} {o : Outcome} (yields : (r.reconcile base settings now).Yields t o)
    (changes : o.step.isMutation = true) :
    ∃ source check rest, t = source ++ (check ++ rest) ∧
      (∀ entry ∈ source ++ check, entry.1.alters = false) ∧
      ((∃ fingerprint, r.currentFingerprint.Yields source (.ok fingerprint) ∧
          AllReady base r.project r.dependencies check) ∨
        rest = [] ∧ ∃ e, o = r.failedAt base settings now o.step e ∧
          ((r.currentFingerprint.Yields source (.error e) ∧ check = []) ∨
            ∃ fingerprint, r.currentFingerprint.Yields source (.ok fingerprint) ∧
              FirstUnready base r.project r.dependencies check e)) := by
  obtain ⟨calls, pass, worked⟩ := Program.yields_interpret.mp yields
  rcases (reconcileOnce_course pass).changing changes with
    ⟨e, failed, rfl | ⟨fingerprint, rfl⟩⟩ | ⟨fingerprint, others, rfl⟩
  -- Three ways: the source secret cannot be read, the dependencies are not ready, or both are
  -- passed.
  · obtain ⟨source, rest, rfl, read, worked⟩ := Program.worked_cons.mp worked
    obtain rfl := Program.worked_nil.mp worked
    obtain ⟨read, quiet⟩ := Record.answer_sourceFingerprint read
    exact ⟨source, [], [], rfl, by simpa using quiet, .inr ⟨rfl, e, failed, .inl ⟨read, rfl⟩⟩⟩
  · obtain ⟨source, rest, rfl, read, worked⟩ := Program.worked_cons.mp worked
    obtain ⟨check, rest, rfl, checked, worked⟩ := Program.worked_cons.mp worked
    obtain rfl := Program.worked_nil.mp worked
    obtain ⟨read, quietSource⟩ := Record.answer_sourceFingerprint read
    obtain ⟨⟨same, -⟩ | ⟨e, same, unready⟩, quietCheck⟩ := Record.answer_checkPreconditions checked
    · cases same
    · cases same
      refine ⟨source, check, [], rfl, ?_, .inr ⟨rfl, e, failed, .inr ⟨_, read, unready⟩⟩⟩
      exact List.forall_mem_append.mpr ⟨quietSource, quietCheck⟩
  · obtain ⟨source, rest, rfl, read, worked⟩ := Program.worked_cons.mp worked
    obtain ⟨check, rest, rfl, checked, worked⟩ := Program.worked_cons.mp worked
    obtain ⟨read, quietSource⟩ := Record.answer_sourceFingerprint read
    obtain ⟨⟨-, ready⟩ | ⟨e, same, -⟩, quietCheck⟩ := Record.answer_checkPreconditions checked
    · refine ⟨source, check, rest, rfl, ?_, .inl ⟨_, read, ready⟩⟩
      exact List.forall_mem_append.mpr ⟨quietSource, quietCheck⟩
    · cases same

/-! ## A pool whose dependencies are ready -/

namespace ReadyPool

/-- The record of the service, which is declared and runs. -/
def service : String :=
  "\x7b\"metadata\":\x7b\x7d,\"spec\":\x7b\"project\":\"p\",\"plan\":\"x\"\x7d," ++
    "\"status\":\x7b\"conditions\":[\x7b\"type\":\"Running\",\"status\":\"True\"\x7d]\x7d\x7d"

/-- The record of the pool. -/
def record : Record where
  metadata := { Metadata.empty with name := some "orders", namespaceName := some "shop" }
  spec := .connectionPool ⟨"p", "s", "d", "u", none, none, none, none⟩
  status := none

/-- The base URL of the control plane. -/
def base : Url := ⟨"http", some [""], "", none, none⟩

/-- Peers of which one holds the record of the service and no other, and the other one has the
database and the user. -/
def answer : (q : Question) → q.Answer
  | .http request =>
    if request.target = base.target (ControlPlane.userPath "p" "s" "u") then
      .answered 200 "\x7b\"user\":\x7b\"username\":\"u\"\x7d\x7d"
    else .answered 200 "\x7b\"databases\":[\x7b\"database_name\":\"d\"\x7d]\x7d"
  | .kube request =>
    if request.path = (Kind.postgreSql.collection "shop").path ++ "/s" then .answered 200 service
    else .answered 200 "\x7b\"items\":[]\x7d"
  | .patience _ => 0
  | .now => ⟨0, 0⟩
  | .acquire _ => ()
  | .release _ => ()
  | .count _ => ()

/-- What a pass over the record asks, with the answers. -/
def exchange : Exchange :=
  (record.reconcile base .standard ⟨0, 0⟩).trace (fun q (_ : Unit) => (answer q, ())) ()

theorem yields : ∃ outcome, (record.reconcile base .standard ⟨0, 0⟩).Yields exchange outcome := by
  rw [exchange]
  exact ⟨_, Program.yields_run _ _ _⟩

/-- A pass over the record creates, whatever it is answered, as the record has no status yet. -/
theorem changes {t : Exchange} {o : Outcome}
    (yields : (record.reconcile base .standard ⟨0, 0⟩).Yields t o) :
    o.step.isMutation = true := by
  obtain ⟨calls, pass, -⟩ := Program.yields_interpret.mp yields
  obtain ⟨fingerprint, planned⟩ := (reconcileOnce_course pass).planned
  rw [planned]
  rfl

end ReadyPool

/-- The pass that creates the pool has found its service, its database and its user first. -/
theorem dependencies_gate_changes_pool :
    ∃ outcome, (ReadyPool.record.reconcile ReadyPool.base .standard ⟨0, 0⟩).Yields
        ReadyPool.exchange outcome ∧ outcome.step.isMutation = true ∧
      (∃ entry ∈ ReadyPool.exchange, entry.1.alters = true) ∧
      ∃ source check rest, ReadyPool.exchange = source ++ (check ++ rest) ∧
        (∀ entry ∈ source ++ check, entry.1.alters = false) ∧
        AllReady ReadyPool.base "p"
          [.service "shop" "s", .database "shop" "s" "d", .serviceUser "shop" "s" "u"] check := by
  have alters : ∃ entry ∈ ReadyPool.exchange, entry.1.alters = true :=
    List.any_eq_true.mp (by decide +kernel)
  obtain ⟨outcome, yields⟩ := ReadyPool.yields
  refine ⟨outcome, yields, ReadyPool.changes yields, alters, ?_⟩
  obtain ⟨source, check, rest, split, quiet, ⟨-, -, ready⟩ | ⟨rfl, -⟩⟩ :=
    dependencies_gate_changes yields (ReadyPool.changes yields)
  · exact ⟨source, check, rest, split, quiet, ready⟩
  · obtain ⟨entry, member, altering⟩ := alters
    rw [List.append_nil] at split
    rw [split] at member
    simp [quiet entry member] at altering

end ServiceOperator
