import ServiceOperator.Proofs.Controller.Frames
import ServiceOperator.Proofs.Pass.Outcomes

/-!
# The finalizer goes only after the resource

A record carries the finalizer as long as its resource may exist, so dropping it is the one thing
that a reconcile must not do too early.  `OnAbsence` is what has to stand in an exchange that drops
it: an answer of the control plane that the resource is absent, nothing dropped before it, and no
delete sent after it.

Three frames lead there.  What is done for a resource never writes to Kubernetes, and neither the
finalizer that is ensured nor the status, the secret and the annotations that are written down drop
the finalizer, so only an outcome that releases it can.  Such an outcome comes from a pass that
ended with a get which found nothing (`removeFinalizer_iff`), which every adapter answers by a
lookup (`get_finds`).  And behind that get only Kubernetes is spoken to.

### Why an exchange is cut in three

`OnAbsence` names the report and what lies before and behind it, because the two sides have
different duties: before the report the finalizer is kept, behind it nothing is deleted.  Either
side may be prolonged by what does its duty (`OnAbsence.behind`, `OnAbsence.ahead`), so that the law
of the engine is carried outwards, from a pass (`reconcile_onAbsence`) through the adapter and the
lock to a whole reconcile, without the report ever being looked for again.
-/

namespace ServiceOperator

open Calls (Entry DeleteAccepted)

/-! ## Questions that matter -/

/-- A patch writes finalizers among which one is missing. -/
def KubePatch.drops (finalizer : String) (p : KubePatch) : Bool :=
  match (p.body.get? "metadata").bind fun metadata => metadata.get? "finalizers" with
  | some finalizers => finalizers.items.all fun item => item.text? ≠ some finalizer
  | none => false

/-- The finalizers that a patch writes, as they stand in its body. -/
def KubePatch.finalizers? (p : KubePatch) : Option Json :=
  (p.body.get? "metadata").bind fun metadata => metadata.get? "finalizers"

/-- A patch without finalizers drops none. -/
theorem KubePatch.drops_of_plain {p : KubePatch} {finalizer : String}
    (plain : p.finalizers? = none) : p.drops finalizer = false := by
  unfold finalizers? at plain
  rw [drops, plain]

namespace Question

/-- A request to Kubernetes that drops the finalizer. -/
def dropsFinalizer : Question → Bool
  | .kube ⟨_, some p⟩ => p.drops resourceFinalizer
  | _ => false

/-- What leaves the finalizer alone. -/
abbrev KeepsFinalizer (q : Question) : Prop := q.dropsFinalizer = false

/-- What is done for a resource writes no record, and so leaves the finalizer alone. -/
theorem permits_keepsFinalizer : Permits KeepsFinalizer where
  http _ := rfl
  read _ := rfl
  patience _ := rfl
  count _ := rfl

end Question

open Question (KeepsFinalizer Spares)

/-! ## What is written down -/

namespace Record

variable {r : Record}

/-- Finalizers among which the finalizer stands keep it. -/
theorem patchFinalizers_keeps {finalizers : List String} (held : resourceFinalizer ∈ finalizers) :
    (r.patchFinalizers finalizers).Asks KeepsFinalizer := by
  refine Action.Asks.bind (Kubernetes.patch_asks (fun _ _ => ?_) rfl) fun _ => Action.asks_pure
  change (finalizers.map Json.string).all (fun item => item.text? ≠ some resourceFinalizer) = false
  simpa [Json.text?] using held

/-- To ensure the finalizer drops it from no list: it is in the one that is written. -/
theorem ensureFinalizer_keeps : (r.ensureFinalizer resourceFinalizer).Asks KeepsFinalizer := by
  unfold ensureFinalizer finalizersWith?
  by_cases held : r.hasFinalizer resourceFinalizer = true
  · rw [if_pos held]
    exact Action.asks_pure
  · rw [if_neg held]
    exact patchFinalizers_keeps (by simp)

/-- A connection secret has no finalizers of its own. -/
theorem connectionSecret_plain {info : ConnectionInfo} {manager : Option String} {secret : Json}
    (written : r.connectionSecret? info = some secret) :
    (KubePatch.mk manager secret).finalizers? = none := by
  unfold connectionSecret? at written
  split at written
  case isTrue =>
    obtain ⟨start, -, rfl⟩ := Option.map_eq_some_iff.mp written
    unfold KubePatch.finalizers?
    cases r.secretTarget?.bind SecretTarget.annotations <;> cases r.ownerReference? <;> rfl
  case isFalse => cases written

end Record

section Plain

variable {P : Question → Prop} {r : Record}
  (write : ∀ path p, p.finalizers? = none → P (.kube ⟨path, some p⟩))
  (patience : P (.patience .kubernetes))
include write patience

/-- A connection secret is written without finalizers. -/
theorem Record.materialize_plain {info : ConnectionInfo} : (r.materialize info).Asks P := by
  unfold materialize
  split
  · exact Action.asks_pure
  case h_2 secret written =>
    refine Action.Asks.bind (Kubernetes.patch_asks (fun _ _ => write _ _ ?_) patience)
      fun _ => Action.asks_pure
    exact connectionSecret_plain written

/-- An outcome that does not release the finalizer writes no finalizers, whatever it writes down. -/
theorem Outcome.apply_plain {o : Outcome} (held : o.removeFinalizer = false) :
    (o.apply r).Asks P := by
  have patched {part : String} {p : KubePatch} (plain : p.finalizers? = none) :
      (Kubernetes.patch r.collection r.name part p).Asks P :=
    Kubernetes.patch_asks (fun _ _ => write _ _ plain) patience
  refine Outcome.apply_asks held ?_ (fun _ => Record.materialize_plain write patience) ?_
  · exact Action.Asks.bind (patched rfl) fun _ => Action.asks_pure
  · exact Action.Asks.bind (patched rfl) fun _ => Action.asks_pure

end Plain

theorem Outcome.apply_keeps {o : Outcome} {r : Record} (held : o.removeFinalizer = false) :
    (o.apply r).Asks KeepsFinalizer :=
  Outcome.apply_plain (P := KeepsFinalizer) (fun _ _ plain => KubePatch.drops_of_plain plain) rfl
    held

theorem Outcome.apply_spares {o : Outcome} {r : Record} (released : o.removeFinalizer = true) :
    (o.apply r).Asks Spares := by
  unfold Outcome.apply
  rw [if_pos released]
  exact Record.removeFinalizer_asks (fun _ _ _ => rfl) rfl

/-! ## Exchanges that drop the finalizer -/

/-- An answer that the resource of a record is absent. -/
def Record.ReportsAbsence (base : Url) (r : Record) (entry : Sigma Question.Answer) : Prop :=
  ControlPlane.ReportsAbsence base (r.spec.lookupAddress r.name r.currentStatus.id)
    (r.spec.documentsIn r.currentStatus.id) (r.spec.isSought r.name r.currentStatus.id) entry

/-- In an exchange the resource of a record is reported absent.  Nothing before the report drops the
finalizer, and nothing after it deletes. -/
def OnAbsence (base : Url) (r : Record) (t : Exchange) : Prop :=
  ∃ earlier report later, t = earlier ++ report :: later ∧ r.ReportsAbsence base report ∧
    (∀ entry ∈ earlier, KeepsFinalizer entry.1) ∧ ∀ entry ∈ later, Spares entry.1

/-- An exchange drops the finalizer only on absence. -/
def DropsOnAbsence (base : Url) (r : Record) (t : Exchange) : Prop :=
  (∀ entry ∈ t, KeepsFinalizer entry.1) ∨ OnAbsence base r t

section Exchanges

variable {base : Url} {r : Record} {t before after : Exchange}

/-- What is asked before may be anything that keeps the finalizer. -/
theorem OnAbsence.behind (absent : OnAbsence base r t)
    (keeps : ∀ entry ∈ before, KeepsFinalizer entry.1) : OnAbsence base r (before ++ t) := by
  obtain ⟨earlier, report, later, rfl, reports, keepsEarlier, spares⟩ := absent
  refine ⟨before ++ earlier, report, later, by simp, reports, ?_, spares⟩
  intro entry member
  exact (List.mem_append.mp member).elim (keeps entry) (keepsEarlier entry)

/-- What is asked afterwards may be anything that deletes nothing. -/
theorem OnAbsence.ahead (absent : OnAbsence base r t)
    (spares : ∀ entry ∈ after, Spares entry.1) : OnAbsence base r (t ++ after) := by
  obtain ⟨earlier, report, later, rfl, reports, keeps, sparesLater⟩ := absent
  refine ⟨earlier, report, later ++ after, by simp, reports, keeps, ?_⟩
  intro entry member
  exact (List.mem_append.mp member).elim (sparesLater entry) (spares entry)

/-- An exchange that keeps the finalizer can be put in front of one that drops it only on
absence. -/
theorem DropsOnAbsence.behind (drops : DropsOnAbsence base r t)
    (keeps : ∀ entry ∈ before, KeepsFinalizer entry.1) : DropsOnAbsence base r (before ++ t) := by
  rcases drops with keepsAll | absent
  · refine .inl fun entry member => ?_
    exact (List.mem_append.mp member).elim (keeps entry) (keepsAll entry)
  · exact .inr (absent.behind keeps)

end Exchanges

namespace Record

variable {base : Url} {r : Record} {settings : Settings} {now : Instant} {t : Exchange}
  {o : Outcome}

/-- A pass that releases the finalizer ends with a report that the resource is absent. -/
theorem reconcile_onAbsence (yields : (r.reconcile base settings now).Yields t o)
    (released : o.removeFinalizer = true) : OnAbsence base r t := by
  have keeps := (Question.permits_keepsFinalizer.reconcile base r settings now).of_mem yields
  obtain ⟨calls, called, worked⟩ := Program.yields_interpret.mp yields
  obtain ⟨-, answer, e, rfl, -, absent⟩ := (removeFinalizer_iff called).mp released
  obtain ⟨deleting, rest, rfl, -, worked⟩ := Program.worked_cons.mp worked
  obtain ⟨getting, rest, rfl, got, worked⟩ := Program.worked_cons.mp worked
  obtain rfl := Program.worked_nil.mp worked
  obtain ⟨report, asked, reports⟩ :=
    (get_finds base r r.spec r.currentStatus.id).notFound got absent
  have spares := (get_spares base r r.spec r.currentStatus.id).of_mem got
  obtain ⟨earlier, later, rfl⟩ := List.append_of_mem asked
  -- The delete of the pass lies before the report, and behind it is the rest of the get alone.
  refine ⟨deleting ++ earlier, report, later, by simp, reports, ?_, ?_⟩
  · intro entry member
    apply keeps
    rcases List.mem_append.mp member with member | member <;> simp [member]
  · intro entry member
    exact spares entry (by simp [member])

/-- Counting leaves the finalizer alone, and deletes nothing. -/
theorem calm_of_tallies {q : Question} (tallied : q.tallies = true) :
    q.KeepsFinalizer ∧ q.Spares := by
  cases q with
  | now => exact ⟨rfl, rfl⟩
  | count event => exact ⟨rfl, rfl⟩
  | _ => cases tallied

/-- A pass over a record drops the finalizer only on absence. -/
theorem runPass_dropsOnAbsence {result : Except OperatorError ControllerAction}
    (yields : (r.runPass base settings).Yields t result) : DropsOnAbsence base r t := by
  obtain ⟨now, passed, o, written, applied, counted, rfl, reconciled, writes, -, tallies⟩ :=
    runPass_course yields
  have keepsNow : ∀ entry ∈ ([⟨.now, now⟩] : Exchange), KeepsFinalizer entry.1 :=
    List.forall_mem_singleton.mpr rfl
  have drops : DropsOnAbsence base r (passed ++ (written ++ counted)) := by
    cases released : o.removeFinalizer with
    | false =>
        refine .inl ?_
        rw [List.forall_mem_append, List.forall_mem_append]
        exact ⟨(Question.permits_keepsFinalizer.reconcile base r settings now).of_mem reconciled,
          (Outcome.apply_keeps released).of_mem writes,
          fun entry member => (calm_of_tallies (tallies entry member)).1⟩
    | true =>
        refine .inr ((reconcile_onAbsence reconciled released).ahead ?_)
        rw [List.forall_mem_append]
        exact ⟨(Outcome.apply_spares released).of_mem writes,
          fun entry member => (calm_of_tallies (tallies entry member)).2⟩
  exact drops.behind keepsNow

/-- A pass behind the finalizer that is ensured drops it only on absence. -/
theorem passIfHeld_dropsOnAbsence {result : Except OperatorError ControllerAction}
    (yields : (r.passIfHeld base settings).Yields t result) : DropsOnAbsence base r t := by
  unfold passIfHeld at yields
  split at yields
  · split at yields
    · exact runPass_dropsOnAbsence yields
    · obtain ⟨rfl, -⟩ := Action.yields_pure.mp yields
      exact .inl (by simp)
  · obtain ⟨e, ensured, -⟩ | ⟨first, u, second, rfl, ensured, passed⟩ :=
      Action.yields_bind.mp yields
    · exact .inl (ensureFinalizer_keeps.of_mem ensured)
    · exact (runPass_dropsOnAbsence passed).behind (ensureFinalizer_keeps.of_mem ensured)

/-- An exchange reads a record, and finds it as it is stored. -/
def ReadsAs (r stored : Record) (t : Exchange) : Prop :=
  ∃ path reply, ⟨.kube ⟨path, none⟩, reply⟩ ∈ t ∧
    Kubernetes.sendablePath? (r.collection.path ++ "/" ++ r.name) = some path ∧
    Kubernetes.ofReply r.collection.decode reply = .ok stored

/-- A record that is read and found is in the exchange, with the document that it was read from. -/
theorem readOnce_readsAs {stored : Record}
    (yields : (Kubernetes.readOnce r.collection r.name).Yields t (.ok (some stored))) :
    r.ReadsAs stored t := by
  rcases Kubernetes.readOnce_course yields with ⟨-, failed⟩ | ⟨path, reply, sendable, rfl, read⟩
  · cases failed
  · exact ⟨path, reply, List.mem_cons_self, sendable, read.answer_found⟩

/-- A record is read again, and then there is a pass over what was found, if anything. -/
theorem reread_split {result : Except OperatorError ControllerAction}
    (yields : (r.reread base settings).Yields t result) :
    ∃ first read second, t = first ++ second ∧
      (Kubernetes.readOnce r.collection r.name).Yields first read ∧
      (second = [] ∧ (∀ stored, read ≠ .ok (some stored)) ∨ ∃ stored, read = .ok (some stored) ∧
        (stored.passIfHeld base settings).Yields second result) := by
  obtain ⟨e, reading, -⟩ | ⟨first, found, second, rfl, reading, afterRead⟩ :=
    Action.yields_bind.mp yields
  · obtain ⟨first, read, rest, rfl, readOnce, ending⟩ := Program.yields_bind.mp reading
    refine ⟨first, read, rest, rfl, readOnce, .inl ?_⟩
    cases read with
    | ok found => cases (Program.yields_done.mp ending).2
    | error e => exact ⟨(Program.yields_done.mp ending).1, fun _ => nofun⟩
  · obtain ⟨first, read, rest, rfl, readOnce, ending⟩ := Program.yields_bind.mp reading
    cases read with
    | error e => cases (Program.yields_done.mp ending).2
    | ok found =>
        obtain ⟨rfl, same⟩ := Program.yields_done.mp ending
        cases same
        refine ⟨first, .ok found, second, by simp, readOnce, ?_⟩
        cases found with
        | none => exact .inl ⟨(Action.yields_pure.mp afterRead).1, fun _ => nofun⟩
        | some stored => exact .inr ⟨stored, rfl, afterRead⟩

/-- A record that is read again drops the finalizer only if the resource of the record as it is
stored is absent. -/
theorem reread_drops {result : Except OperatorError ControllerAction}
    (yields : (r.reread base settings).Yields t result) :
    (∀ entry ∈ t, KeepsFinalizer entry.1) ∨
      ∃ stored, r.ReadsAs stored t ∧ OnAbsence base stored t := by
  obtain ⟨first, read, second, rfl, readOnce, afterRead⟩ := reread_split yields
  have keeps := (Kubernetes.readOnce_asks fun path _ =>
    Question.permits_keepsFinalizer.read path).of_mem readOnce
  rcases afterRead with ⟨rfl, -⟩ | ⟨stored, rfl, passed⟩
  · exact .inl (by simpa using keeps)
  · rcases (passIfHeld_dropsOnAbsence passed).behind keeps with keepsAll | absent
    · exact .inl keepsAll
    · obtain ⟨path, reply, asked, sendable, meaning⟩ := readOnce_readsAs readOnce
      exact .inr ⟨stored, ⟨path, reply, by simp [asked], sendable, meaning⟩, absent⟩

/-- What is asked around the reading and the pass: the time, the lock and the counting. -/
theorem controlCounted_split {result : Except OperatorError ControllerAction}
    (yields : (r.controlCounted base settings).Yields t result) :
    ∃ before inner after ended, t = before ++ (inner ++ after) ∧
      (r.reread base settings).Yields inner ended ∧
      (∀ entry ∈ before, KeepsFinalizer entry.1) ∧
      (∀ entry ∈ after, KeepsFinalizer entry.1 ∧ Spares entry.1) := by
  obtain ⟨start, inner, counted, rfl, reread, tallies⟩ := controlCounted_course yields
  refine ⟨[⟨.now, start⟩, ⟨.acquire r.key, ()⟩], inner, ⟨.release r.key, ()⟩ :: counted, result,
    by simp, reread, ?_, ?_⟩
  · intro entry member
    simp only [List.mem_cons, List.not_mem_nil, or_false] at member
    rcases member with rfl | rfl <;> rfl
  · intro entry member
    rcases List.mem_cons.mp member with rfl | member
    · exact ⟨rfl, rfl⟩
    · exact calm_of_tallies (tallies entry member)

end Record

/-- **The finalizer is released only on confirmed absence.** -/
theorem finalizer_released_on_absence :
    (∀ {R : Type} {profile : Profile R} {subject : Subject} {settings : Settings} {now : Instant}
        {t : List (Entry R)} {o : Outcome},
      (reconcileOnce profile subject settings now).Yields t o →
        (o.removeFinalizer = true ↔ o.step = .delete ∧ ∃ answer e,
          t = [.deleted subject.status.id answer, .got subject.status.id (.error e)] ∧
            DeleteAccepted answer ∧ e.isNotFound = true)) ∧
    ∀ {base : Url} {r : Record} {settings : Settings} {t : Exchange}
        {result : Except OperatorError ControllerAction},
      (r.controlCounted base settings).Yields t result →
        (∃ entry ∈ t, entry.1.dropsFinalizer = true) →
          ∃ stored, r.ReadsAs stored t ∧ OnAbsence base stored t := by
  refine ⟨removeFinalizer_iff, ?_⟩
  rintro base r settings t result yields ⟨entry, member, drops⟩
  obtain ⟨before, inner, after, ended, rfl, reread, keepsBefore, calm⟩ :=
    Record.controlCounted_split yields
  -- The request that drops the finalizer is part of the pass: nothing around it patches a record.
  rcases Record.reread_drops reread with keeps | ⟨stored, ⟨path, reply, asked, read⟩, absent⟩
  · rcases List.mem_append.mp member with member | member
    · simp [keepsBefore entry member] at drops
    · rcases List.mem_append.mp member with member | member
      · simp [keeps entry member] at drops
      · simp [(calm entry member).1] at drops
  · refine ⟨stored, ⟨path, reply, by simp [asked], read⟩, ?_⟩
    exact (absent.ahead fun entry member => (calm entry member).2).behind keepsBefore

/-! ## A database that is gone already -/

namespace Vanished

/-- The record of a database, as it is stored while it is being deleted. -/
def document : String :=
  "\x7b\"metadata\":\x7b\"name\":\"orders\",\"namespace\":\"shop\"," ++
    "\"deletionTimestamp\":\"2025-01-01T00:00:00Z\",\"finalizers\":[\"msop.dev/finalizer\"]\x7d," ++
    "\"spec\":\x7b\"project\":\"p\",\"serviceName\":\"s\"\x7d\x7d"

/-- The record as a watch has seen it. -/
def record : Record where
  metadata := { Metadata.empty with name := some "orders", namespaceName := some "shop" }
  spec := .database ⟨"p", "s", none, none, none, none⟩
  status := none

/-- Peers of which one holds the record and the other knows no service. -/
def answer : (q : Question) → q.Answer
  | .http _ => .answered 404 ""
  | .kube _ => .answered 200 document
  | .patience _ => 0
  | .now => ⟨0, 0⟩
  | .acquire _ => ()
  | .release _ => ()
  | .count _ => ()

/-- The base URL of the control plane. -/
def base : Url := ⟨"http", some [""], "", none, none⟩

/-- What a reconcile of the record asks, with the answers. -/
def exchange : Exchange :=
  (record.controlCounted base .standard).trace (fun q (_ : Unit) => (answer q, ())) ()

/-- A pass over the record, whose calls all find nothing. -/
def pass : Calls DatabaseDocument Outcome :=
  reconcileOnce (DatabaseSpec.profile ⟨"p", "s", none, none, none, none⟩)
    ⟨"Database", "orders", 1, true, .initial⟩ .standard ⟨0, 0⟩

/-- The answer to a call of the pass. -/
def found (c : Call DatabaseDocument) : c.Answer := .error (.notFound "database orders")

end Vanished

/-- The reconcile of a record whose database is gone drops the finalizer, and its pass releases
it. -/
theorem finalizer_released_on_absence_vanished :
    (∃ (answer : Except OperatorError Unit) (e : OperatorError),
        Vanished.pass.trace (fun c (_ : Unit) => (Vanished.found c, ())) () =
          [Entry.deleted none answer, Entry.got none (.error e)] ∧
        DeleteAccepted answer ∧ e.isNotFound = true) ∧
      (∃ entry ∈ Vanished.exchange, entry.1.dropsFinalizer = true) ∧
      ∃ stored, Vanished.record.ReadsAs stored Vanished.exchange ∧
        OnAbsence Vanished.base stored Vanished.exchange := by
  have drops : ∃ entry ∈ Vanished.exchange, entry.1.dropsFinalizer = true :=
    List.any_eq_true.mp (by decide +kernel)
  have released := finalizer_released_on_absence.1
    (Program.yields_run (fun c (_ : Unit) => (Vanished.found c, ())) Vanished.pass ())
  exact ⟨(released.mp rfl).2, drops,
    finalizer_released_on_absence.2 (Program.yields_run _ _ _) drops⟩

end ServiceOperator
