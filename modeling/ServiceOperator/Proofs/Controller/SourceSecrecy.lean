import ServiceOperator.Proofs.Controller.Frames
import ServiceOperator.Proofs.Kinds.Rotation
import ServiceOperator.Proofs.Kinds.Secrecy

/-!
# The password of a source secret does not get around

What a pass decides is written down by its controller: the status of the record, its connection
secret, its annotations, its finalizers.  If two runs of a reconcile differ in nothing but the value
in the source secret of the record, they differ in the password that is sent to the control plane
and in the fingerprint that is noted, and in nothing else that anyone is asked or told
(`source_value_hidden`): not in a request, in the order of two requests, in a message or a reason,
in a count, in a secret or in when the record comes back.

### A property of two runs

Secrecy is not a property of one exchange, so two runs are followed at once.  `Record.likeness` says
which questions of the two count as alike, and which answers may differ: those that show the source
secret, and those that show the record after a write.  `Abreast` then relates two programs that keep
to it, step by step, and each part of a reconcile has one lemma that puts it abreast of itself.  The
one place where the runs could part is where a status is compared with the stored one, and there the
fingerprint has no say as long as neither value has been noted (`changed_eq_of_indistinct`).
-/

namespace ServiceOperator

open Program (Abreast Likeness)

/-! ## Writing down what a pass decided -/

namespace Record

variable {base : Url} {r : Record} {settings : Settings} {o o' : Outcome} {g : Option String}

/-- A patch of a record is taken alike, even if two of them differ in what is blotted out. -/
theorem patchRecord_abreast {part : String} {p p' : KubePatch}
    (alike : ∀ path, Question.redacted (.kube ⟨path, some p⟩) =
      Question.redacted (.kube ⟨path, some p'⟩)) :
    Abreast r.likeness (SameOutcome fun _ _ => True)
      (Kubernetes.patch r.collection r.name part p).result
      (Kubernetes.patch r.collection r.name part p').result := by
  refine Kubernetes.call_compares (K := r.likeness.comparison) ?_ (r.patience_abreast _)
  split
  · exact .done (.error _)
  unfold Kubernetes.sendTo
  split
  case h_1 path sendable =>
    have records : Kubernetes.OfRecords path := by
      rw [String.append_assoc, String.append_assoc] at sendable
      exact Kubernetes.ofRecords_of_sendable sendable
    refine .ask (alike path) fun x y replies => .done ?_
    rcases replies with rfl | ⟨there, -⟩ | ⟨-, -, a, b, stored, storedToo⟩
    · exact .refl (fun _ => trivial) _
    · exact absurd there (sourcePath?_ne_of_ofRecords records)
    · rw [stored, storedToo]
      exact .ok trivial
  case h_2 => exact .done (.error _)

/-- A status is written alike, whatever fingerprint is noted in it. -/
theorem patchStatus_abreast {noted : Option String} {s : ResourceStatus}
    (indistinct : Indistinct noted s.sourceFingerprint g) :
    Abreast r.likeness (SameOutcome Eq) (r.patchStatus s).result
      (r.patchStatus { s with sourceFingerprint := g }).result := by
  refine Action.bind_abreast (patchRecord_abreast fun path => ?_) fun _ _ _ => .done (.ok rfl)
  obtain ⟨conditions, state, id, observed, failed, operation, deletion, fingerprint, attempts⟩ := s
  cases indistinct with
  | same => rfl
  | changed first second => rfl

/-- A connection secret is written alike, as its values come from the resource and not from the
source secret. -/
theorem materialize_abreast {info : ConnectionInfo} :
    Abreast r.likeness (SameOutcome Eq) (r.materialize info).result
      (r.materialize info).result := by
  unfold materialize
  split
  case h_1 => exact .done (.ok rfl)
  case h_2 secret _ =>
    let applied := Kubernetes.patch (Secret.collection r.namespaceName) r.secretName ""
      ⟨some fieldManager, secret⟩
    have patched : Abreast r.likeness (SameOutcome r.GivenAlike) applied.result applied.result := by
      refine Kubernetes.call_compares (K := r.likeness.comparison) ?_ (r.patience_abreast _)
      split
      · exact .done (.error _)
      · rw [String.append_assoc, String.append_assoc]
        exact sendSecret_abreast
    exact Action.bind_abreast patched fun _ _ _ => .done (.ok rfl)

theorem patchMarkers_abreast {markers : StringMap String} :
    Abreast r.likeness (SameOutcome Eq) (r.patchMarkers markers).result
      (r.patchMarkers markers).result :=
  Action.bind_abreast (patchRecord_abreast fun _ => rfl) fun _ _ _ => .done (.ok rfl)

theorem patchFinalizers_abreast {finalizers : List String} :
    Abreast r.likeness (SameOutcome Eq) (r.patchFinalizers finalizers).result
      (r.patchFinalizers finalizers).result :=
  Action.bind_abreast (patchRecord_abreast fun _ => rfl) fun _ _ _ => .done (.ok rfl)

/-- A finalizer is ensured alike. -/
theorem ensureFinalizer_abreast {finalizer : String} :
    Abreast r.likeness (SameOutcome Eq) (r.ensureFinalizer finalizer).result
      (r.ensureFinalizer finalizer).result := by
  unfold ensureFinalizer
  split
  · exact patchFinalizers_abreast
  · exact .done (.ok rfl)

/-- A finalizer is removed alike. -/
theorem removeFinalizer_abreast {finalizer : String} :
    Abreast r.likeness (SameOutcome Eq) (r.removeFinalizer finalizer).result
      (r.removeFinalizer finalizer).result := by
  unfold removeFinalizer
  split
  · exact .done (.ok rfl)
  · refine Abreast.bind patchFinalizers_abreast fun x y related => ?_
    cases related with
    | ok _ => exact .done (.ok rfl)
    | error e =>
        dsimp only
        split
        · exact .done (.ok rfl)
        · exact .done (.error e)

/-- A status with another fingerprint than the stored one has to be written. -/
theorem changed_of_unnoted {s : ResourceStatus} {f : Option String}
    (notes : s.sourceFingerprint = f) (unnoted : r.currentStatus.sourceFingerprint ≠ f) :
    ResourceStatus.changed r.status s = true := by
  unfold currentStatus at unnoted
  cases stored : r.status with
  | none => rfl
  | some stored' =>
      rw [stored] at unnoted
      have differ : { stored' with conditions := [] } ≠ { s with conditions := [] } := by
        intro same
        have noted := congrArg ResourceStatus.sourceFingerprint same
        exact unnoted (noted.trans notes)
      simp [ResourceStatus.changed, ResourceStatus.agrees, differ]

/-- Whether a status is written at all does not depend on which fingerprint is noted in it. -/
theorem changed_eq_of_indistinct {s : ResourceStatus}
    (indistinct : Indistinct r.currentStatus.sourceFingerprint s.sourceFingerprint g) :
    ResourceStatus.changed r.status { s with sourceFingerprint := g } =
      ResourceStatus.changed r.status s := by
  generalize notes : s.sourceFingerprint = f at indistinct
  cases indistinct with
  | same => rw [← notes]
  | changed first second => rw [changed_of_unnoted rfl second, changed_of_unnoted notes first]

/-- Alike outcomes are written down alike. -/
theorem apply_abreast (alike : o.Alike r.currentStatus.sourceFingerprint o') :
    Abreast r.likeness (SameOutcome Eq) (o.apply r).result (o'.apply r).result := by
  obtain ⟨g, rfl, indistinct⟩ := alike
  have changes : ResourceStatus.changed r.status (o.noting g).status =
      ResourceStatus.changed r.status o.status := changed_eq_of_indistinct indistinct
  have removes : (o.noting g).removeFinalizer = o.removeFinalizer := rfl
  have connects : (o.noting g).connectionInfo = o.connectionInfo := rfl
  have marks : (o.noting g).status.markers = o.status.markers := rfl
  have markers : Abreast r.likeness (SameOutcome Eq)
      (if r.markersChanged o.status.markers then r.patchMarkers o.status.markers
        else pure () : Action Unit).result
      (if r.markersChanged o.status.markers then r.patchMarkers o.status.markers
        else pure () : Action Unit).result := by
    split
    · exact patchMarkers_abreast
    · exact .done (.ok rfl)
  unfold Outcome.apply
  rw [changes, removes, connects, marks]
  split
  · exact removeFinalizer_abreast
  · refine Action.compares_when (K := r.likeness.comparison) (patchStatus_abreast indistinct) ?_
    cases o.connectionInfo with
    | none => exact markers
    | some info =>
        exact Action.bind_abreast materialize_abreast fun _ _ _ => markers

/-! ## A reconcile -/

theorem countAll_abreast (events : List MetricEvent) :
    Abreast r.likeness Eq (countAll events) (countAll events) :=
  (countAll_asks permitsRecords_exact.count events).abreast

/-- A pass goes alike, with all that is written down behind it. -/
theorem runPass_abreast :
    Abreast r.likeness (SameOutcome Eq) (r.runPass base settings).result
      (r.runPass base settings).result := by
  have time : Abreast r.likeness Eq Work.now Work.now := .ask rfl fun x y same => .done same
  refine Action.bind_abreast (Action.lift_abreast time) ?_
  rintro now _ rfl
  refine Action.bind_abreast (Action.lift_abreast reconcile_abreast) fun o o' alike => ?_
  refine Action.bind_abreast (apply_abreast alike) fun _ _ _ => ?_
  -- What is counted of an outcome, and when its record comes back, does not depend on its status.
  obtain ⟨g, rfl, -⟩ := alike
  exact Action.bind_abreast (Action.lift_abreast (countAll_abreast (o.events r.kind.name)))
    fun _ _ _ => .done (.ok rfl)

/-- A pass behind the finalizer that is ensured goes alike. -/
theorem passIfHeld_abreast :
    Abreast r.likeness (SameOutcome Eq) (r.passIfHeld base settings).result
      (r.passIfHeld base settings).result := by
  unfold passIfHeld
  split
  · split
    · exact runPass_abreast
    · exact .done (.ok rfl)
  · exact Action.bind_abreast ensureFinalizer_abreast fun _ _ _ => runPass_abreast

/-- An answer shows a record that is at hand as it is stored, if it shows it at all. -/
def FoundAs (atHand stored : Record) : (q : Question) → q.Answer → Prop
  | .kube request, reply => request.patch = none →
      Kubernetes.sendablePath? (atHand.collection.path ++ "/" ++ atHand.name) = some request.path →
      ∀ shown, Kubernetes.ofReply atHand.collection.decode reply = .ok shown → shown = stored
  | _, _ => True

variable {atHand stored : Record}

/-- Two runs as for a stored record, in which the one at hand is found to be this one. -/
abbrev likenessFound (atHand stored : Record) : Likeness Question.Answer :=
  stored.likeness.given (atHand.FoundAs stored)

/-- A read at the place of the record at hand shows the same to both, and if it shows a record at
all, the stored one. -/
theorem sendRead_abreast :
    Abreast (atHand.likenessFound stored)
      (fun x y => x = y ∧ ∀ shown, x = .ok shown → shown = stored)
      (Kubernetes.sendTo (atHand.collection.path ++ "/" ++ atHand.name) none
        atHand.collection.decode)
      (Kubernetes.sendTo (atHand.collection.path ++ "/" ++ atHand.name) none
        atHand.collection.decode) := by
  unfold Kubernetes.sendTo
  split
  case h_1 path sendable =>
    have records : Kubernetes.OfRecords path := by
      rw [String.append_assoc] at sendable
      exact Kubernetes.ofRecords_of_sendable sendable
    refine .ask rfl fun x y answered => .done ?_
    obtain rfl := (exact_of_ofRecords records).2 x y answered.1
    exact ⟨rfl, answered.2 rfl sendable⟩
  case h_2 => exact .done ⟨rfl, fun _ same => by cases same⟩

/-- Both runs find the same where the record at hand is read again. -/
theorem readOnce_abreast :
    Abreast (atHand.likenessFound stored)
      (fun x y => x = y ∧ ∀ shown, x = .ok (some shown) → shown = stored)
      (Kubernetes.readOnce atHand.collection atHand.name)
      (Kubernetes.readOnce atHand.collection atHand.name) := by
  unfold Kubernetes.readOnce
  split
  · exact .done ⟨rfl, fun _ same => by cases same⟩
  refine Abreast.bind sendRead_abreast ?_
  rintro x _ ⟨rfl, found⟩
  cases x with
  | ok shown =>
      refine .done ⟨rfl, fun shown' same => ?_⟩
      cases same
      exact found shown rfl
  | error e =>
      cases e with
      | api code message reason =>
          dsimp only
          split
          · exact .done ⟨rfl, fun _ same => by cases same⟩
          · exact .done ⟨rfl, fun _ same => by cases same⟩
      | _ => exact .done ⟨rfl, fun _ same => by cases same⟩

/-- A record that is read again goes alike from there. -/
theorem reread_abreast :
    Abreast (atHand.likenessFound stored) (SameOutcome Eq) (atHand.reread base settings).result
      (atHand.reread base settings).result := by
  refine Action.bind_abreast
    (R := fun x y => x = y ∧ ∀ shown, x = some shown → shown = stored) ?_ ?_
  · refine Abreast.bind readOnce_abreast ?_
    rintro read _ ⟨rfl, found⟩
    cases read with
    | error e => exact .done (.error _)
    | ok shown => exact .done (.ok ⟨rfl, fun _ same => found _ (congrArg Except.ok same)⟩)
  · rintro shown _ ⟨rfl, found⟩
    cases shown with
    | none => exact .done (.ok rfl)
    | some shown =>
        obtain rfl := found shown rfl
        exact passIfHeld_abreast.given

/-- A reconcile under the lock goes alike. -/
theorem control_abreast :
    Abreast (atHand.likenessFound stored) Eq (atHand.control base settings)
      (atHand.control base settings) := by
  refine (atHand.likenessFound stored).comparison.bind_same (p := Work.acquire atHand.key)
    (.ask rfl fun _ _ _ => .done rfl) fun _ => ?_
  refine Abreast.bind reread_abreast ?_
  intro x y related
  obtain rfl := related.eq
  exact (atHand.likenessFound stored).comparison.bind_same (p := Work.release atHand.key)
    (.ask rfl fun _ _ _ => .done rfl) fun _ => .done rfl

/-- A reconcile goes alike from its first question to its last. -/
theorem controlCounted_abreast :
    Abreast (atHand.likenessFound stored) Eq (atHand.controlCounted base settings)
      (atHand.controlCounted base settings) := by
  let K := (atHand.likenessFound stored).comparison
  have now : Abreast (atHand.likenessFound stored) Eq Work.now Work.now :=
    .ask rfl fun x y same => .done same.1
  have count (event : MetricEvent) : Abreast (atHand.likenessFound stored) Eq
      (Work.count event) (Work.count event) := (stored.count_abreast event).given
  refine K.bind_same now fun start => ?_
  refine K.bind_same control_abreast fun result => ?_
  refine K.bind_same now fun finish => ?_
  cases result with
  | ok action => exact K.bind_same (count _) fun _ => .done rfl
  | error e => exact K.bind_same (count _) fun _ => K.bind_same (count _) fun _ => .done rfl

end Record

/-- What was asked, without the password of a reset and without the fingerprint in a status. -/
def Exchange.redacted (t : Exchange) : List Question :=
  t.map fun entry => entry.1.redacted

theorem Record.redacted_eq_of_asked {r : Record} {t t' : Exchange} (asked : r.likeness.Asked t t') :
    t.redacted = t'.redacted :=
  List.forall₂_eq_eq_eq ▸ List.forall₂_map_left_iff.mpr (List.forall₂_map_right_iff.mpr asked)

/-- **The value in a source secret stays hidden.**  Two passes over a record, and two reconciles of
it, are answered alike: the same, as long as they ask the same, except that the source secret shows
one value to the first and another one to the second, both yet to be noted, and that a write of the
record may show each of them what is stored then.  Then they ask the same in the same order, up to
the password of a reset and the fingerprint in a status; the passes have the same outcome up to the
noted fingerprint, and the reconciles the same result. -/
theorem source_value_hidden (base : Url) (r : Record) (settings : Settings) :
    (∀ {now : Instant} {t t' : Exchange} {o o' : Outcome},
      (r.reconcile base settings now).Yields t o → (r.reconcile base settings now).Yields t' o' →
      r.likeness.Answered t t' → t.redacted = t'.redacted ∧ o.noting none = o'.noting none) ∧
    ∀ {atHand : Record} {t t' : Exchange} {result result' : Except OperatorError ControllerAction},
      (atHand.controlCounted base settings).Yields t result →
      (atHand.controlCounted base settings).Yields t' result' →
      (∀ entry ∈ t, atHand.FoundAs r entry.1 entry.2) → r.likeness.Answered t t' →
      t.redacted = t'.redacted ∧ result = result' := by
  constructor
  · intro now t t' o o' first second answered
    obtain ⟨asked, alike⟩ := Record.reconcile_abreast.yields first second answered
    obtain ⟨g, rfl, -⟩ := alike
    exact ⟨Record.redacted_eq_of_asked asked, rfl⟩
  · intro atHand t t' result result' first second found answered
    obtain ⟨asked, same⟩ :=
      Record.controlCounted_abreast.yields first second (answered.given found)
    exact ⟨Record.redacted_eq_of_asked (r := r) asked, same⟩

/-! ## A secret with one value and with another -/

namespace Rotating

open Reverted (base user)

/-- What the record of the user declares. -/
def spec : ServiceUserSpec := ⟨"p", "s", none, none, none, some ⟨"src", none, "k"⟩⟩

/-- The record of the user, which has no status yet. -/
def record : Record where
  metadata := { Metadata.empty with name := some "u", namespaceName := some "ns", uid := some "1" }
  spec := .serviceUser spec
  status := none

/-- The record as it is stored. -/
def document : String :=
  "\x7b\"metadata\":\x7b\"name\":\"u\",\"namespace\":\"ns\",\"uid\":\"1\"\x7d," ++
    "\"spec\":\x7b\"project\":\"p\",\"serviceName\":\"s\"," ++
    "\"connInfoSecretSource\":\x7b\"name\":\"src\",\"passwordKey\":\"k\"\x7d\x7d\x7d"

/-- Where the record is stored. -/
def path : String := record.collection.path ++ "/" ++ record.name

/-- Peers of which one has the record, and a value in its source secret. -/
def answer (value : String) : (q : Question) → q.Answer
  | .kube request =>
    if path.isPrefixOf request.path then .answered 200 document
    else Reverted.answer value (.answered 200 "") (.kube request)
  | q => Reverted.answer value (.answered 200 "") q

/-- A pass over the record among those peers. -/
def pass (value : String) : RecordPass base :=
  .against (answer value) record .standard ⟨0, 0⟩

/-- What is asked along a reconcile of the record, with the answers. -/
def exchange (answer : (q : Question) → q.Answer) : Exchange :=
  (record.controlCounted base .standard).trace (fun q (_ : Unit) => (answer q, ())) ()

/-- What the reconcile comes to. -/
def result (answer : (q : Question) → q.Answer) : Except OperatorError ControllerAction :=
  ((record.controlCounted base .standard).run (fun q (_ : Unit) => (answer q, ())) ()).1

theorem yields (answer : (q : Question) → q.Answer) :
    (record.controlCounted base .standard).Yields (exchange answer) (result answer) :=
  Program.yields_run _ _ _

/-- The user that a record declares, if it declares one. -/
def user? (r : Record) : Option ServiceUserSpec :=
  match r.spec with
  | .serviceUser s => some s
  | _ => none

/-- A record that declares a user is specified as one. -/
theorem spec_of_user? {r : Record} {s : ServiceUserSpec} (declares : user? r = some s) :
    r.spec = .serviceUser s := by
  unfold user? at declares
  split at declares
  next same => rw [same, Option.some.inj declares]
  next => cases declares

/-- What is read from the stored document is the record. -/
theorem ofReply_document {shown : Record}
    (read : Kubernetes.ofReply record.collection.decode (.answered 200 document) = .ok shown) :
    shown = record := by
  have seen : (Kubernetes.ofReply record.collection.decode (.answered 200 document)).toOption.map
      (fun r => (r.metadata, user? r, r.status)) = some (record.metadata, some spec, none) := by
    decide +kernel
  rw [read] at seen
  obtain ⟨metadata, rest⟩ := Prod.mk.inj (Option.some.inj seen)
  obtain ⟨declares, status⟩ := Prod.mk.inj rest
  obtain ⟨_, _, _⟩ := shown
  cases metadata
  cases spec_of_user? declares
  cases status
  rfl

/-- The record is found as it is. -/
theorem foundAs (value : String) :
    ∀ entry ∈ exchange (answer value), record.FoundAs record entry.1 entry.2 := by
  rintro ⟨q, reply⟩ asked
  have answered : reply = answer value q := Program.answer_of_mem_trace asked
  cases q with
  | kube request =>
      intro _ sendable shown read
      have plain : Kubernetes.sendablePath? path = some path := by decide +kernel
      have there : path = request.path := Option.some.inj (plain.symm.trans sendable)
      have start : path.isPrefixOf path = true := by decide +kernel
      have stored : answer value (.kube request) = .answered 200 document :=
        if_pos (there ▸ start)
      exact ofReply_document (stored ▸ answered ▸ read)
  | _ => trivial

/-- The source secret shows a value, which has yet to be noted. -/
theorem shows {value : String} (known : value = "one" ∨ value = "two") : ∃ secret,
    record.Shows ⟨"src", none, "k"⟩ (.answered 200 (Reverted.secret value)) secret value := by
  let reply : KubeReply := .answered 200 (Reverted.secret value)
  have seen : (Kubernetes.ofReply Secret.decode reply).toOption.map (·.bytesAt? "k") =
      some (some (Text.utf8Bytes value.toList)) := by
    rcases known with rfl | rfl <;> decide +kernel
  have filled : value ≠ "" := by
    rcases known with rfl | rfl <;> decide
  obtain ⟨secret, read, holds⟩ := Option.map_eq_some_iff.mp seen
  have decoded : Kubernetes.ofReply Secret.decode reply = .ok secret := by
    cases same : Kubernetes.ofReply Secret.decode reply with
    | ok secret' => rw [same] at read; exact congrArg Except.ok (Option.some.inj read)
    | error e => rw [same] at read; cases read
  exact ⟨secret, rfl, decoded, holds, filled, nofun⟩

/-- The peers answer alike to alike questions. -/
theorem answer_alike (q q' : Question) (same : record.likeness.Questions q q') :
    record.likeness.Answers q q' (answer "one" q) (answer "two" q') := by
  cases q with
  | http request =>
      cases q' with
      | http request' =>
          -- What is blotted out is in the body, and nothing is answered by the body.
          obtain ⟨body, redacted⟩ := Question.redacted_http request
          obtain ⟨body', redacted'⟩ := Question.redacted_http request'
          have blotted := Question.http.inj (redacted.symm.trans (Eq.trans same redacted'))
          obtain ⟨method, target, -⟩ := HttpRequest.mk.inj blotted
          change Reverted.answer "one" (.answered 200 "") (.http request) =
            Reverted.answer "two" (.answered 200 "") (.http request')
          simp only [Reverted.answer, method, target]
      | _ => trivial
  | kube request =>
      cases q' with
      | kube request' =>
          have there : request.path = request'.path :=
            (KubeRequest.mk.inj (Question.kube.inj (show _ = _ from same))).1
          have source : record.sourcePath? = some ((Secret.collection "ns").path ++ "/src") := by
            decide +kernel
          obtain ⟨a, showsOne⟩ := shows (.inl rfl)
          obtain ⟨b, showsTwo⟩ := shows (.inr rfl)
          simp only [answer, Reverted.answer, ← there]
          split
          · exact .inl rfl
          · split
            next here =>
              rw [← here] at source
              exact .inr (.inl ⟨source, _, a, b, _, _, showsOne, showsTwo⟩)
            next => exact .inl rfl
      | _ => trivial
  | patience _ =>
      cases q' with
      | patience _ => rfl
      | _ => trivial
  | now =>
      cases q' with
      | now => rfl
      | _ => trivial
  | _ => trivial

theorem answered : record.likeness.Answered (exchange (answer "one")) (exchange (answer "two")) :=
  Likeness.answered_trace answer_alike _ _

end Rotating

/-- With one value in the source secret or with another, the user is given one password or the
other, and nothing else differs. -/
theorem source_value_hidden_rotating :
    ((Rotating.pass "one").asked.redacted = (Rotating.pass "two").asked.redacted ∧
        (Rotating.pass "one").outcome.noting none = (Rotating.pass "two").outcome.noting none) ∧
      ((Rotating.exchange (Rotating.answer "one")).redacted =
          (Rotating.exchange (Rotating.answer "two")).redacted ∧
        Rotating.result (Rotating.answer "one") = Rotating.result (Rotating.answer "two")) ∧
      (lastPassword (Reverted.user.target Reverted.base "u") (Rotating.pass "one").asked,
        lastPassword (Reverted.user.target Reverted.base "u") (Rotating.pass "two").asked) =
          (some "one", some "two") := by
  have hidden := source_value_hidden Reverted.base Rotating.record .standard
  refine ⟨?_, ?_, by decide +kernel⟩
  · exact hidden.1 (Rotating.pass "one").yields (Rotating.pass "two").yields
      (Likeness.answered_trace Rotating.answer_alike _ _)
  · exact hidden.2 (Rotating.yields (Rotating.answer "one"))
      (Rotating.yields (Rotating.answer "two")) (Rotating.foundAs "one") Rotating.answered

end ServiceOperator
