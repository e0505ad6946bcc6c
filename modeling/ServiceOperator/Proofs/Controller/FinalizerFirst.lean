import ServiceOperator.Proofs.Controller.Finalizer

/-!
# Nothing is done before the finalizer

A record that goes while its resource exists leaves a resource behind that no one knows.  What keeps
it from going is the finalizer, so the control plane may hear of a record only when the record
carries it.  A reconcile reads its record first, before it speaks to anyone else (`Record.Finds`).
What it finds decides:

* There is no record, or one that is being deleted and has lost the finalizer: it ends without
  another request.
* The record carries the finalizer: it goes on.
* The record does not carry it and is not being deleted: it patches the record, and goes on only if
  the patch was answered with success (`Record.AddsFinalizer`).

### What is load-bearing

The reading stands at a fixed place: behind the question for the time and the lock (`Record.Finds`).
Whatever comes before a request to the control plane therefore begins with it (`prefix_of_split`),
and what is found is the same for every such request (`Finds.unique`).  The patch, on the other
hand, may be tried several times, so `Record.AddsFinalizer` only asks for it to be somewhere before,
with an answer that is a success.
-/

namespace ServiceOperator

namespace Question

/-- A request that may change something: any one to the control plane, and one that writes to
Kubernetes. -/
def mayChange : Question → Bool
  | .http _ => true
  | .kube ⟨_, some _⟩ => true
  | _ => false

/-- What may change nothing does not reach the control plane. -/
theorem not_external {q : Question} (calm : q.mayChange = false) : q.isExternal = false := by
  cases q with
  | http request => cases calm
  | _ => rfl

theorem calm_of_tallies {q : Question} (tallied : q.tallies = true) : q.mayChange = false := by
  cases q with
  | now => rfl
  | count event => rfl
  | _ => cases tallied

end Question

/-! ## What a reconcile finds, and what it adds -/

namespace Record

variable {base : Url} {r stored other : Record} {settings : Settings} {t : Exchange}

/-- A reconcile asks for the time, takes its lock, and then reads its record and finds it as it is
stored. -/
def Finds (r stored : Record) (t : Exchange) : Prop :=
  ∃ start path reply later,
    t = ⟨.now, start⟩ :: ⟨.acquire r.key, ()⟩ :: ⟨.kube ⟨path, none⟩, reply⟩ :: later ∧
      Kubernetes.sendablePath? (r.collection.path ++ "/" ++ r.name) = some path ∧
      Kubernetes.ofReply r.collection.decode reply = .ok stored

/-- A merge patch that adds the finalizer to those of a record. -/
def withFinalizer (r : Record) : Json :=
  let finalizers := r.metadata.finalizers.getD [] ++ [resourceFinalizer]
  .object [("metadata", .object [("finalizers", .array (finalizers.map .string))])]

/-- The finalizer is added to the finalizers of a record by a patch that succeeds. -/
def AddsFinalizer (r : Record) (t : Exchange) : Prop :=
  ∃ path reply updated, ⟨.kube ⟨path, some ⟨none, r.withFinalizer⟩⟩, reply⟩ ∈ t ∧
    Kubernetes.sendablePath? (r.collection.path ++ "/" ++ r.name) = some path ∧
    Kubernetes.ofReply r.collection.decode reply = .ok updated

/-- A record is held: it carries the finalizer, or is not being deleted and was given it. -/
def HeldIn (r : Record) (t : Exchange) : Prop :=
  r.hasFinalizer resourceFinalizer = true ∨
    r.metadata.deletionRequested = false ∧ r.AddsFinalizer t

/-- What a reconcile finds at its beginning it has found whatever follows. -/
theorem Finds.ahead {later : Exchange} (finds : r.Finds stored t) :
    r.Finds stored (t ++ later) := by
  obtain ⟨start, path, reply, rest, rfl, read⟩ := finds
  exact ⟨start, path, reply, rest ++ later, rfl, read⟩

/-- What is found at the beginning is found once. -/
theorem Finds.unique (finds : r.Finds stored t) (again : r.Finds other t) : stored = other := by
  obtain ⟨start, path, reply, later, rfl, -, decoded⟩ := finds
  obtain ⟨start', path', reply', later', same, -, decoded'⟩ := again
  simp only [List.cons.injEq, Sigma.mk.injEq] at same
  obtain ⟨-, -, ⟨-, sameReply⟩, -⟩ := same
  obtain rfl := eq_of_heq sameReply
  exact Except.ok.inj (decoded.symm.trans decoded')

/-- What is found is what the surroundings answer at the path of the record. -/
theorem Finds.answered {answer : (q : Question) → q.Answer} (finds : r.Finds stored t)
    (given : ∀ entry ∈ t, entry.2 = answer entry.1) :
    ∃ path, Kubernetes.sendablePath? (r.collection.path ++ "/" ++ r.name) = some path ∧
      Kubernetes.ofReply r.collection.decode (answer (.kube ⟨path, none⟩)) = .ok stored := by
  obtain ⟨start, path, reply, later, rfl, sendable, decoded⟩ := finds
  have replied : reply = answer (.kube ⟨path, none⟩) := given ⟨_, reply⟩ (by simp)
  exact ⟨path, sendable, replied ▸ decoded⟩

/-- A record that is found is what the reading of the record comes to. -/
theorem Finds.read_found {start : Instant} {first later : Exchange}
    {read : Except KubeError (Option Record)}
    (finds : r.Finds stored
      (⟨.now, start⟩ :: ⟨.acquire r.key, ()⟩ :: (first ++ ⟨.release r.key, ()⟩ :: later)))
    (yields : (Kubernetes.readOnce r.collection r.name).Yields first read) :
    read = .ok (some stored) := by
  obtain ⟨start', path, reply, rest, same, -, decoded⟩ := finds
  rcases Kubernetes.readOnce_course yields with ⟨rfl, -⟩ | ⟨path', reply', -, rfl, readAs⟩
  · simp at same
  · simp only [List.cons_append, List.nil_append, List.cons.injEq, Sigma.mk.injEq] at same
    obtain ⟨-, -, ⟨-, sameReply⟩, -⟩ := same
    obtain rfl := eq_of_heq sameReply
    rw [decoded] at readAs
    cases readAs
    rfl

/-- A finalizer that was added along an exchange was added along any longer one. -/
theorem AddsFinalizer.mono {later : Exchange} (adds : r.AddsFinalizer t) (sub : t ⊆ later) :
    r.AddsFinalizer later := by
  obtain ⟨path, reply, updated, sent, rest⟩ := adds
  exact ⟨path, reply, updated, sub sent, rest⟩

theorem HeldIn.mono {later : Exchange} (held : r.HeldIn t) (sub : t ⊆ later) : r.HeldIn later :=
  held.imp_right fun ⟨alive, adds⟩ => ⟨alive, adds.mono sub⟩

/-- A finalizer that was ensured is there, or was added. -/
theorem ensureFinalizer_adds
    (yields : (r.ensureFinalizer resourceFinalizer).Yields t (.ok ())) :
    r.hasFinalizer resourceFinalizer = true ∨ r.AddsFinalizer t := by
  unfold ensureFinalizer finalizersWith? at yields
  cases carries : r.hasFinalizer resourceFinalizer with
  | true => exact .inl rfl
  | false =>
      rw [carries, if_neg Bool.false_ne_true] at yields
      obtain ⟨patched, sent, same⟩ := Action.yields_map.mp yields
      cases patched with
      | error e => cases same
      | ok updated =>
          obtain ⟨path, reply, asked, sendable, meaning⟩ := Kubernetes.patch_succeeds sent
          rw [String.append_empty] at sendable
          exact .inr ⟨path, reply, updated, asked, sendable, meaning⟩

theorem ensureFinalizer_internal :
    (r.ensureFinalizer resourceFinalizer).Asks fun q => q.isExternal = false :=
  ensureFinalizer_asks (fun _ _ _ => rfl) rfl

/-! ## What follows the reading -/

/-- What a pass over a stored record asks: nothing, or it asks something of the control plane only
once the record is held. -/
theorem passIfHeld_held {result : Except OperatorError ControllerAction}
    (yields : (stored.passIfHeld base settings).Yields t result) :
    (t = [] ∧ stored.metadata.deletionRequested = true ∧
        stored.hasFinalizer resourceFinalizer = false) ∨
      (stored.metadata.deletionRequested = false ∨ stored.hasFinalizer resourceFinalizer = true) ∧
        ∃ first second, t = first ++ second ∧ (∀ entry ∈ first, entry.1.isExternal = false) ∧
          (second = [] ∨ stored.HeldIn first) := by
  unfold passIfHeld at yields
  cases deleting : stored.metadata.deletionRequested with
  | true =>
      rw [deleting, if_pos rfl] at yields
      cases carries : stored.hasFinalizer resourceFinalizer with
      | true => exact .inr ⟨.inr rfl, [], t, rfl, by simp, .inr (.inl carries)⟩
      | false =>
          rw [carries, if_neg Bool.false_ne_true] at yields
          exact .inl ⟨(Action.yields_pure.mp yields).1, rfl, rfl⟩
  | false =>
      rw [deleting, if_neg Bool.false_ne_true] at yields
      refine .inr ⟨.inl rfl, ?_⟩
      obtain ⟨e, ensured, -⟩ | ⟨first, u, second, rfl, ensured, -⟩ := Action.yields_bind.mp yields
      · exact ⟨t, [], by simp, ensureFinalizer_internal.of_mem ensured, .inl rfl⟩
      · refine ⟨first, second, rfl, ensureFinalizer_internal.of_mem ensured, .inr ?_⟩
        exact (ensureFinalizer_adds ensured).imp_right fun adds => ⟨deleting, adds⟩

/-- A reconcile finds no record and asks nothing that may change something, or it finds its record,
passes over it as it is stored, and asks nothing else that may. -/
theorem controlCounted_passes {result : Except OperatorError ControllerAction}
    (yields : (r.controlCounted base settings).Yields t result) :
    (∀ entry ∈ t, entry.1.mayChange = false) ∧ (∀ stored, ¬ r.Finds stored t) ∨
      ∃ stored front passing closing, t = front ++ (passing ++ closing) ∧ r.Finds stored front ∧
        (stored.passIfHeld base settings).Yields passing result ∧
        (∀ entry ∈ front, entry.1.mayChange = false) ∧
        ∀ entry ∈ closing, entry.1.mayChange = false := by
  obtain ⟨start, inner, counted, rfl, reread, tallies⟩ := controlCounted_course yields
  obtain ⟨first, read, second, rfl, readOnce, afterRead⟩ := reread_split reread
  have closing : ∀ entry ∈ ⟨.release r.key, ()⟩ :: counted, entry.1.mayChange = false := by
    rw [List.forall_mem_cons]
    exact ⟨rfl, fun entry member => Question.calm_of_tallies (tallies entry member)⟩
  have reading : ∀ entry ∈ first, entry.1.mayChange = false :=
    Program.Asks.of_mem (P := fun q => q.mayChange = false)
      (Kubernetes.readOnce_asks fun _ _ => rfl) readOnce
  have front : ∀ entry ∈ ⟨.now, start⟩ :: ⟨.acquire r.key, ()⟩ :: first,
      entry.1.mayChange = false := by
    simp only [List.forall_mem_cons]
    exact ⟨rfl, rfl, reading⟩
  -- Around the pass only the clock, the locks and the counters are asked, and the record is read.
  rcases afterRead with ⟨rfl, missing⟩ | ⟨stored, rfl, passed⟩
  · rw [List.append_nil]
    refine .inl ⟨fun entry member => ?_, fun stored finds => ?_⟩
    · rw [← List.cons_append, ← List.cons_append] at member
      exact (List.mem_append.mp member).elim (front entry) (closing entry)
    · exact missing stored (finds.read_found readOnce)
  · rcases Kubernetes.readOnce_course readOnce with
      ⟨-, failed⟩ | ⟨path, reply, sendable, rfl, read⟩
    · cases failed
    · exact .inr ⟨stored, _, second, _, by simp,
        ⟨start, path, reply, [], rfl, sendable, read.answer_found⟩, passed, front, closing⟩

/-- A reconcile asks nothing that may change something, or it finds a record that is not lost, and
asks something of the control plane only once that record is held. -/
theorem controlCounted_held {result : Except OperatorError ControllerAction}
    (yields : (r.controlCounted base settings).Yields t result) :
    (∀ entry ∈ t, entry.1.mayChange = false) ∨ ∃ stored front rest, t = front ++ rest ∧
      r.Finds stored front ∧
      (stored.metadata.deletionRequested = false ∨ stored.hasFinalizer resourceFinalizer = true) ∧
      (∀ entry ∈ front, entry.1.isExternal = false) ∧
      ((∀ entry ∈ rest, entry.1.isExternal = false) ∨ stored.HeldIn front) := by
  rcases controlCounted_passes yields with
    ⟨calm, -⟩ | ⟨stored, front, passed, closing, rfl, finds, passes, calm, quiet⟩
  · exact .inl calm
  rcases passIfHeld_held passes with ⟨rfl, -⟩ | ⟨kept, ensured, passing, rfl, internal, held⟩
  · refine .inl fun entry member => ?_
    exact (List.mem_append.mp member).elim (calm entry) (quiet entry)
  refine .inr ⟨stored, front ++ ensured, passing ++ closing, by simp, finds.ahead, kept, ?_, ?_⟩
  · rw [List.forall_mem_append]
    exact ⟨fun entry member => Question.not_external (calm entry member), internal⟩
  · rcases held with rfl | held
    · exact .inl fun entry member => Question.not_external (quiet entry member)
    · exact .inr (held.mono (List.subset_append_right ..))

/-- What comes before a request to the control plane begins with all that cannot be one. -/
theorem prefix_of_split {front rest before after : Exchange} {entry : Sigma Question.Answer}
    (same : front ++ rest = before ++ entry :: after)
    (internal : ∀ other ∈ front, other.1.isExternal = false)
    (external : entry.1.isExternal = true) :
    ∃ middle, before = front ++ middle ∧ rest = middle ++ entry :: after := by
  rcases List.append_eq_append_iff.mp same with ⟨middle, split, tail⟩ | ⟨middle, split, tail⟩
  · exact ⟨middle, split, tail⟩
  · cases middle with
    | nil => exact ⟨[], by simpa using split.symm, by simpa using tail.symm⟩
    | cons other middle =>
        rw [List.cons_append] at tail
        obtain ⟨rfl, -⟩ := List.cons.inj tail
        have quiet := internal entry (split ▸ List.mem_append_right _ List.mem_cons_self)
        cases quiet.symm.trans external

end Record

/-- **Nothing is done before the finalizer.**  Let a reconcile, of any record of any kind, ask along
an exchange, whatever its peers answer.  Before each request to the control plane it has read its
record and found it to carry the finalizer, or found it not to be deleted and added the finalizer
with a patch that succeeded.  And if it finds no record, or one that is being deleted and does not
carry the finalizer, it sends no request to the control plane and writes nothing. -/
theorem held_before_external {base : Url} {r : Record} {settings : Settings} {t : Exchange}
    {result : Except OperatorError ControllerAction}
    (yields : (r.controlCounted base settings).Yields t result) :
    (∀ before request reply after, t = before ++ ⟨.http request, reply⟩ :: after →
        ∃ stored, r.Finds stored before ∧ stored.HeldIn before) ∧
      ((∀ stored, r.Finds stored t → stored.metadata.deletionRequested = true ∧
          stored.hasFinalizer resourceFinalizer = false) →
        ∀ entry ∈ t, entry.1.mayChange = false) := by
  rcases Record.controlCounted_held yields with
    calm | ⟨stored, front, rest, rfl, finds, kept, internal, held⟩
  · refine ⟨?_, fun _ => calm⟩
    rintro before request reply after rfl
    cases calm ⟨.http request, reply⟩ (List.mem_append_right _ List.mem_cons_self)
  constructor
  · intro before request reply after split
    obtain ⟨middle, rfl, rfl⟩ := Record.prefix_of_split split internal rfl
    rcases held with internal | held
    · cases internal ⟨.http request, reply⟩ (List.mem_append_right _ List.mem_cons_self)
    · exact ⟨stored, finds.ahead, held.mono (List.subset_append_left ..)⟩
  · intro lost
    obtain ⟨deleting, bare⟩ := lost stored finds.ahead
    rw [deleting, bare] at kept
    simp at kept

/-! ## A record that is new -/

namespace Newborn

/-- The record of a VPC, as it is stored before any pass. -/
def document : String :=
  "\x7b\"metadata\":\x7b\"name\":\"net\",\"namespace\":\"shop\"\x7d," ++
    "\"spec\":\x7b\"project\":\"p\",\"cloudName\":\"c\",\"networkCidr\":\"10.0.0.0/24\"\x7d\x7d"

/-- The record as a watch has seen it. -/
def record : Record where
  metadata := { Metadata.empty with name := some "net", namespaceName := some "shop" }
  spec := .projectVpc ⟨"p", "c", "10.0.0.0/24"⟩
  status := none

/-- Peers of which one holds the record and the other does not answer. -/
def answer : (q : Question) → q.Answer :=
  Question.answerBy (fun _ => .lost) fun _ => .answered 200 document

/-- What a reconcile of the record asks, with the answers. -/
def exchange : Exchange :=
  (record.controlCounted ⟨"http", some [""], "", none, none⟩ .standard).trace
    (fun q (_ : Unit) => (answer q, ())) ()

end Newborn

/-- The VPC of a new record is asked for, and the record is held by then. -/
theorem held_before_external_newborn : ∃ before request reply after stored,
    Newborn.exchange = before ++ ⟨.http request, reply⟩ :: after ∧
      Newborn.record.Finds stored before ∧ stored.HeldIn before := by
  obtain ⟨⟨question, reply⟩, asked, external⟩ :
      ∃ entry ∈ Newborn.exchange, entry.1.isExternal = true :=
    List.any_eq_true.mp (by decide +kernel)
  cases question with
  | http request =>
      obtain ⟨before, after, split⟩ := List.append_of_mem asked
      obtain ⟨held, -⟩ := held_before_external (Program.yields_run _ _ _)
      obtain ⟨stored, finds, holds⟩ := held before request reply after split
      exact ⟨before, request, reply, after, stored, split, finds, holds⟩
  | _ => cases external

end ServiceOperator
