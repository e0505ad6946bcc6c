import ServiceOperator.Kubernetes.Records
import ServiceOperator.Proofs.Json.MergePatch
import ServiceOperator.Proofs.Kubernetes.Requests

/-!
# The status that a patch stores

The status of a record is written as a merge patch and read back by the next pass.  What is not set
is written as `null`, which removes the stored value, and the list of conditions replaces the stored
list as a whole; so nothing of the stored status can show through (`patchStatus_stores`).

### What is read of a stored document

The document comes from the API server, so little can be taken for granted.  `Json.HoldsStatus` is
what the proof needs: there is at most one member for the status, and what stands there is `null` or
can be read as a status.  Nothing is said of other members, at either level, and a merge leaves them
where they are.
-/

namespace ServiceOperator

open Json (valuesOf)

/-! ## Conditions -/

/-- A condition is read as it was written. -/
theorem Condition.decode_encode (c : Condition) : Condition.decode c.encode = some c := by
  obtain ⟨type, status, reason, message, time⟩ := c
  cases reason <;> cases message <;> cases time <;> rfl

/-- A list of conditions is read as it was written. -/
theorem Condition.decode_list (cs : List Condition) :
    Json.Decode.list Condition.decode (.array (cs.map Condition.encode)) = some cs := by
  change Json.Decode.all _ _ = _
  induction cs with
  | nil => rfl
  | cons c cs ih =>
      rw [List.map_cons, Json.Decode.all, Condition.decode_encode, ih]

/-! ## The status -/

namespace ResourceStatus

/-- The numbers of a status fit the words in which they are kept. -/
structure Fits (s : ResourceStatus) : Prop where
  observed : ∀ g, s.observedGeneration = some g → -Word.bound 63 ≤ g ∧ g ≤ Word.bound 63 - 1
  failed : ∀ g, s.failedGeneration = some g → -Word.bound 63 ≤ g ∧ g ≤ Word.bound 63 - 1
  attempts : s.failedAttempts < Word.bound 32

variable {s : ResourceStatus} {ms target : List (String × Json)} {name : String} {v : Json}

/-- Each field of a status stands once among some members, or not at all if it is `null`. -/
def WrittenIn (s : ResourceStatus) (ms : List (String × Json)) : Prop :=
  ∀ m ∈ s.encode.members, valuesOf m.1 ms = Json.unlessNull m.2

theorem names_encode : s.encode.members.map Prod.fst = fieldNames := rfl

/-- The fields of a status are read off members in which it is written. -/
theorem WrittenIn.fields (written : s.WrittenIn ms) :
    Json.Fields.of? fieldNames (.object ms) = some (Json.firstOf ms) := by
  refine Json.Fields.ofMembers?_eq_some_iff.mpr ⟨?_, rfl⟩
  intro name known
  rw [← names_encode (s := s), List.mem_map] at known
  obtain ⟨m, member, rfl⟩ := known
  rw [written m member, Json.unlessNull]
  split <;> simp

/-- **A status is read as it was written**, whatever other members stand beside its fields. -/
theorem WrittenIn.decode_eq (written : s.WrittenIn ms) (fits : s.Fits) :
    decode (.object ms) = some s := by
  have fields := written.fields
  simp only [WrittenIn, encode, Json.members, List.forall_mem_cons] at written
  obtain ⟨conditions, state, id, observed, failed, started, deletion, source, attempts, -⟩ :=
    written
  have conditions := Json.Fields.defaulted_of_values [] conditions rfl
    (Condition.decode_list s.conditions)
  have state := Json.Fields.text_of_values state
  have id := Json.Fields.text_of_values id
  have observed := Json.Fields.int64_of_values observed fits.observed
  have failed := Json.Fields.int64_of_values failed fits.failed
  have started := Json.Fields.text_of_values started
  have deletion := Json.Fields.text_of_values deletion
  have source := Json.Fields.text_of_values source
  have attempts := Json.Fields.defaulted_of_values 0 attempts rfl
    (Json.Decode.nat32_ofNat fits.attempts)
  simp only [decode, fields, conditions, state, id, observed, failed, started, deletion, source,
    attempts, Option.bind_eq_bind, Option.bind_some]

/-- No field of a status is an object. -/
theorem encode_flat (ms : List (String × Json)) : ∀ m ∈ s.encode.members, m.2 ≠ .object ms := by
  have text (o : Option String) : Json.ofText? o ≠ .object ms := by
    cases o <;> exact Json.noConfusion
  have number (o : Option Int) : Json.ofOption .ofInt o ≠ .object ms := by
    cases o <;> exact Json.noConfusion
  simp only [encode, Json.members, List.forall_mem_cons]
  exact ⟨Json.noConfusion, text _, text _, number _, number _, text _, text _, text _,
    Json.noConfusion, by simp⟩

/-- A status that is merged into members with each of its fields at most once is written in what
results. -/
theorem writtenIn_mergeMembers (single : ∀ name ∈ fieldNames, (valuesOf name target).length ≤ 1) :
    s.WrittenIn (Json.mergeMembers target s.encode.members) := by
  rintro ⟨name, v⟩ member
  have distinct : (s.encode.members.map Prod.fst).Nodup := by
    rw [names_encode]
    decide
  have known : name ∈ fieldNames := by
    rw [← names_encode (s := s)]
    exact List.mem_map_of_mem (f := Prod.fst) member
  rw [Json.valuesOf_mergeMembers distinct member, Json.unlessNull]
  cases absent : v.isNull with
  | true =>
      rw [Json.mergedInto, absent]
      rfl
  | false =>
      have flat (ms : List (String × Json)) : v ≠ .object ms := encode_flat ms _ member
      exact Json.mergedInto_of_flat (single name known) flat absent

/-- **Nothing of a stored status shows through** one that is merged into it. -/
theorem decode_mergePatch {stored : Json} (fits : s.Fits)
    (readable : stored.isNull = true ∨ (decode stored).isSome = true) :
    decode (stored.mergePatch s.encode) = some s := by
  have single : ∀ name ∈ fieldNames, (valuesOf name stored.members).length ≤ 1 := by
    rcases readable with absent | readable
    · cases stored with
      | null => exact fun _ _ => Nat.zero_le 1
      | _ => cases absent
    · obtain ⟨old, read⟩ := Option.isSome_iff_exists.mp readable
      obtain ⟨f, fields, -⟩ := Option.bind_eq_some_iff.mp read
      exact Json.Fields.single_of_of? fields
  rw [encode, Json.mergePatch]
  exact (writtenIn_mergeMembers single).decode_eq fits

end ResourceStatus

/-! ## The record -/

/-- A document has at most one status, and one that can be read. -/
structure Json.HoldsStatus (doc : Json) : Prop where
  once : (valuesOf "status" doc.members).length ≤ 1
  readable : ∀ stored ∈ valuesOf "status" doc.members,
    stored.isNull = true ∨ (ResourceStatus.decode stored).isSome = true

namespace Record

variable {r : Record} {s : ResourceStatus} {doc : Json}

/-- All that is asked of Kubernetes to write a status is to merge it. -/
theorem patchStatus_asks : (r.patchStatus s).Asks fun q => ∀ request, q = .kube request →
    request.patch = some ⟨none, .object [("status", s.encode)]⟩ := by
  unfold patchStatus
  refine Action.Asks.bind (Kubernetes.patch_asks ?_ ?_) fun _ => Action.asks_pure
  · rintro path - _ ⟨⟩
    rfl
  · rintro _ ⟨⟩

/-- The status of a document into which one was merged. -/
theorem valuesOf_mergeStatus (holds : doc.HoldsStatus) (fits : s.Fits) :
    ∃ merged,
      valuesOf "status" (doc.mergePatch (.object [("status", s.encode)])).members = [merged] ∧
        ResourceStatus.decode merged = some s := by
  obtain ⟨once, readable⟩ := holds
  have distinct : ([("status", s.encode)].map Prod.fst).Nodup := by simp
  rw [Json.mergePatch, Json.members,
    Json.valuesOf_mergeMembers distinct (List.mem_singleton.mpr rfl)]
  -- There is no stored status, or there is one.
  cases values : valuesOf "status" doc.members with
  | nil => exact ⟨_, rfl, ResourceStatus.decode_mergePatch fits (.inl rfl)⟩
  | cons stored others =>
      rw [values] at once readable
      obtain rfl := List.length_eq_zero_iff.mp (Nat.le_zero.mp (Nat.le_of_succ_le_succ once))
      have readable := readable stored (List.mem_singleton.mpr rfl)
      exact ⟨_, rfl, ResourceStatus.decode_mergePatch fits readable⟩

/-- An optional status that was read is a status that can be read. -/
theorem readable_of_optional {ms : List (String × Json)} {status : Option ResourceStatus}
    (once : (valuesOf "status" ms).length ≤ 1)
    (read : (Json.firstOf ms).optional "status" ResourceStatus.decode = some status) :
    ∀ stored ∈ valuesOf "status" ms,
      stored.isNull = true ∨ (ResourceStatus.decode stored).isSome = true := by
  intro stored member
  have only : valuesOf "status" ms = [stored] := by
    match valuesOf "status" ms, once, member with
    | [_], _, member => rw [List.mem_singleton.mp member]
  rw [Json.Fields.optional_of_single only] at read
  cases absent : stored.isNull with
  | true => exact .inl rfl
  | false =>
      rw [Json.Decode.option_of_present absent, Option.map_eq_some_iff] at read
      obtain ⟨old, decoded, -⟩ := read
      rw [decoded]
      exact .inr rfl

/-- A record whose status was patched reads as before, with the new status. -/
theorem decode_mergeStatus {k : Kind} {ms : List (String × Json)}
    (read : Record.decode k (.object ms) = some r) (fits : s.Fits) :
    Record.decode k (Json.mergePatch (.object ms) (.object [("status", s.encode)])) =
      some { r with status := some s } := by
  obtain ⟨f, fields, read⟩ := Option.bind_eq_some_iff.mp read
  obtain ⟨single, rfl⟩ := Json.Fields.ofMembers?_eq_some_iff.mp fields
  obtain ⟨metadata, readMetadata, read⟩ := Option.bind_eq_some_iff.mp read
  obtain ⟨spec, readSpec, read⟩ := Option.bind_eq_some_iff.mp read
  obtain ⟨status, readStatus, read⟩ := Option.bind_eq_some_iff.mp read
  cases read
  have holds : Json.HoldsStatus (.object ms) :=
    ⟨single "status" (by simp), readable_of_optional (single "status" (by simp)) readStatus⟩
  obtain ⟨merged, only, decoded⟩ := valuesOf_mergeStatus holds fits
  rw [Json.mergePatch] at only ⊢
  -- The patch has no other member, so the other two fields are those of before.
  have same {name : String} (other : name ≠ "status") :
      valuesOf name (Json.mergeMembers ms [("status", s.encode)]) = valuesOf name ms :=
    Json.valuesOf_mergeMembers_of_not_mem (by simpa using other)
  change valuesOf "status" (Json.mergeMembers ms _) = _ at only
  change Record.decode k (.object (Json.mergeMembers ms _)) = _
  generalize Json.mergeMembers ms [("status", s.encode)] = patched at only same ⊢
  have fields : Json.Fields.of? ["metadata", "spec", "status"] (.object patched) =
      some (Json.firstOf patched) := by
    refine Json.Fields.ofMembers?_eq_some_iff.mpr ⟨?_, rfl⟩
    simp only [List.forall_mem_cons]
    rw [same (by decide), same (by decide), only]
    exact ⟨single _ (by simp), single _ (by simp), by simp, by simp⟩
  have metadata := (Json.Fields.required_congr (same (by decide))).trans readMetadata
  have spec := (Json.Fields.required_congr (same (by decide))).trans readSpec
  have status : (Json.firstOf patched).optional "status" ResourceStatus.decode = some (some s) := by
    have present : merged.isNull = false := by
      cases merged with
      | null => cases decoded
      | _ => rfl
    rw [Json.Fields.optional_of_single only, Json.Decode.option_of_present present, decoded]
    rfl
  rw [Record.decode, fields]
  simp only [metadata, spec, status, Option.bind_eq_bind, Option.bind_some]

/-- **A status that is patched is read back as it was written.**  Every request that is sent to
write a status merges it into the record.  Whatever status is stored there, as long as it can be
read, with whatever conditions and unknown members, and if there is none, reading the merged
document gives the new status, with every field and every condition. -/
theorem patchStatus_stores {t : Exchange} {result : Except OperatorError Unit} (fits : s.Fits)
    (yields : (r.patchStatus s).Yields t result) {request : KubeRequest} {reply : KubeReply}
    (sent : ⟨.kube request, reply⟩ ∈ t) :
    ∃ body, request.patch = some ⟨none, body⟩ ∧ ∀ doc : Json, doc.HoldsStatus →
      ((doc.mergePatch body).get? "status").bind ResourceStatus.decode = some s := by
  refine ⟨_, patchStatus_asks.of_mem yields _ sent request rfl, ?_⟩
  intro doc holds
  obtain ⟨merged, only, read⟩ := valuesOf_mergeStatus holds fits
  rw [Json.get?, Json.lastOf_eq_getLast?, only]
  exact read

end Record

/-! ## A status that is replaced -/

namespace Outdated

/-- The record whose status is written. -/
def record : Record where
  metadata := { Metadata.empty with name := some "orders", namespaceName := some "shop" }
  spec := .database ⟨"p", "s", none, none, none, none⟩
  status := none

/-- The new status, which knows no resource. -/
def status : ResourceStatus :=
  { ResourceStatus.initial with
    conditions := [⟨"Error", "False", some "Reconciled", none, none⟩]
    observedGeneration := some 2
    failedAttempts := 1 }

/-- The record as it is stored, with a resource, another condition and a member unheard of. -/
def document : Json :=
  .object [("status", .object [
    ("id", .string "old"),
    ("note", .object [("by", .null)]),
    ("conditions", .array [.object [("type", .string "Running"), ("status", .string "True")]])])]

/-- Peers that do not answer. -/
def silence : (q : Question) → q.Answer := Question.answerBy (fun _ => .lost) fun _ => .lost

/-- What is asked to write the status, with the answers. -/
def exchange : Exchange :=
  (record.patchStatus status).result.trace (fun q (_ : Unit) => (silence q, ())) ()

/-- A question for Kubernetes. -/
def isRequest : Question → Bool
  | .kube _ => true
  | _ => false

end Outdated

/-- The resource, the condition and the generation of the old status do not show through. -/
theorem patchStatus_stores_outdated : ∃ request reply body,
    ⟨.kube request, reply⟩ ∈ Outdated.exchange ∧ request.patch = some ⟨none, body⟩ ∧
      ((Outdated.document.mergePatch body).get? "status").bind ResourceStatus.decode =
        some Outdated.status := by
  have fits : Outdated.status.Fits := by
    refine ⟨?_, ?_, by decide⟩
    · rintro g ⟨⟩
      decide
    · rintro g ⟨⟩
  have holds : Outdated.document.HoldsStatus := by
    refine ⟨by decide, ?_⟩
    intro stored member
    obtain rfl := List.mem_singleton.mp member
    exact .inr rfl
  obtain ⟨⟨question, reply⟩, sent, isRequest⟩ :
      ∃ entry ∈ Outdated.exchange, Outdated.isRequest entry.1 = true :=
    List.any_eq_true.mp (by decide +kernel)
  cases question with
  | kube request =>
      obtain ⟨body, patches, stores⟩ :=
        Record.patchStatus_stores fits (Program.yields_run _ _ _) sent
      exact ⟨request, reply, body, sent, patches, stores _ holds⟩
  | _ => cases isRequest

end ServiceOperator
