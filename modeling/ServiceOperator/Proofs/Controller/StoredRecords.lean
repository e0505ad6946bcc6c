import ServiceOperator.Proofs.Controller.ForeignFinalizers
import ServiceOperator.Proofs.Pass.Entries
import ServiceOperator.Proofs.Record.RoundTrip

/-!
# The record in a stored document

A cluster stores the document of a record, and what the operator writes is merged into it: the
status as a whole, some annotations, or the finalizers.  `Record.StoredAs` says which record a
stored document is the document of, and each of the three patches turns the document of one record
into the document of another, which differs in what was written and in nothing else
(`Record.StoredAs.mergeStatus`, `.mergeAnnotations`, `.mergeFinalizers`).

Annotations are merged one by one: those that a patch names get its values, and all others stay,
also those that the patch might have meant to go.

A reader takes the last of several members of one name and a patch replaces the first of them, so
all this takes a document that holds no name twice (`Json.Distinct`), as a store of documents does.

### Why names are kept apart

The three patches are merged by `Json.mergePatch`, which works on names and not on records, and the
way back is `Record.decode`.  Between the two stand `Json.valuesOf`, the values of one name, and the
fact that each field is read off the values of its own name (`Fields.required_congr` and its
siblings).  So a patch of one name can be seen to leave all other fields alone, and the fields of a
merged document are gone through one by one in `decode_of_same` and `StoredAs.mergeMetadata` only.
-/

namespace ServiceOperator

open Json (valuesOf firstOf)

/-! ## Maps -/

namespace StringMap

variable {α : Type}

theorem keys_encode (m : StringMap α) (encode : α → Json) :
    (m.encode encode).members.map Prod.fst = m.toList.map Prod.fst := by
  simp [StringMap.encode, Json.members]

theorem nodup_keys (m : StringMap α) (encode : α → Json) :
    ((m.encode encode).members.map Prod.fst).Nodup := by
  rw [keys_encode]
  exact List.pairwise_map.mpr (m.ascending.imp fun before => String.ne_of_lt before)

end StringMap

namespace Json

variable {α : Type} {d : Decoder α} {key name : String} {v : Json} {ms patch : List (String × Json)}

/-! ## Members of distinct names -/

/-- Members no two of which have one name. -/
def Distinct (ms : List (String × Json)) : Prop := ∀ name, (valuesOf name ms).length ≤ 1

theorem mem_valuesOf : v ∈ valuesOf name ms ↔ (name, v) ∈ ms := by
  simp [valuesOf]

theorem distinct_nil : Distinct [] := fun _ => Nat.zero_le 1

/-- A member in front keeps names apart if its name stands nowhere behind. -/
theorem distinct_cons :
    Distinct ((name, v) :: ms) ↔ valuesOf name ms = [] ∧ Distinct ms := by
  constructor
  · intro distinct
    have single := distinct name
    rw [valuesOf_cons_self, List.length_cons] at single
    refine ⟨List.length_eq_zero_iff.mp (by omega), fun other => ?_⟩
    by_cases same : name = other
    · subst same
      omega
    · exact valuesOf_cons_of_ne same ▸ distinct other
  · rintro ⟨missing, distinct⟩ other
    by_cases same : name = other
    · subst same
      rw [valuesOf_cons_self, missing]
      exact Nat.le_refl 1
    · rw [valuesOf_cons_of_ne same]
      exact distinct other

theorem valuesOf_eq_nil_iff : valuesOf name ms = [] ↔ name ∉ ms.map Prod.fst := by
  simp [List.eq_nil_iff_forall_not_mem, mem_valuesOf]

/-- Members are distinct exactly if no name is listed twice. -/
theorem nodup_iff_distinct : (ms.map Prod.fst).Nodup ↔ Distinct ms := by
  induction ms with
  | nil => exact iff_of_true List.nodup_nil distinct_nil
  | cons m ms ih => rw [List.map_cons, List.nodup_cons, distinct_cons, ih, valuesOf_eq_nil_iff]

instance (ms : List (String × Json)) : Decidable (Distinct ms) :=
  decidable_of_iff _ nodup_iff_distinct

/-- What has members is an object. -/
theorem eq_object_of_members {j : Json} (holds : j.members ≠ []) : j = .object j.members := by
  cases j with
  | object ms => rfl
  | _ => exact absurd rfl holds

/-- One value at most stays one value at most when another is merged into it. -/
theorem length_mergedInto_le {old : List Json} (single : old.length ≤ 1) :
    (mergedInto old v).length ≤ 1 := by
  unfold mergedInto
  split
  · exact Nat.zero_le 1
  · rw [List.length_cons, List.length_tail]
    omega

/-- A patch keeps names apart. -/
theorem Distinct.mergeMembers (distinct : Distinct ms) (once : (patch.map Prod.fst).Nodup) :
    Distinct (mergeMembers ms patch) := by
  intro name
  by_cases named : name ∈ patch.map Prod.fst
  · obtain ⟨m, member, rfl⟩ := List.mem_map.mp named
    rw [valuesOf_mergeMembers once member]
    exact length_mergedInto_le (distinct m.1)
  · rw [valuesOf_mergeMembers_of_not_mem named]
    exact distinct name

/-! ## Maps in documents -/

/-- The values of an object are read together exactly if each of them can be read. -/
theorem exists_allMembers_iff :
    (∃ l, Decode.allMembers d ms = some l) ↔ ∀ m ∈ ms, ∃ a, d m.2 = some a := by
  induction ms with
  | nil => simp [Decode.allMembers]
  | cons m ms ih =>
      obtain ⟨k, j⟩ := m
      rw [List.forall_mem_cons, ← ih, Decode.allMembers]
      cases d j <;> cases Decode.allMembers d ms <;> simp

/-- What a map holds that was filled from members of distinct names: the value that stands at the
key, or what it held before. -/
theorem get?_foldl_insert {l : List (String × α)} (read : Decode.allMembers d ms = some l)
    (distinct : Distinct ms) (m : StringMap α) :
    (l.foldl (fun m e => m.insert e.1 e.2) m).get? name =
      ((valuesOf name ms).head?.bind d).or (m.get? name) := by
  induction ms generalizing l m with
  | nil =>
      cases read
      rfl
  | cons e ms ih =>
      obtain ⟨k, j⟩ := e
      rw [Decode.allMembers] at read
      split at read
      case h_2 => cases read
      case h_1 a as readFirst readRest =>
        cases read
        obtain ⟨missing, distinctRest⟩ := distinct_cons.mp distinct
        rw [List.foldl_cons, ih readRest distinctRest, StringMap.get?_insert]
        by_cases same : k = name
        · subst same
          simp [missing, readFirst]
        · rw [valuesOf_cons_of_ne same, if_neg (Ne.symm same)]

/-- A map that was read holds for each key the value that stands there. -/
theorem Decode.get?_map {m : StringMap α} (read : Decode.map d (.object ms) = some m)
    (distinct : Distinct ms) : m.get? name = (valuesOf name ms).head?.bind d := by
  obtain ⟨l, readAll, rfl⟩ := Option.map_eq_some_iff.mp read
  rw [StringMap.ofList, get?_foldl_insert readAll distinct]
  exact Option.or_none

/-- What the members of a map hold that is merged into others. -/
theorem valuesOf_mergeMap {m : StringMap String} (distinct : Distinct ms) :
    valuesOf name (mergeMembers ms (m.encode .string).members) =
      match m.get? name with
      | some text => [.string text]
      | none => valuesOf name ms := by
  split
  case h_1 text found =>
    have member : (name, .string text) ∈ (m.encode .string).members :=
      List.mem_map_of_mem (f := fun e => (e.1, Json.string e.2)) (StringMap.mem_of_get? found)
    rw [valuesOf_mergeMembers (m.nodup_keys _) member]
    exact mergedInto_of_flat (distinct name) (fun _ => Json.noConfusion) rfl
  case h_2 missing =>
    exact valuesOf_mergeMembers_of_not_mem (m.keys_encode _ ▸ StringMap.not_mem_of_get? missing)

/-- **Texts are merged key by key**: those that are merged count, and all others stay. -/
theorem Decode.map_mergeMembers {m old : StringMap String}
    (read : Decode.map Decode.text (.object ms) = some old) (distinct : Distinct ms) :
    ∃ new, Decode.map Decode.text (.object (mergeMembers ms (m.encode .string).members)) =
        some new ∧ ∀ name, new.get? name = (m.get? name).or (old.get? name) := by
  obtain ⟨l, readAll, -⟩ := Option.map_eq_some_iff.mp read
  have readable := exists_allMembers_iff.mp ⟨l, readAll⟩
  obtain ⟨l', readMerged⟩ : ∃ l', Decode.allMembers Decode.text
      (mergeMembers ms (m.encode .string).members) = some l' := by
    refine exists_allMembers_iff.mpr ?_
    rintro ⟨name, v⟩ member
    have value := mem_valuesOf.mpr member
    rw [valuesOf_mergeMap distinct] at value
    split at value
    · rw [List.mem_singleton.mp value]
      exact ⟨_, rfl⟩
    · exact readable _ (mem_valuesOf.mp value)
  have readNew : Decode.map Decode.text (.object (mergeMembers ms (m.encode .string).members)) =
      some (StringMap.ofList l') := by
    rw [Decode.map, readMerged, Option.map_some]
  refine ⟨_, readNew, fun name => ?_⟩
  rw [Decode.get?_map readNew (distinct.mergeMembers (m.nodup_keys _)),
    Decode.get?_map read distinct, valuesOf_mergeMap distinct]
  cases m.get? name <;> rfl

end Json

/-! ## Fields -/

namespace Json.Fields

variable {α : Type} {d : Json.Decoder α} {name : String} {v : Json}
  {ms other : List (String × Json)}

theorem required_of_single (only : valuesOf name ms = [v]) :
    (firstOf ms).required name d = d v := by
  have value : (firstOf ms).value name = some v := congrArg List.head? only
  rw [required, value]
  rfl

/-- An optional field depends on its own values alone. -/
theorem optional_congr (same : valuesOf name ms = valuesOf name other) :
    (firstOf ms).optional name d = (firstOf other).optional name d := by
  have value : (firstOf ms).value name = (firstOf other).value name := congrArg List.head? same
  rw [optional, value]
  rfl

/-- An object may leave out what is optional. -/
theorem optional_firstOf : (firstOf ms).optional name d = (firstOf ms).unset name d := by
  rw [optional, unset, defaulted]
  cases (firstOf ms).value name <;> rfl

end Json.Fields

/-! ## Metadata -/

namespace Metadata

variable {α : Type} {d : Json.Decoder α} {key : String} {v : Json} {m : Metadata} {o : Option α}
  {ms patched : List (String × Json)}

/-- A member of metadata is read off its values in order, the last one counting. -/
theorem member_eq_foldlM : member ms key d =
    (valuesOf key ms).foldlM (fun _ v => Json.Decode.option d v) none := by
  rw [member, valuesOf, List.foldlM_map]
  congr 2

/-- A member depends on its own values alone. -/
theorem member_congr (same : valuesOf key patched = valuesOf key ms) :
    member patched key d = member ms key d := by
  rw [member_eq_foldlM, member_eq_foldlM, same]

theorem member_of_single (only : valuesOf key ms = [v]) :
    member ms key d = Json.Decode.option d v := by
  rw [member_eq_foldlM, only]
  exact bind_pure _

/-- What is read of a member, its reader yields. -/
theorem member_yields {P : α → Prop} (yields : ∀ {j a}, d j = some a → P a)
    (read : member ms key d = some o) : ∀ a, o = some a → P a := by
  have reads {j : Json} (read : Json.Decode.option d j = some o) : ∀ a, o = some a → P a := by
    rintro a rfl
    cases absent : j.isNull with
    | true =>
        cases j with
        | null => cases read
        | _ => cases absent
    | false =>
        rw [Json.Decode.option_of_present absent, Option.map_eq_some_iff] at read
        obtain ⟨b, read, same⟩ := read
        exact Option.some.inj same ▸ yields read
  -- The last of the members is the one that is read.
  rw [member_eq_foldlM] at read
  rcases List.eq_nil_or_concat (valuesOf key ms) with none | ⟨earlier, last, split⟩
  · rw [none] at read
    rintro a rfl
    cases read
  · rw [split, List.concat_eq_append, List.foldlM_append] at read
    simp only [List.foldlM_cons, List.foldlM_nil, bind_pure] at read
    obtain ⟨before, -, read⟩ := Option.bind_eq_some_iff.mp read
    exact reads read

/-- A member that is checked is one that can be read. -/
theorem checked_eq_some_iff {u : Unit} : checked key d ms = some u ↔ (member ms key d).isSome := by
  cases u
  simp [checked, Option.isSome_iff_exists]

/-- Metadata is read member by member. -/
theorem decode_eq_some_iff : decode (.object ms) = some m ↔
    ((member ms "creationTimestamp" instant).isSome ∧
      (member ms "deletionGracePeriodSeconds" Json.Decode.int64).isSome ∧
      (member ms "labels" (Json.Decode.map Json.Decode.text)).isSome ∧
      (member ms "managedFields" (Json.Decode.list managedFields)).isSome ∧
      (member ms "ownerReferences" (Json.Decode.list owner)).isSome ∧
      (member ms "resourceVersion" Json.Decode.text).isSome ∧
      (member ms "selfLink" Json.Decode.text).isSome) ∧
    member ms "name" Json.Decode.text = some m.name ∧
    member ms "generateName" Json.Decode.text = some m.generateName ∧
    member ms "namespace" Json.Decode.text = some m.namespaceName ∧
    member ms "uid" Json.Decode.text = some m.uid ∧
    member ms "generation" Json.Decode.int64 = some m.generation ∧
    (member ms "deletionTimestamp" instant).map Option.isSome = some m.deletionRequested ∧
    member ms "finalizers" (Json.Decode.list Json.Decode.text) = some m.finalizers ∧
    member ms "annotations" (Json.Decode.map Json.Decode.text) = some m.annotations := by
  obtain ⟨name, start, ns, uid, generation, deletion, finalizers, annotations⟩ := m
  simp only [decode, Option.bind_eq_bind, Option.bind_eq_some_iff, Option.some_inj,
    checked_eq_some_iff, exists_const, mk.injEq, Option.map_eq_some_iff]
  constructor
  · rintro ⟨created, period, labels, managers, owners, version, link, _, name, _, start, _, ns, _,
      uid, _, generation, _, deletion, _, finalizers, _, annotations, rfl, rfl, rfl, rfl, rfl, rfl,
      rfl, rfl⟩
    exact ⟨⟨created, period, labels, managers, owners, version, link⟩, name, start, ns, uid,
      generation, ⟨_, deletion, rfl⟩, finalizers, annotations⟩
  · rintro ⟨⟨created, period, labels, managers, owners, version, link⟩, name, start, ns, uid,
      generation, ⟨_, deletion, rfl⟩, finalizers, annotations⟩
    exact ⟨created, period, labels, managers, owners, version, link, _, name, _, start, _, ns, _,
      uid, _, generation, _, deletion, _, finalizers, _, annotations, rfl, rfl, rfl, rfl, rfl, rfl,
      rfl, rfl⟩

/-- Members of metadata, as they were read. -/
theorem decode_members (read : decode (.object ms) = some m) :
    member ms "generation" Json.Decode.int64 = some m.generation ∧
      member ms "finalizers" (Json.Decode.list Json.Decode.text) = some m.finalizers ∧
      member ms "annotations" (Json.Decode.map Json.Decode.text) = some m.annotations := by
  obtain ⟨-, -, -, -, -, generation, -, finalizers, annotations⟩ := decode_eq_some_iff.mp read
  exact ⟨generation, finalizers, annotations⟩

/-- Annotations are merged into those of the metadata, or into none. -/
theorem annotations_merge {old : Option (StringMap String)} (annotations : StringMap String)
    (read : member ms "annotations" (Json.Decode.map Json.Decode.text) = some old)
    (single : (valuesOf "annotations" ms).length ≤ 1)
    (distinct : ∀ held ∈ valuesOf "annotations" ms, Json.Distinct held.members) :
    ∃ held, valuesOf "annotations"
          (Json.mergeMembers ms [("annotations", annotations.encode .string)]) =
        [.object (Json.mergeMembers held (annotations.encode .string).members)] ∧
      Json.Decode.map Json.Decode.text (.object held) = some (old.getD .empty) ∧
      Json.Distinct held := by
  rw [Json.valuesOf_mergeMembers (by simp) (List.mem_singleton_self _)]
  -- What is merged into is an object, or missing, or `null`, which a merge takes for an empty
  -- object.
  cases values : valuesOf "annotations" ms with
  | nil =>
      rw [member_eq_foldlM, values] at read
      cases read
      exact ⟨[], rfl, rfl, Json.distinct_nil⟩
  | cons v others =>
      rw [values] at single distinct
      obtain rfl := List.length_eq_zero_iff.mp (Nat.le_zero.mp (Nat.le_of_succ_le_succ single))
      rw [member_of_single values] at read
      have distinct := distinct v (List.mem_singleton_self v)
      cases v with
      | null =>
          cases read
          exact ⟨[], rfl, rfl, Json.distinct_nil⟩
      | object held =>
          rw [Json.Decode.option_of_present rfl] at read
          obtain ⟨m, readMap, rfl⟩ := Option.map_eq_some_iff.mp read
          exact ⟨held, rfl, readMap, distinct⟩
      | _ => cases read

/-- Metadata in which the finalizers and the annotations were changed. -/
theorem decode_of_same {finalizers : Option (List String)}
    {annotations : Option (StringMap String)} (read : decode (.object ms) = some m)
    (same : ∀ key, key ≠ "finalizers" → key ≠ "annotations" →
      valuesOf key patched = valuesOf key ms)
    (readFinalizers : member patched "finalizers" (Json.Decode.list Json.Decode.text) =
      some finalizers)
    (readAnnotations : member patched "annotations" (Json.Decode.map Json.Decode.text) =
      some annotations) :
    decode (.object patched) =
      some { m with finalizers := finalizers, annotations := annotations } := by
  have kept {β : Type} (key : String) (d : Json.Decoder β) (first : key ≠ "finalizers")
      (second : key ≠ "annotations") : member patched key d = member ms key d :=
    member_congr (same key first second)
  obtain ⟨passes, name, start, ns, uid, generation, deletion, -, -⟩ := decode_eq_some_iff.mp read
  refine decode_eq_some_iff.mpr ⟨?_, ?_, ?_, ?_, ?_, ?_, ?_, readFinalizers, readAnnotations⟩
  all_goals simpa (disch := decide) only [kept]

end Metadata

/-! ## Records -/

/-- The value of an annotation. -/
def Record.annotationAt? (r : Record) (name : String) : Option String :=
  (r.metadata.annotations.getD .empty).get? name

/-- A merge patch that writes annotations. -/
def annotationsPatch (annotations : StringMap String) : Json :=
  .object [("metadata", .object [("annotations", annotations.encode .string)])]

/-- A merge patch that writes a status. -/
def statusPatch (s : ResourceStatus) : Json := .object [("status", s.encode)]

/-- A document is that of a record, and holds no name twice where annotations are kept. -/
structure Record.StoredAs (r : Record) (doc : Json) : Prop where
  object : doc = .object doc.members
  reads : Record.decode r.kind doc = some r
  distinct : ∀ metadata ∈ valuesOf "metadata" doc.members, Json.Distinct metadata.members ∧
    ∀ annotations ∈ valuesOf "annotations" metadata.members, Json.Distinct annotations.members

namespace Record

variable {k : Kind} {r : Record} {s : ResourceStatus} {m : Metadata} {doc : Json}
  {ms patch top : List (String × Json)}

/-- A record is read field by field. -/
theorem decode_eq_some_iff : Record.decode k (.object top) = some r ↔
    (∀ name ∈ ["metadata", "spec", "status"], (valuesOf name top).length ≤ 1) ∧
      (firstOf top).required "metadata" Metadata.decode = some r.metadata ∧
      (firstOf top).required "spec" (Spec.decode k) = some r.spec ∧
      (firstOf top).optional "status" ResourceStatus.decode = some r.status := by
  obtain ⟨metadata, spec, status⟩ := r
  simp only [Record.decode, Json.Fields.of?, Option.bind_eq_bind, Option.bind_eq_some_iff,
    Json.Fields.ofMembers?_eq_some_iff, Option.some_inj, mk.injEq]
  constructor
  · rintro ⟨_, ⟨single, rfl⟩, _, readMetadata, _, readSpec, _, readStatus, rfl, rfl, rfl⟩
    exact ⟨single, readMetadata, readSpec, readStatus⟩
  · rintro ⟨single, readMetadata, readSpec, readStatus⟩
    exact ⟨_, ⟨single, rfl⟩, _, readMetadata, _, readSpec, _, readStatus, rfl, rfl, rfl⟩

/-- A record that was read is of the kind that was asked for. -/
theorem kind_of_decode (read : Record.decode k doc = some r) : r.kind = k := by
  obtain ⟨f, -, read⟩ := Option.bind_eq_some_iff.mp read
  obtain ⟨metadata, -, read⟩ := Option.bind_eq_some_iff.mp read
  obtain ⟨spec, readSpec, read⟩ := Option.bind_eq_some_iff.mp read
  obtain ⟨status, -, read⟩ := Option.bind_eq_some_iff.mp read
  cases read
  exact (Json.Fields.required_yields Spec.of_decode readSpec).1

namespace StoredAs

variable (stored : r.StoredAs doc)
include stored

theorem read : Record.decode r.kind (.object doc.members) = some r :=
  stored.object ▸ stored.reads

/-- The metadata of a record is one object. -/
theorem metadata : ∃ ms, valuesOf "metadata" doc.members = [.object ms] ∧
    Metadata.decode (.object ms) = some r.metadata ∧ Json.Distinct ms ∧
    ∀ annotations ∈ valuesOf "annotations" ms, Json.Distinct annotations.members := by
  obtain ⟨single, read, -, -⟩ := decode_eq_some_iff.mp stored.read
  obtain ⟨v, first, read⟩ := Option.bind_eq_some_iff.mp read
  have only : valuesOf "metadata" doc.members = [v] := by
    have single := single "metadata" (by simp)
    change (valuesOf "metadata" doc.members).head? = some v at first
    obtain ⟨others, split⟩ := List.head?_eq_some_iff.mp first
    rw [split] at single ⊢
    rw [List.length_eq_zero_iff.mp (Nat.le_zero.mp (Nat.le_of_succ_le_succ single))]
  obtain ⟨distinct, inner⟩ := stored.distinct v (only ▸ List.mem_singleton_self v)
  cases v with
  | object ms => exact ⟨ms, only, read, distinct, inner⟩
  | _ => cases read

/-- The numbers of a stored status fit their words. -/
theorem fits : r.currentStatus.Fits := by
  obtain ⟨-, -, -, read⟩ := decode_eq_some_iff.mp stored.read
  rw [Json.Fields.optional_firstOf] at read
  have fits := Json.Fields.unset_yields ResourceStatus.fits_of_decode read
  cases set : r.status with
  | none =>
      rw [currentStatus, set]
      exact ⟨fun _ => nofun, fun _ => nofun, Pass.no_failures_fit⟩
  | some s =>
      rw [currentStatus, set]
      exact fits s set

/-- The generation of a stored record fits its word. -/
theorem generation_fits : -Word.bound 63 ≤ r.subject.generation ∧
    r.subject.generation ≤ Word.bound 63 - 1 := by
  obtain ⟨ms, -, read, -⟩ := stored.metadata
  obtain ⟨read, -, -⟩ := Metadata.decode_members read
  have fits := Metadata.member_yields Json.Decode.int64_yields read
  cases set : r.metadata.generation with
  | none =>
      have unset : r.subject.generation = 0 := by rw [subject, set, Option.getD_none]
      rw [unset]
      decide
  | some g =>
      rw [subject, set]
      exact fits g set

/-- **A status that is merged is the status of the record**, and nothing else changes. -/
theorem mergeStatus (fits : s.Fits) :
    { r with status := some s }.StoredAs (doc.mergePatch (statusPatch s)) := by
  have apart : valuesOf "metadata" (Json.mergeMembers doc.members [("status", s.encode)]) =
      valuesOf "metadata" doc.members := Json.valuesOf_mergeMembers_of_not_mem (by simp)
  rw [statusPatch, Json.mergePatch]
  refine ⟨rfl, ?_, ?_⟩
  · exact decode_mergeStatus stored.read fits
  · rw [Json.members, apart]
    exact stored.distinct

/-- Members that are merged into the metadata change the metadata, and nothing else. -/
theorem mergeMetadata (held : valuesOf "metadata" doc.members = [.object ms])
    (read : Metadata.decode (.object (Json.mergeMembers ms patch)) = some m)
    (distinct : Json.Distinct (Json.mergeMembers ms patch))
    (inner : ∀ annotations ∈ valuesOf "annotations" (Json.mergeMembers ms patch),
      Json.Distinct annotations.members) :
    { r with metadata := m }.StoredAs
      (doc.mergePatch (.object [("metadata", .object patch)])) := by
  obtain ⟨single, -, readSpec, readStatus⟩ := decode_eq_some_iff.mp stored.read
  have merged : valuesOf "metadata"
      (Json.mergeMembers doc.members [("metadata", .object patch)]) =
        [.object (Json.mergeMembers ms patch)] := by
    rw [Json.valuesOf_mergeMembers (by simp) (List.mem_singleton_self _), held, Json.mergedInto]
    simp [Json.isNull, Json.mergePatch, Json.members]
  have same {name : String} (other : name ≠ "metadata") :
      valuesOf name (Json.mergeMembers doc.members [("metadata", .object patch)]) =
        valuesOf name doc.members := Json.valuesOf_mergeMembers_of_not_mem (by simpa using other)
  rw [Json.mergePatch]
  refine ⟨rfl, decode_eq_some_iff.mpr ⟨?_, ?_, ?_, ?_⟩, ?_⟩
  · simp only [List.forall_mem_cons]
    rw [merged, same (by decide), same (by decide)]
    exact ⟨Nat.le_refl 1, single _ (by simp), single _ (by simp), by simp⟩
  · rw [Json.Fields.required_of_single merged]
    exact read
  · exact (Json.Fields.required_congr (same (by decide))).trans readSpec
  · rw [Json.Fields.optional_congr (same (by decide))]
    exact readStatus
  · rw [Json.members, merged]
    exact List.forall_mem_singleton.mpr ⟨distinct, inner⟩

/-- **Annotations that are merged into a record count, and all others stay**, and nothing else
changes. -/
theorem mergeAnnotations (annotations : StringMap String) : ∃ new : StringMap String,
    { r with metadata := { r.metadata with annotations := some new } }.StoredAs
        (doc.mergePatch (annotationsPatch annotations)) ∧
      ∀ name, new.get? name = (annotations.get? name).or (r.annotationAt? name) := by
  obtain ⟨ms, held, read, distinct, inner⟩ := stored.metadata
  obtain ⟨-, readFinalizers, readAnnotations⟩ := Metadata.decode_members read
  obtain ⟨old, merged, readOld, distinctOld⟩ :=
    Metadata.annotations_merge annotations readAnnotations (distinct _) inner
  obtain ⟨new, readNew, get⟩ := Json.Decode.map_mergeMembers readOld distinctOld
  have same {key : String} (other : key ≠ "annotations") :
      valuesOf key (Json.mergeMembers ms [("annotations", annotations.encode .string)]) =
        valuesOf key ms := Json.valuesOf_mergeMembers_of_not_mem (by simpa using other)
  refine ⟨new, stored.mergeMetadata held ?_ (distinct.mergeMembers (by simp)) ?_, get⟩
  · refine Metadata.decode_of_same read (fun key _ other => same other) ?_ ?_
    · exact (Metadata.member_congr (same (by decide))).trans readFinalizers
    · rw [Metadata.member_of_single merged, Json.Decode.option_of_present rfl, readNew]
      rfl
  · rw [merged]
    exact List.forall_mem_singleton.mpr (distinctOld.mergeMembers (annotations.nodup_keys _))

/-- **Finalizers that are merged are the finalizers of the record**, and nothing else changes. -/
theorem mergeFinalizers (finalizers : List String) :
    { r with metadata := { r.metadata with finalizers := some finalizers } }.StoredAs
      (doc.mergePatch (finalizersPatch finalizers)) := by
  obtain ⟨ms, held, read, distinct, inner⟩ := stored.metadata
  obtain ⟨-, -, readAnnotations⟩ := Metadata.decode_members read
  have same {key : String} (other : key ≠ "finalizers") :
      valuesOf key (Json.mergeMembers ms [("finalizers", .array (finalizers.map .string))]) =
        valuesOf key ms := Json.valuesOf_mergeMembers_of_not_mem (by simpa using other)
  have merged : valuesOf "finalizers"
      (Json.mergeMembers ms [("finalizers", .array (finalizers.map .string))]) =
        [.array (finalizers.map .string)] := by
    rw [Json.valuesOf_mergeMembers (by simp) (List.mem_singleton_self _)]
    exact Json.mergedInto_of_flat (distinct _) (fun _ => Json.noConfusion) rfl
  have reads : Json.Reads (Json.Decode.list Json.Decode.text)
      (fun finalizers => .array (finalizers.map .string)) finalizers :=
    Json.reads_list fun _ _ => rfl
  refine stored.mergeMetadata held ?_ (distinct.mergeMembers (by simp)) ?_
  · refine Metadata.decode_of_same read (fun key other _ => same other) ?_ ?_
    · rw [Metadata.member_of_single merged, Json.Decode.option_of_present rfl, reads.same]
      rfl
    · exact (Metadata.member_congr (same (by decide))).trans readAnnotations
  · rw [same (by decide)]
    exact inner

end StoredAs

end Record

end ServiceOperator
