import ServiceOperator.Proofs.Controller.FinalizerFirst
import ServiceOperator.Proofs.Json.MergePatch

/-!
# The finalizers of others

A record may carry finalizers of others beside the one of its reconcile, and all who hold on to a
record write the same list.  A reconcile reads the list with its record, adds its finalizer or takes
it away, and writes the whole list back with a merge patch, which replaces what is stored by then.
What the others have done in the meantime is undone: a finalizer that was added is lost, and one
that was taken away comes back (`foreign_finalizers_asRead`).

`Deed` is what happens to a stored record, one thing after another: requests of the reconcile, and
edits by others anywhere in between.

### Where the edits come in

Nothing is assumed about the others.  A history is any list of deeds whose own ones are the exchange
of the reconcile, in order, and a foreign deed leaves any document it likes.  `RacedWrite` cuts such
a history at the reading of the record and at a patch that writes finalizers.  What was read decides
what is written (`Record.nextFinalizers?`), and nothing that happens in between has a part in it:
the patch has no resource version that would refuse it.
-/

namespace ServiceOperator

open Json (valuesOf)

/-! ## Finalizers in a document -/

/-- The finalizers of a record in the document that is stored of it. -/
def Json.finalizers (doc : Json) : List String :=
  match (doc.members.lookup "metadata").bind fun metadata =>
      metadata.members.lookup "finalizers" with
  | some finalizers => finalizers.items.filterMap Json.text?
  | none => []

/-- A merge patch that writes finalizers. -/
def finalizersPatch (finalizers : List String) : Json :=
  .object [("metadata", .object [("finalizers", .array (finalizers.map .string))])]

/-- The finalizers without the one of the reconcile, in order. -/
def foreignFinalizers (finalizers : List String) : List String :=
  finalizers.filter fun f => f ≠ resourceFinalizer

namespace Json

/-- A member that is patched is found first. -/
theorem lookup_mergePatch {doc v : Json} {name : String} (present : v.isNull = false) :
    (doc.mergePatch (.object [(name, v)])).members.lookup name =
      some (((valuesOf name doc.members).getLast?.getD .null).mergePatch v) := by
  have distinct : ([(name, v)].map Prod.fst).Nodup := by simp
  rw [mergePatch, members, lookup_eq_head?,
    valuesOf_mergeMembers distinct (List.mem_singleton.mpr rfl), mergedInto,
    if_neg (Bool.eq_false_iff.mp present), List.head?_cons]

/-- **Finalizers that are patched replace those that are stored**, whatever those are. -/
theorem finalizers_mergePatch (doc : Json) (finalizers : List String) :
    (doc.mergePatch (finalizersPatch finalizers)).finalizers = finalizers := by
  have flat : ∀ ms, Json.array (finalizers.map .string) ≠ .object ms := fun _ => nofun
  unfold Json.finalizers finalizersPatch
  rw [lookup_mergePatch rfl, Option.bind_some, lookup_mergePatch rfl, mergePatch_of_flat flat]
  change (finalizers.map Json.string).filterMap Json.text? = finalizers
  rw [List.filterMap_map]
  exact List.filterMap_some

end Json

/-! ## What a reconcile writes -/

namespace Record

variable {base : Url} {r stored : Record} {settings : Settings} {t : Exchange}
  {result : Except OperatorError ControllerAction} {finalizers : List String}

/-- The finalizers that a reconcile writes of a record as it was read, unless they are as they
should be. -/
def nextFinalizers? (r : Record) : Option (List String) :=
  if r.metadata.deletionRequested then r.finalizersWithout? resourceFinalizer
  else r.finalizersWith? resourceFinalizer

/-- **What is written keeps the finalizers of others as they were read**, and has the own one
exactly if the record is not being deleted. -/
theorem foreign_nextFinalizers? (next : r.nextFinalizers? = some finalizers) :
    foreignFinalizers finalizers = foreignFinalizers (r.metadata.finalizers.getD []) ∧
      (resourceFinalizer ∈ finalizers ↔ r.metadata.deletionRequested = false) := by
  unfold nextFinalizers? at next
  split at next
  case isTrue deleting =>
    unfold finalizersWithout? at next
    split at next
    · cases next
      simp [foreignFinalizers, deleting]
    · cases next
  case isFalse alive =>
    unfold finalizersWith? at next
    split at next
    · cases next
    · cases next
      simp [foreignFinalizers, List.filter_append, alive]

/-- A question writes no finalizers, or those that follow from a record as it was read. -/
def WritesNext (r : Record) (q : Question) : Prop :=
  ∀ path p, q = .kube ⟨path, some p⟩ → p.finalizers? ≠ none →
    ∃ finalizers, r.nextFinalizers? = some finalizers ∧ p = ⟨none, finalizersPatch finalizers⟩

theorem permits_writesNext : Permits r.WritesNext where
  http _ := nofun
  read _ := nofun
  patience _ := nofun
  count _ := nofun

theorem patchFinalizers_writesNext (next : r.nextFinalizers? = some finalizers) :
    (r.patchFinalizers finalizers).Asks r.WritesNext := by
  refine Action.Asks.bind (Kubernetes.patch_asks ?_ nofun) fun _ => Action.asks_pure
  rintro _ _ _ _ ⟨⟩ -
  exact ⟨finalizers, next, rfl⟩

/-- To ensure the finalizer of a living record writes what follows from it. -/
theorem ensureFinalizer_writesNext (alive : r.metadata.deletionRequested = false) :
    (r.ensureFinalizer resourceFinalizer).Asks r.WritesNext := by
  unfold ensureFinalizer
  split
  case h_1 finalizers next =>
    refine patchFinalizers_writesNext ?_
    rw [nextFinalizers?, alive]
    exact next
  case h_2 => exact Action.asks_pure

/-- To remove the finalizer of a record that is being deleted writes what follows from it. -/
theorem removeFinalizer_writesNext (deleting : r.metadata.deletionRequested = true) :
    (r.removeFinalizer resourceFinalizer).Asks r.WritesNext := by
  unfold removeFinalizer
  split
  case h_1 => exact Action.asks_pure
  case h_2 finalizers next =>
    have written : r.nextFinalizers? = some finalizers := by
      rw [nextFinalizers?, deleting]
      exact next
    refine Program.Asks.bind (patchFinalizers_writesNext written) fun result => ?_
    cases result with
    | ok u => exact .done _
    | error e =>
        dsimp only
        split <;> exact .done _

/-- What an outcome writes down of the finalizers follows from the record: only a pass over a record
that is being deleted releases them. -/
theorem apply_writesNext {o : Outcome} {now : Instant} {passed : Exchange}
    (yields : (r.reconcile base settings now).Yields passed o) : (o.apply r).Asks r.WritesNext := by
  cases released : o.removeFinalizer with
  | false =>
      refine Outcome.apply_plain (P := r.WritesNext) ?_ nofun released
      rintro _ _ plain _ _ ⟨⟩ written
      exact absurd plain written
  | true =>
      obtain ⟨calls, called, -⟩ := Program.yields_interpret.mp yields
      have deleting : r.metadata.deletionRequested = true := by
        cases alive : r.metadata.deletionRequested with
        | true => rfl
        | false =>
            obtain ⟨-, kept, -⟩ := (reconcileOnce_course called).living alive
            cases kept.symm.trans released
      unfold Outcome.apply
      rw [if_pos released]
      exact removeFinalizer_writesNext deleting

/-- A pass over a record writes no finalizers, or those that follow from the record. -/
theorem runPass_writesNext (yields : (r.runPass base settings).Yields t result) :
    ∀ entry ∈ t, r.WritesNext entry.1 := by
  obtain ⟨now, passed, o, written, applied, counted, rfl, reconciled, writes, -, tallies⟩ :=
    runPass_course yields
  rw [List.forall_mem_cons, List.forall_mem_append, List.forall_mem_append]
  refine ⟨nofun, (permits_writesNext.reconcile base r settings now).of_mem reconciled,
    (apply_writesNext reconciled).of_mem writes, ?_⟩
  rintro entry member path p same
  cases same ▸ tallies entry member

/-- The same holds of a pass behind the finalizer that is ensured. -/
theorem passIfHeld_writesNext (yields : (r.passIfHeld base settings).Yields t result) :
    ∀ entry ∈ t, r.WritesNext entry.1 := by
  unfold passIfHeld at yields
  cases deleting : r.metadata.deletionRequested with
  | true =>
      rw [deleting, if_pos rfl] at yields
      split at yields
      · exact runPass_writesNext yields
      · obtain ⟨rfl, -⟩ := Action.yields_pure.mp yields
        simp
  | false =>
      rw [deleting, if_neg Bool.false_ne_true] at yields
      obtain ⟨e, ensured, -⟩ | ⟨first, u, second, rfl, ensured, passed⟩ :=
        Action.yields_bind.mp yields
      · exact (ensureFinalizer_writesNext deleting).of_mem ensured
      · rw [List.forall_mem_append]
        exact ⟨(ensureFinalizer_writesNext deleting).of_mem ensured, runPass_writesNext passed⟩

/-- **A reconcile writes no finalizers, or those that follow from the record as it found it.** -/
theorem controlCounted_writesNext (yields : (r.controlCounted base settings).Yields t result)
    (finds : r.Finds stored t) : ∀ entry ∈ t, stored.WritesNext entry.1 := by
  have calm {q : Question} (calm : q.mayChange = false) : stored.WritesNext q := by
    rintro path p rfl
    cases calm
  rcases controlCounted_passes yields with
    ⟨nothing, -⟩ | ⟨found, front, passing, closing, rfl, finds', passes, before, behind⟩
  · exact fun entry member => calm (nothing entry member)
  · obtain rfl := finds.unique finds'.ahead
    rw [List.forall_mem_append, List.forall_mem_append]
    exact ⟨fun entry member => calm (before entry member), passIfHeld_writesNext passes,
      fun entry member => calm (behind entry member)⟩

end Record

/-! ## A record with several writers -/

/-- What happens to a stored record. -/
inductive Deed where
  /-- A question of the reconcile with its answer.  A patch may have taken effect or not, whatever
  it was answered. -/
  | own (entry : Sigma Question.Answer) (applied : Bool)
  /-- Somebody else leaves another document. -/
  | foreign (doc : Json)

/-- The document that a question leaves at a path, once it has taken effect. -/
def Question.leaves (path : String) (doc : Json) : Question → Json
  | .kube ⟨there, some ⟨none, body⟩⟩ => if there = path then doc.mergePatch body else doc
  | _ => doc

namespace Deed

/-- The question of the reconcile, if it is one, with its answer. -/
def own? : Deed → Option (Sigma Question.Answer)
  | own entry _ => some entry
  | foreign _ => none

/-- The document that is stored at a path after something has happened to it. -/
def after (path : String) (doc : Json) : Deed → Json
  | own _ false => doc
  | own entry true => entry.1.leaves path doc
  | foreign doc => doc

/-- What a reconcile asks in the course of a history, with the answers. -/
def asked (h : List Deed) : Exchange := h.filterMap own?

/-- The finalizers that are stored at a path at the end of a history. -/
def finalizersAfter (path : String) (doc : Json) (h : List Deed) : List String :=
  (h.foldl (after path) doc).finalizers

variable {path : String} {doc : Json} {h first second : List Deed}

@[simp] theorem asked_append : asked (first ++ second) = asked first ++ asked second :=
  List.filterMap_append

theorem asked_own {t : Exchange} {applied : Bool} :
    asked (t.map fun entry => own entry applied) = t := by
  rw [asked, List.filterMap_map]
  exact List.filterMap_some

/-- What is asked without an effect leaves the document as it is. -/
theorem finalizersAfter_unapplied {t : Exchange} :
    finalizersAfter path doc (t.map fun entry => own entry false) = doc.finalizers := by
  unfold finalizersAfter
  induction t with
  | nil => rfl
  | cons entry t ih => exact ih

theorem finalizersAfter_foreign {edited : Json} :
    finalizersAfter path doc (h ++ [foreign edited]) = edited.finalizers := by
  rw [finalizersAfter, List.foldl_append, List.foldl_cons, List.foldl_nil, after]

/-- Finalizers that are written are those that are stored then. -/
theorem finalizersAfter_write {finalizers : List String}
    {reply : (Question.kube ⟨path, some ⟨none, finalizersPatch finalizers⟩⟩).Answer} :
    finalizersAfter path doc (h ++ [own ⟨_, reply⟩ true]) = finalizers := by
  have last : ∀ doc, after path doc (own ⟨.kube ⟨path, some ⟨none, finalizersPatch finalizers⟩⟩,
      reply⟩ true) = doc.mergePatch (finalizersPatch finalizers) := fun _ => if_pos rfl
  rw [finalizersAfter, List.foldl_append, List.foldl_cons, List.foldl_nil, last,
    Json.finalizers_mergePatch]

end Deed

open Deed (asked finalizersAfter)

/-- A reconcile that runs among edits of its record by others, at a point where it writes the
finalizers of the record. -/
structure RacedWrite where
  base : Url
  record : Record
  settings : Settings
  result : Except OperatorError ControllerAction
  /-- The document that is stored at first. -/
  doc : Json
  /-- What happens until the record is read. -/
  reading : List Deed
  /-- What happens between the reading and the write. -/
  meantime : List Deed
  later : List Deed
  path : String
  patch : KubePatch
  reply : KubeReply
  yields : (record.controlCounted base settings).Yields
    (asked (reading ++ meantime ++ .own ⟨.kube ⟨path, some patch⟩, reply⟩ true :: later)) result
  /-- The record as it is read. -/
  stored : Record
  finds : record.Finds stored (asked reading)
  seen : stored.metadata.finalizers.getD [] = finalizersAfter path doc reading
  writes : patch.finalizers? ≠ none

namespace RacedWrite

variable (w : RacedWrite)

/-- The finalizers when the record is read. -/
def asRead : List String := finalizersAfter w.path w.doc w.reading

/-- The finalizers right before the write. -/
def latest : List String := finalizersAfter w.path w.doc (w.reading ++ w.meantime)

/-- The finalizers right after the write. -/
def written : List String :=
  finalizersAfter w.path w.doc
    (w.reading ++ w.meantime ++ [.own ⟨.kube ⟨w.path, some w.patch⟩, w.reply⟩ true])

/-- What is written follows from what was read. -/
theorem exists_next : ∃ finalizers, w.stored.nextFinalizers? = some finalizers ∧
    w.patch = ⟨none, finalizersPatch finalizers⟩ := by
  have member : ⟨.kube ⟨w.path, some w.patch⟩, w.reply⟩ ∈ asked (w.reading ++ w.meantime ++
      .own ⟨.kube ⟨w.path, some w.patch⟩, w.reply⟩ true :: w.later) := by
    rw [Deed.asked_append]
    exact List.mem_append_right _ List.mem_cons_self
  have found : w.record.Finds w.stored (asked (w.reading ++ w.meantime ++
      .own ⟨.kube ⟨w.path, some w.patch⟩, w.reply⟩ true :: w.later)) := by
    rw [List.append_assoc, Deed.asked_append]
    exact w.finds.ahead
  exact Record.controlCounted_writesNext w.yields found _ member _ _ rfl w.writes

/-- The finalizers of others are those that were read. -/
theorem foreign_written : foreignFinalizers w.written = foreignFinalizers w.asRead ∧
    (resourceFinalizer ∈ w.written ↔ w.stored.metadata.deletionRequested = false) := by
  obtain ⟨finalizers, next, patched⟩ := w.exists_next
  have written : w.written = finalizers := by
    rw [RacedWrite.written, patched]
    exact Deed.finalizersAfter_write
  have kept := Record.foreign_nextFinalizers? next
  rw [w.seen] at kept
  rw [written]
  exact kept

/-- Wherever a reconcile writes finalizers behind the reading of its record, somebody else may have
left any document right before. -/
theorem exists_edited {base : Url} {r stored : Record} {settings : Settings}
    {result : Except OperatorError ControllerAction} {first middle rest : Exchange} {path : String}
    {p : KubePatch} {reply : KubeReply} {doc : Json}
    (yields : (r.controlCounted base settings).Yields
      (first ++ (middle ++ ⟨.kube ⟨path, some p⟩, reply⟩ :: rest)) result)
    (finds : r.Finds stored first) (seen : stored.metadata.finalizers.getD [] = doc.finalizers)
    (writes : p.finalizers? ≠ none) (edited : Json) :
    ∃ w : RacedWrite, w.asRead = doc.finalizers ∧ w.latest = edited.finalizers := by
  let unapplied (entry : Sigma Question.Answer) : Deed := .own entry false
  have reads : finalizersAfter path doc (first.map unapplied) = doc.finalizers :=
    Deed.finalizersAfter_unapplied
  have all : asked (first.map unapplied ++ (middle.map unapplied ++ [.foreign edited]) ++
      .own ⟨.kube ⟨path, some p⟩, reply⟩ true :: rest.map unapplied) =
        first ++ (middle ++ ⟨.kube ⟨path, some p⟩, reply⟩ :: rest) := by
    have others : asked [.foreign edited] = [] := rfl
    have later : asked (.own ⟨.kube ⟨path, some p⟩, reply⟩ true :: rest.map unapplied) =
        ⟨.kube ⟨path, some p⟩, reply⟩ :: asked (rest.map unapplied) := rfl
    simp only [Deed.asked_append, later, others, unapplied, Deed.asked_own, List.nil_append,
      List.append_assoc]
  let w : RacedWrite :=
    { base, record := r, settings, result, doc, reading := first.map unapplied,
      meantime := middle.map unapplied ++ [.foreign edited], later := rest.map unapplied, path,
      patch := p, reply, yields := all ▸ yields, stored, finds := Deed.asked_own.symm ▸ finds,
      seen := seen.trans reads.symm, writes }
  have last : w.latest = edited.finalizers := by
    change finalizersAfter path doc (_ ++ (_ ++ [.foreign edited])) = _
    rw [← List.append_assoc]
    exact Deed.finalizersAfter_foreign
  exact ⟨w, reads, last⟩

end RacedWrite

/-- **The finalizers of others are put back to where they were when the record was read.**  Let a
reconcile, of any record of any kind, run among any edits of the record by others, and let it write
finalizers at some point behind the reading of the record.  The finalizers that are stored then are
those of others as they were read, in order, with the own one exactly if the record was not being
deleted.  So what the others have stored in the meantime survives exactly if it comes to the same
finalizers. -/
theorem foreign_finalizers_asRead (w : RacedWrite) :
    foreignFinalizers w.written = foreignFinalizers w.asRead ∧
      (resourceFinalizer ∈ w.written ↔ w.stored.metadata.deletionRequested = false) ∧
      (foreignFinalizers w.written = foreignFinalizers w.latest ↔
        foreignFinalizers w.latest = foreignFinalizers w.asRead) := by
  obtain ⟨others, own⟩ := w.foreign_written
  refine ⟨others, own, ?_⟩
  rw [others]
  exact eq_comm

/-! ## A record with a second writer -/

namespace Contended

/-- The document of a new record. -/
def doc : Json := (Json.parse? Newborn.document).getD .null

/-- The document once somebody else holds on to the record. -/
def edited : Json := doc.mergePatch (finalizersPatch ["example.com/cleanup"])

/-- A question that writes finalizers. -/
def writesFinalizers : Question → Bool
  | .kube ⟨_, some p⟩ => p.finalizers?.isSome
  | _ => false

/-- A reconcile of a new record writes its finalizers. -/
theorem exists_write : ∃ path p reply, ⟨.kube ⟨path, some p⟩, reply⟩ ∈ Newborn.exchange ∧
    p.finalizers? ≠ none := by
  obtain ⟨⟨question, reply⟩, asks, writes⟩ :
      ∃ entry ∈ Newborn.exchange, writesFinalizers entry.1 = true :=
    List.any_eq_true.mp (by decide +kernel)
  cases question with
  | kube request =>
      obtain ⟨path, patch⟩ := request
      cases patch with
      | none => cases writes
      | some p => exact ⟨path, p, reply, asks, Option.isSome_iff_ne_none.mp writes⟩
  | _ => cases writes

/-- Whatever is found when the record is read has no finalizers yet. -/
theorem unfinalized {stored : Record} {t : Exchange} (finds : Newborn.record.Finds stored t)
    (asks : t ⊆ Newborn.exchange) : stored.metadata.finalizers = none := by
  have seen : (Kubernetes.ofReply Newborn.record.collection.decode
      (.answered 200 Newborn.document)).toOption.map (fun r => r.metadata.finalizers) =
        some none := by decide +kernel
  obtain ⟨path, -,
      (decoded : Kubernetes.ofReply _ (.answered 200 Newborn.document) = .ok stored)⟩ :=
    finds.answered fun _ member => Program.answer_of_mem_trace (asks member)
  rw [decoded] at seen
  exact Option.some.inj seen

/-- A reconcile of the record that reads it, and writes its finalizers behind the edit. -/
theorem exists_raced : ∃ w : RacedWrite, w.asRead = [] ∧ w.latest = ["example.com/cleanup"] := by
  obtain ⟨path, p, reply, asks, writes⟩ := exists_write
  have yields := Program.yields_run (fun q (_ : Unit) => (Newborn.answer q, ()))
    (Newborn.record.controlCounted ⟨"http", some [""], "", none, none⟩ .standard) ()
  rcases Record.controlCounted_passes yields with
    ⟨calm, -⟩ | ⟨stored, front, passing, closing, split, finds, -, before, -⟩
  · cases calm _ asks
  change Newborn.exchange = front ++ (passing ++ closing) at split
  -- The write is not part of the reading.
  have behind : ⟨.kube ⟨path, some p⟩, reply⟩ ∈ passing ++ closing := by
    rw [split, List.mem_append] at asks
    refine asks.resolve_left fun early => ?_
    cases before _ early
  obtain ⟨middle, rest, split'⟩ := List.append_of_mem behind
  have nothing : doc.finalizers = [] := by decide +kernel
  have added : edited.finalizers = ["example.com/cleanup"] := Json.finalizers_mergePatch ..
  have seen : stored.metadata.finalizers.getD [] = doc.finalizers := by
    rw [unfinalized finds (split ▸ List.subset_append_left ..), Option.getD_none, nothing]
  change Program.Yields _ Newborn.exchange _ at yields
  rw [split, split'] at yields
  obtain ⟨w, read, latest⟩ := RacedWrite.exists_edited yields finds seen writes edited
  exact ⟨w, read.trans nothing, latest.trans added⟩

end Contended

/-- The finalizer that somebody else has added is lost. -/
theorem foreign_finalizers_asRead_contended : ∃ w : RacedWrite,
    w.latest = ["example.com/cleanup"] ∧ foreignFinalizers w.written = [] := by
  obtain ⟨w, read, latest⟩ := Contended.exists_raced
  obtain ⟨others, -, -⟩ := foreign_finalizers_asRead w
  refine ⟨w, latest, ?_⟩
  rw [others, read]
  rfl

/-- So it is not true that a write keeps the finalizers of others as they are, not even where the
others leave the own one alone. -/
theorem not_foreign_finalizers_kept :
    ¬ ∀ w : RacedWrite, (resourceFinalizer ∈ w.latest ↔ resourceFinalizer ∈ w.asRead) →
      foreignFinalizers w.written = foreignFinalizers w.latest := by
  intro kept
  obtain ⟨w, read, latest⟩ := Contended.exists_raced
  have alone : resourceFinalizer ∈ w.latest ↔ resourceFinalizer ∈ w.asRead := by
    rw [read, latest]
    decide
  have lost : foreignFinalizers w.latest = foreignFinalizers w.asRead :=
    (kept w alone).symm.trans w.foreign_written.1
  rw [read, latest] at lost
  exact absurd lost (by decide)

end ServiceOperator
