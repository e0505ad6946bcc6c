import ServiceOperator.Proofs.Controller.StoredRecords
import ServiceOperator.Proofs.Status.Agreement

/-!
# Marker annotations and the status

Two annotations of a record repeat what its status says: whether the resource has converged, and
which generation is applied to it.  A reconcile writes the status with one patch and the annotations
with another, and leaves out each of them if it sees no difference.

`Record.Towards` is what a stored record can have become along the way: the status and the
annotations are those that were read, or those that the pass asks for.  Every patch of a reconcile
keeps it (`Record.Towards.step`), and so does a whole exchange (`Record.Leaves.towards`), whatever
fails on the way and is tried again.

At the end the annotation of convergence agrees with the status.  The annotation of the generation
need not: the markers of a status without an applied generation leave it out, and a merge patch
keeps what it leaves out.  So it stays when its generation goes (`markers_agree_iff`), as it does
for a resource that was deleted behind the back of the operator.

### What is left open on purpose

`Record.Leaves` does not say which requests take effect.  One that was answered with success has,
and any other one may have or not, as when its answer was lost.  So the document at the end is not a
function of the exchange, and `Record.Towards` has to be an invariant with two ways for each part.
What closes it is that a pass over a record which it keeps has, for each part that differs, one
patch among its requests that did succeed (`Record.WritesDown`).
-/

namespace ServiceOperator

open Json (valuesOf)

/-! ## Markers -/

namespace ResourceStatus

variable {a b s : ResourceStatus} {name : String}

/-- Whether the resource has converged, as a text. -/
def runningText (s : ResourceStatus) : String := if s.isRunning then "true" else "false"

theorem runningAnnotation_ne_generationAnnotation : runningAnnotation ≠ generationAnnotation := by
  decide

/-- The markers of a status are two: one always says whether the resource has converged, the
other has a value only while a generation is applied. -/
theorem get?_markers (s : ResourceStatus) (name : String) :
    s.markers.get? name =
      if name = runningAnnotation then some s.runningText
      else if name = generationAnnotation then s.observedGeneration.map toString
      else none := by
  have running : (StringMap.empty.insert runningAnnotation s.runningText).get? name =
      if name = runningAnnotation then some s.runningText else none := StringMap.get?_insert
  cases observed : s.observedGeneration with
  | none =>
      simp only [markers, observed, Option.map_none, ite_self]
      exact running
  | some g =>
      simp only [markers, observed, Option.map_some]
      rw [StringMap.get?_insert]
      by_cases generation : name = generationAnnotation
      · rw [if_pos generation, if_neg, if_pos generation]
        exact generation ▸ runningAnnotation_ne_generationAnnotation.symm
      · rw [if_neg generation, if_neg generation]
        exact running

/-- A status that is not written over another one names the same generation. -/
theorem observed_of_unchanged (unchanged : changed (some a) b = false) :
    a.observedGeneration = b.observedGeneration := by
  simp only [changed, agrees, Bool.not_eq_false', Bool.and_eq_true, decide_eq_true_eq] at unchanged
  obtain ⟨-, -, -, observed, -⟩ := (mk.injEq ..).mp unchanged.2
  exact observed

end ResourceStatus

/-- The two parts of a record in which a status is written down. -/
inductive StatusPart
  | status
  | markers

namespace ResourceStatus

variable {s : ResourceStatus}

/-- The patch that writes a status down in a part of a record. -/
def patchOf (s : ResourceStatus) : StatusPart → Json
  | .status => statusPatch s
  | .markers => annotationsPatch s.markers

/-- A status is written with two patches, which differ. -/
theorem patchOf_injective {part other : StatusPart} (same : s.patchOf part = s.patchOf other) :
    part = other := by
  cases part <;> cases other <;> simp [patchOf, statusPatch, annotationsPatch] at same ⊢

theorem finalizersPatch_ne_patchOf {finalizers : List String} {part : StatusPart} :
    finalizersPatch finalizers ≠ s.patchOf part := by
  cases part <;> simp [finalizersPatch, patchOf, statusPatch, annotationsPatch]

/-- What may be merged into a record to write a status down: the finalizers, and each part. -/
inductive PatchedBy (s : ResourceStatus) : Json → Prop
  | finalizers (finalizers : List String) : PatchedBy s (finalizersPatch finalizers)
  | part (part : StatusPart) : PatchedBy s (s.patchOf part)

end ResourceStatus

/-- A document that is read is what an answer without an error means. -/
theorem Kubernetes.ofReply_of_read {α : Type} {d : Json.Decoder α} {body : String} {a : α}
    (read : (Json.parse? body).bind d = some a) : ofReply d (.answered 200 body) = .ok a := by
  rw [ofReply, if_neg (by decide), read]

/-! ## What is merged into a record -/

namespace Record

open Kubernetes (OfSecrets)

variable {r cur next : Record} {s : ResourceStatus} {q : Question} {t : Exchange} {path : String}
  {doc last body : Json} {entry : Sigma Question.Answer}

/-- A path at which the record is written, or its status. -/
def isWrittenAt (r : Record) (path : String) : Bool :=
  ["", "/status"].any fun part =>
    Kubernetes.sendablePath? (r.collection.path ++ "/" ++ r.name ++ part) = some path

/-- A path that leads to the record or to its status is one at which the record is written. -/
theorem isWrittenAt_of_sendable {part : String} (known : part ∈ ["", "/status"])
    (sendable : Kubernetes.sendablePath? (r.collection.path ++ "/" ++ r.name ++ part) =
      some path) : r.isWrittenAt path = true :=
  List.any_eq_true.mpr ⟨part, known, decide_eq_true sendable⟩

/-- A secret is not written where a record is. -/
theorem not_isWrittenAt_of_ofSecrets (secret : OfSecrets path) : r.isWrittenAt path = false := by
  refine Bool.eq_false_iff.mpr fun written => ?_
  obtain ⟨part, -, sendable⟩ := List.any_eq_true.mp written
  have sendable := of_decide_eq_true sendable
  rw [String.append_assoc, String.append_assoc] at sendable
  exact (Kubernetes.ofRecords_of_sendable sendable).not_ofSecrets secret

/-- What a question merges into the document of a record. -/
def merges? (r : Record) : Question → Option Json
  | .kube ⟨path, some p⟩ => if r.isWrittenAt path then some p.body else none
  | _ => none

/-- A request is answered with the record. -/
def Succeeds (r : Record) (entry : Sigma Question.Answer) : Prop :=
  ∃ request reply updated, entry = ⟨.kube request, reply⟩ ∧
    Kubernetes.ofReply r.collection.decode reply = .ok updated

/-- Something is merged into the document of a record along an exchange, with success. -/
def Merges (r : Record) (t : Exchange) (body : Json) : Prop :=
  ∃ entry ∈ t, r.merges? entry.1 = some body ∧ r.Succeeds entry

theorem Merges.mono {later : Exchange} (merges : r.Merges t body) (sub : t ⊆ later) :
    r.Merges later body := by
  obtain ⟨entry, member, rest⟩ := merges
  exact ⟨entry, sub member, rest⟩

/-- The document of a record that an exchange leaves behind, if nobody else writes it: what was
answered with success has taken effect, and what was not may have taken effect or not. -/
inductive Leaves (r : Record) : Json → Exchange → Json → Prop
  | nil (doc : Json) : Leaves r doc [] doc
  | effect {doc last : Json} {entry : Sigma Question.Answer} {t : Exchange}
      (rest : Leaves r ((r.merges? entry.1).elim doc doc.mergePatch) t last) :
      Leaves r doc (entry :: t) last
  | lost {doc last : Json} {entry : Sigma Question.Answer} {t : Exchange}
      (failed : ¬ r.Succeeds entry) (rest : Leaves r doc t last) : Leaves r doc (entry :: t) last

/-- The document that is left behind if everything that is asked takes effect. -/
def applied (r : Record) (doc : Json) (t : Exchange) : Json :=
  t.foldl (fun doc entry => (r.merges? entry.1).elim doc doc.mergePatch) doc

/-- That everything takes effect is one of the ways in which an exchange may go. -/
theorem leaves_applied : r.Leaves doc t (r.applied doc t) := by
  induction t generalizing doc with
  | nil => exact .nil doc
  | cons entry t ih => exact .effect ih

/-- A record has the annotations of another one, with the markers of a status over them. -/
def Marked (r : Record) (s : ResourceStatus) (cur : Record) : Prop :=
  ∀ name, cur.annotationAt? name = (s.markers.get? name).or (r.annotationAt? name)

/-- A part of a record in which a status was written down shows it. -/
def Written (r : Record) (s : ResourceStatus) (cur : Record) : StatusPart → Prop
  | .status => cur.status = some s
  | .markers => r.Marked s cur

/-- A record into which some of what writes a status down has been merged. -/
structure Towards (r : Record) (s : ResourceStatus) (cur : Record) : Prop where
  kind : cur.kind = r.kind
  status : cur.status = r.status ∨ cur.status = some s
  annotations : (∀ name, cur.annotationAt? name = r.annotationAt? name) ∨ r.Marked s cur

theorem towards_refl (r : Record) (s : ResourceStatus) : r.Towards s r :=
  ⟨rfl, .inl rfl, .inl fun _ => rfl⟩

/-- Markers over markers are the same markers. -/
theorem Towards.marked {new : StringMap String} (towards : r.Towards s cur)
    (get : ∀ name, new.get? name = (s.markers.get? name).or (cur.annotationAt? name))
    (name : String) : new.get? name = (s.markers.get? name).or (r.annotationAt? name) := by
  rw [get]
  rcases towards.annotations with same | marked
  · rw [same]
  · rw [marked, ← Option.or_assoc, Option.or_self]

/-- **What one patch does.**  What was written before stays, and what the patch writes is there. -/
theorem Towards.step (towards : r.Towards s cur) (stored : cur.StoredAs doc) (fits : s.Fits)
    (patched : s.PatchedBy body) : ∃ next, next.StoredAs (doc.mergePatch body) ∧
      r.Towards s next ∧
      ∀ part, r.Written s cur part ∨ body = s.patchOf part → r.Written s next part := by
  cases patched with
  | finalizers finalizers =>
      refine ⟨_, stored.mergeFinalizers finalizers,
        ⟨towards.kind, towards.status, towards.annotations⟩, fun part shown => ?_⟩
      have shown := shown.resolve_right ResourceStatus.finalizersPatch_ne_patchOf
      cases part <;> exact shown
  | part written =>
      cases written with
      | status =>
          refine ⟨_, stored.mergeStatus fits, ⟨towards.kind, .inr rfl, towards.annotations⟩, ?_⟩
          rintro (_ | _) shown
          · rfl
          · exact shown.resolve_right fun same => nomatch ResourceStatus.patchOf_injective same
      | markers =>
          obtain ⟨new, stored, get⟩ := stored.mergeAnnotations s.markers
          have marked := towards.marked get
          refine ⟨_, stored, ⟨towards.kind, towards.status, .inr marked⟩, ?_⟩
          rintro (_ | _) shown
          · exact shown.resolve_right fun same => nomatch ResourceStatus.patchOf_injective same
          · exact marked

theorem merges_cons : r.Merges (entry :: t) body ↔
    r.merges? entry.1 = some body ∧ r.Succeeds entry ∨ r.Merges t body := by
  simp [Merges]

/-- **What a whole exchange does.**  Let it merge nothing but what writes a status down.  The record
that is stored at the end has come towards that status, in each part that was merged with
success. -/
theorem Leaves.towards (leaves : r.Leaves doc t last) (fits : s.Fits)
    (patches : ∀ entry ∈ t, ∀ body, r.merges? entry.1 = some body → s.PatchedBy body)
    (stored : cur.StoredAs doc) (towards : r.Towards s cur) :
    ∃ next, next.StoredAs last ∧ r.Towards s next ∧
      ∀ part, r.Written s cur part ∨ r.Merges t (s.patchOf part) → r.Written s next part := by
  -- What took effect without success moves the record on as well, but it is not counted on.
  induction leaves generalizing cur with
  | nil doc => exact ⟨cur, stored, towards, fun part => by simp [Merges]⟩
  | @effect doc last entry t rest ih =>
      obtain ⟨patch, patches⟩ := List.forall_mem_cons.mp patches
      cases merged : r.merges? entry.1 with
      | none =>
          rw [merged] at ih
          obtain ⟨next, stored, towards, shows⟩ := ih patches stored towards
          refine ⟨next, stored, towards, fun part => ?_⟩
          simpa [merges_cons, merged] using shows part
      | some body =>
          rw [merged] at ih
          obtain ⟨middle, stored, towards, wrote⟩ :=
            towards.step stored fits (patch body merged)
          obtain ⟨next, stored, towards, shows⟩ := ih patches stored towards
          refine ⟨next, stored, towards, fun part => ?_⟩
          rw [merges_cons, merged]
          rintro (before | ⟨same, -⟩ | later)
          · exact shows part (.inl (wrote part (.inl before)))
          · exact shows part (.inl (wrote part (.inr (Option.some.inj same))))
          · exact shows part (.inr later)
  | lost failed rest ih =>
      obtain ⟨-, patches⟩ := List.forall_mem_cons.mp patches
      obtain ⟨next, stored, towards, shows⟩ := ih patches stored towards
      refine ⟨next, stored, towards, fun part => ?_⟩
      rw [merges_cons]
      exact fun written => shows part (written.imp_right (·.resolve_left fun head => failed head.2))

/-! ## What a reconcile merges -/

variable {base : Url} {settings : Settings} {action : ControllerAction} {o : Outcome}

/-- A question merges nothing into the document of a record but what writes a status down. -/
def MergesOnly (r : Record) (s : ResourceStatus) (q : Question) : Prop :=
  ∀ body, r.merges? q = some body → s.PatchedBy body

theorem permits_mergesOnly : Permits (r.MergesOnly s) where
  http _ _ := nofun
  read _ _ := nofun
  patience _ _ := nofun
  count _ _ := nofun

/-- What may change nothing merges nothing. -/
theorem mergesOnly_of_calm (calm : q.mayChange = false) : r.MergesOnly s q := by
  intro body merged
  cases q with
  | kube request =>
      obtain ⟨path, patch⟩ := request
      cases patch with
      | none => cases merged
      | some p => cases calm
  | _ => cases merged

/-- A patch that writes something of a status down merges nothing else, as often as it is sent. -/
theorem patch_mergesOnly {part : String} {p : KubePatch} (patched : s.PatchedBy p.body) :
    (Kubernetes.patch r.collection r.name part p).Asks (r.MergesOnly s) := by
  refine Kubernetes.patch_asks ?_ fun _ => nofun
  intro path _ body merged
  rw [merges?] at merged
  split at merged
  · exact Option.some.inj merged ▸ patched
  · cases merged

theorem ensureFinalizer_mergesOnly :
    (r.ensureFinalizer resourceFinalizer).Asks (r.MergesOnly s) := by
  unfold ensureFinalizer
  split
  · exact Action.Asks.bind (patch_mergesOnly (.finalizers _)) fun _ => Action.asks_pure
  · exact Action.asks_pure

/-- A connection secret does not lie where a record is written. -/
theorem materialize_mergesOnly {info : ConnectionInfo} :
    (r.materialize info).Asks (r.MergesOnly s) := by
  unfold materialize
  split
  · exact Action.asks_pure
  · refine Action.Asks.bind (Kubernetes.patch_asks ?_ (permits_mergesOnly.patience _))
      fun _ => Action.asks_pure
    intro path sendable body merged
    rw [String.append_assoc, String.append_assoc] at sendable
    have apart : r.isWrittenAt path = false :=
      not_isWrittenAt_of_ofSecrets (Kubernetes.ofSecrets_of_sendable sendable)
    rw [merges?, apart] at merged
    cases merged

/-- An outcome that keeps a record merges nothing into it but what writes its status down. -/
theorem apply_mergesOnly (held : o.removeFinalizer = false) :
    (o.apply r).Asks (r.MergesOnly o.status) := by
  have status : (Kubernetes.patch r.collection r.name "/status" ⟨none, statusPatch o.status⟩).Asks
      (r.MergesOnly o.status) := patch_mergesOnly (.part .status)
  have markers : (Kubernetes.patch r.collection r.name ""
      ⟨none, annotationsPatch o.status.markers⟩).Asks (r.MergesOnly o.status) :=
    patch_mergesOnly (.part .markers)
  refine Outcome.apply_asks held ?_ (fun _ => materialize_mergesOnly) ?_
  · exact Action.Asks.bind status fun _ => Action.asks_pure
  · exact Action.Asks.bind markers fun _ => Action.asks_pure

/-- A patch that succeeds is merged. -/
theorem merges_of_patch {part : String} {p : KubePatch} (known : part ∈ ["", "/status"])
    (yields : (Kubernetes.patch r.collection r.name part p >>= fun _ => pure ()).Yields t
      (.ok ())) : r.Merges t p.body := by
  obtain ⟨patched, yields, same⟩ := Action.yields_map.mp yields
  cases patched with
  | error e => cases same
  | ok updated =>
      obtain ⟨path, reply, asked, sendable, meaning⟩ := Kubernetes.patch_succeeds yields
      refine ⟨_, asked, ?_, _, _, updated, rfl, meaning⟩
      rw [merges?, if_pos (isWrittenAt_of_sendable known sendable)]

/-- What was stored leads to what a pass decides. -/
theorem reconcile_leadsTo {now : Instant} (yields : (r.reconcile base settings now).Yields t o) :
    r.currentStatus.LeadsTo r.subject.generation o.status := by
  obtain ⟨calls, called, -⟩ := Program.yields_interpret.mp yields
  exact CompletedPass.leadsTo ⟨_, r.subject, settings, now, calls, o, called⟩

/-- A part of a record in which a status is not written down as it is. -/
def changes (r : Record) (s : ResourceStatus) : StatusPart → Bool
  | .status => ResourceStatus.changed r.status s
  | .markers => r.markersChanged s.markers

/-- An exchange writes down a status to which that of a record leads: it merges nothing else into
the record, and each part that differs with success. -/
structure WritesDown (r : Record) (t : Exchange) (s : ResourceStatus) : Prop where
  leads : r.currentStatus.LeadsTo r.subject.generation s
  only : ∀ entry ∈ t, r.MergesOnly s entry.1
  merges : ∀ part, r.changes s part = true → r.Merges t (s.patchOf part)

theorem WritesDown.behind {front : Exchange} (writes : r.WritesDown t s)
    (before : ∀ entry ∈ front, r.MergesOnly s entry.1) : r.WritesDown (front ++ t) s where
  leads := writes.leads
  only := List.forall_mem_append.mpr ⟨before, writes.only⟩
  merges part changed := (writes.merges part changed).mono (List.subset_append_right ..)

theorem WritesDown.followed {back : Exchange} (writes : r.WritesDown t s)
    (after : ∀ entry ∈ back, r.MergesOnly s entry.1) : r.WritesDown (t ++ back) s where
  leads := writes.leads
  only := List.forall_mem_append.mpr ⟨writes.only, after⟩
  merges part changed := (writes.merges part changed).mono (List.subset_append_left ..)

/-- An outcome that keeps a record and meets no error is written down. -/
theorem apply_writesDown (leads : r.currentStatus.LeadsTo r.subject.generation o.status)
    (held : o.removeFinalizer = false) (yields : (o.apply r).Yields t (.ok ())) :
    r.WritesDown t o.status := by
  obtain ⟨status, markers⟩ := Outcome.apply_returns held yields
  refine ⟨leads, (apply_mergesOnly held).of_mem yields, ?_⟩
  rintro (_ | _) changed
  · obtain ⟨part, sub, patched⟩ := status changed
    exact (merges_of_patch (by simp) patched).mono sub
  · obtain ⟨part, sub, patched⟩ := markers changed
    exact (merges_of_patch (by simp) patched).mono sub

/-- To remove a finalizer without an error is to write finalizers, whatever was answered. -/
theorem removeFinalizer_writes (held : r.hasFinalizer resourceFinalizer = true)
    (yields : (r.removeFinalizer resourceFinalizer).Yields t (.ok ())) :
    ∃ path p reply, ⟨.kube ⟨path, some p⟩, reply⟩ ∈ t ∧ p.finalizers? ≠ none := by
  unfold removeFinalizer finalizersWithout? at yields
  rw [held, if_pos rfl] at yields
  obtain ⟨first, result, second, rfl, patched, ending⟩ := Program.yields_bind.mp yields
  obtain ⟨outcome, patches, rfl⟩ := Action.yields_map.mp patched
  have sendable : outcome ≠ .error (.kube .unsendable) := by
    rintro rfl
    cases (Program.yields_done.mp ending).2
  obtain ⟨path, reply, asked⟩ := Kubernetes.patch_sent patches sendable
  exact ⟨path, _, reply, List.mem_append_left _ asked, nofun⟩

/-- A record that is being deleted is held, and an exchange does not let go of it. -/
def KeptThrough (r : Record) (t : Exchange) : Prop :=
  r.metadata.deletionRequested = true → r.hasFinalizer resourceFinalizer = true ∧
    ∀ path p reply, ⟨.kube ⟨path, some p⟩, reply⟩ ∈ t → p.finalizers? = none

theorem KeptThrough.mono {earlier : Exchange} (kept : r.KeptThrough t) (sub : earlier ⊆ t) :
    r.KeptThrough earlier := fun deleting =>
  ⟨(kept deleting).1, fun path p reply asked => (kept deleting).2 path p reply (sub asked)⟩

/-- A record that is not being deleted is not let go of. -/
theorem keptThrough_of_alive (alive : r.metadata.deletionRequested = false) : r.KeptThrough t := by
  intro deleting
  cases alive.symm.trans deleting

/-- An outcome that lets go of a record is not written down without letting go of it. -/
theorem removeFinalizer_of_kept {now : Instant} {passed : Exchange}
    (reconciled : (r.reconcile base settings now).Yields passed o)
    (writes : (o.apply r).Yields t (.ok ())) (kept : r.KeptThrough t) :
    o.removeFinalizer = false := by
  obtain ⟨calls, called, -⟩ := Program.yields_interpret.mp reconciled
  cases deleting : r.metadata.deletionRequested with
  | false => exact ((reconcileOnce_course called).living deleting).2.1
  | true =>
      refine Bool.eq_false_iff.mpr fun released => ?_
      obtain ⟨carries, unwritten⟩ := kept deleting
      rw [Outcome.apply, if_pos released] at writes
      obtain ⟨path, p, reply, asked, finalizers⟩ := removeFinalizer_writes carries writes
      exact finalizers (unwritten path p reply asked)

/-- A pass over a record that it does not let go of writes a status down if it succeeds. -/
theorem runPass_writesDown (yields : (r.runPass base settings).Yields t (.ok action))
    (kept : r.KeptThrough t) : ∃ s, r.WritesDown t s := by
  obtain ⟨now, passed, o, written, applied, counted, rfl, reconciled, writes, returned, tallies⟩ :=
    runPass_course yields
  obtain rfl := returned action rfl
  have sub : written ⊆ ⟨.now, now⟩ :: (passed ++ (written ++ counted)) := by
    intro entry member
    simp [member]
  have held : o.removeFinalizer = false := removeFinalizer_of_kept reconciled writes (kept.mono sub)
  have tallied : ∀ entry ∈ counted, r.MergesOnly o.status entry.1 := by
    intro entry member body merged
    have tallied := tallies entry member
    obtain ⟨question, reply⟩ := entry
    cases question with
    | kube request => cases tallied
    | _ => cases merged
  have down := (apply_writesDown (reconcile_leadsTo reconciled) held writes).followed tallied
  exact ⟨o.status, (down.behind ((permits_mergesOnly.reconcile base r settings now).of_mem
    reconciled)).behind (List.forall_mem_singleton.mpr (mergesOnly_of_calm rfl))⟩

/-- The same holds of a pass behind the finalizer that is ensured. -/
theorem passIfHeld_writesDown (yields : (r.passIfHeld base settings).Yields t (.ok action))
    (kept : r.KeptThrough t) : ∃ s, r.WritesDown t s := by
  unfold passIfHeld at yields
  cases deleting : r.metadata.deletionRequested with
  | true =>
      rw [deleting, if_pos rfl, if_pos (kept deleting).1] at yields
      exact runPass_writesDown yields kept
  | false =>
      rw [deleting, if_neg Bool.false_ne_true] at yields
      obtain ⟨e, -, failed⟩ | ⟨first, u, second, rfl, ensured, yields⟩ :=
        Action.yields_bind.mp yields
      · cases failed
      obtain ⟨s, writes⟩ := runPass_writesDown yields (keptThrough_of_alive deleting)
      exact ⟨s, writes.behind (ensureFinalizer_mergesOnly.of_mem ensured)⟩

/-! ## Where the markers stand at the end -/

/-- The markers of a record say what its status says, and all other annotations are as before. -/
structure MarkersAgree (before after : Record) : Prop where
  running : after.annotationAt? ResourceStatus.runningAnnotation =
    some after.currentStatus.runningText
  generation : after.annotationAt? ResourceStatus.generationAnnotation =
    after.currentStatus.observedGeneration.map toString
  others : ∀ name, name ≠ ResourceStatus.runningAnnotation →
    name ≠ ResourceStatus.generationAnnotation →
      after.annotationAt? name = before.annotationAt? name

/-- Annotations that have not changed are marked already. -/
theorem marked_of_unchanged (unchanged : r.markersChanged s.markers = false)
    (same : ∀ name, cur.annotationAt? name = r.annotationAt? name) : r.Marked s cur := by
  intro name
  rw [same]
  cases marker : s.markers.get? name with
  | none => rfl
  | some text =>
      have agree := List.any_eq_false.mp unchanged _ (StringMap.mem_of_get? marker)
      rw [Option.some_or, annotationAt?]
      simpa using agree

end Record

/-- A reconcile that succeeds, runs a pass over its record and does not let go of it, with the
document that is stored of the record. -/
structure KeepingReconcile where
  base : Url
  record : Record
  settings : Settings
  action : ControllerAction
  exchange : Exchange
  yields : (record.controlCounted base settings).Yields exchange (.ok action)
  /-- The record as it is read. -/
  stored : Record
  finds : record.Finds stored exchange
  kept : stored.KeptThrough exchange
  /-- The document that is stored when the record is read. -/
  first : Json
  /-- The document that is stored at the end. -/
  last : Json
  reads : stored.StoredAs first
  leaves : stored.Leaves first exchange last

namespace KeepingReconcile

/-- A reconcile of a living record, all of whose patches take effect. -/
theorem exists_applied {base : Url} {record stored : Record} {settings : Settings}
    {action : ControllerAction} {t : Exchange} {doc : Json}
    (yields : (record.controlCounted base settings).Yields t (.ok action))
    (finds : record.Finds stored t) (alive : stored.metadata.deletionRequested = false)
    (reads : stored.StoredAs doc) :
    ∃ w : KeepingReconcile, w.stored = stored ∧ w.last = stored.applied doc t :=
  ⟨{ base, record, settings, action, exchange := t, yields, stored, finds, first := doc,
      last := stored.applied doc t, reads, leaves := Record.leaves_applied,
      kept := Record.keptThrough_of_alive alive }, rfl, rfl⟩

variable (w : KeepingReconcile)

/-- The reconcile writes a status down. -/
theorem exists_writesDown : ∃ s, w.stored.WritesDown w.exchange s := by
  rcases Record.controlCounted_passes w.yields with
    ⟨-, missing⟩ | ⟨found, front, passing, closing, split, finds, passes, calm, quiet⟩
  · exact absurd w.finds (missing w.stored)
  have ahead : w.record.Finds found w.exchange := split ▸ finds.ahead
  obtain rfl := w.finds.unique ahead
  have part : passing ⊆ w.exchange := by
    intro entry member
    simp [split, member]
  obtain ⟨s, writes⟩ := Record.passIfHeld_writesDown passes (w.kept.mono part)
  rw [split]
  exact ⟨s, (writes.followed fun entry member =>
    Record.mergesOnly_of_calm (quiet entry member)).behind fun entry member =>
      Record.mergesOnly_of_calm (calm entry member)⟩

/-- **What is stored at the end.**  The status that was read leads to another one.  That one is
stored, or is not different from what is stored, and its markers stand over the annotations that
were read. -/
theorem exists_marked : ∃ s after, w.stored.currentStatus.LeadsTo w.stored.subject.generation s ∧
    Record.decode w.stored.kind w.last = some after ∧ w.stored.Marked s after ∧
    (after.status = some s ∨ ∃ a, w.stored.status = some a ∧ after.status = some a ∧
      ResourceStatus.changed (some a) s = false) := by
  obtain ⟨s, leads, only, merges⟩ := w.exists_writesDown
  obtain ⟨after, stored, towards, written⟩ :=
    w.leaves.towards (leads.fits w.reads.fits w.reads.generation_fits) only w.reads
      (Record.towards_refl w.stored s)
  refine ⟨s, after, leads, towards.kind ▸ stored.reads, ?_, ?_⟩
  · cases changed : w.stored.markersChanged s.markers with
    | true => exact written .markers (.inr (merges .markers changed))
    | false => exact towards.annotations.elim (Record.marked_of_unchanged changed) id
  · cases changed : ResourceStatus.changed w.stored.status s with
    | true => exact .inl (written .status (.inr (merges .status changed)))
    | false =>
        rcases towards.status with kept | written
        · cases before : w.stored.status with
          | none =>
              rw [before] at changed
              cases changed
          | some a => exact .inr ⟨a, rfl, kept.trans before, before ▸ changed⟩
        · exact .inl written

/-- **The markers agree with the status, but for a generation that has gone.**  Let a reconcile, of
any record of any kind, in any surroundings, succeed, and run a pass over its record without letting
go of it.  The document at the end is that of a record.

* The annotation of the generation is the generation in its status.  If there is none there, the
  annotation is what it was before.
* All annotations but the two markers are as before.
* If the status that was read reports each aspect once, the annotation of convergence says what the
  status says at the end, and so the markers agree with it exactly if a generation that is not in
  the status was not in the annotations before. -/
theorem markers_agree_iff : ∃ after, Record.decode w.stored.kind w.last = some after ∧
    after.annotationAt? ResourceStatus.generationAnnotation =
      (after.currentStatus.observedGeneration.map toString).or
        (w.stored.annotationAt? ResourceStatus.generationAnnotation) ∧
    (∀ name, name ≠ ResourceStatus.runningAnnotation →
      name ≠ ResourceStatus.generationAnnotation →
        after.annotationAt? name = w.stored.annotationAt? name) ∧
    ((w.stored.currentStatus.conditions.map Condition.type).Nodup →
      after.annotationAt? ResourceStatus.runningAnnotation = some after.currentStatus.runningText ∧
      (w.stored.MarkersAgree after ↔ (after.currentStatus.observedGeneration = none →
        w.stored.annotationAt? ResourceStatus.generationAnnotation = none))) := by
  -- The markers were made from `s`, which was stored, or from which the stored status does not
  -- differ.
  obtain ⟨s, after, leads, reads, marked, settled⟩ := w.exists_marked
  have observed : after.currentStatus.observedGeneration = s.observedGeneration := by
    rcases settled with written | ⟨a, -, kept, unchanged⟩
    · rw [Record.currentStatus, written, Option.getD_some]
    · rw [Record.currentStatus, kept, Option.getD_some]
      exact ResourceStatus.observed_of_unchanged unchanged
  have generation : after.annotationAt? ResourceStatus.generationAnnotation =
      (after.currentStatus.observedGeneration.map toString).or
        (w.stored.annotationAt? ResourceStatus.generationAnnotation) := by
    rw [marked, ResourceStatus.get?_markers,
      if_neg ResourceStatus.runningAnnotation_ne_generationAnnotation.symm, if_pos rfl, observed]
  have others (name : String) (first : name ≠ ResourceStatus.runningAnnotation)
      (second : name ≠ ResourceStatus.generationAnnotation) :
      after.annotationAt? name = w.stored.annotationAt? name := by
    rw [marked, ResourceStatus.get?_markers, if_neg first, if_neg second, Option.none_or]
  refine ⟨after, reads, generation, others, fun once => ?_⟩
  have converged : after.currentStatus.isRunning = s.isRunning := by
    rcases settled with written | ⟨a, before, kept, unchanged⟩
    · rw [Record.currentStatus, written, Option.getD_some]
    · rw [Record.currentStatus, kept, Option.getD_some]
      have matching := (ResourceStatus.changed_eq_false_iff (leads.once once)).mp unchanged
      exact (matching.alike (leads.once once)).isTrue _
  have running : after.annotationAt? ResourceStatus.runningAnnotation =
      some after.currentStatus.runningText := by
    rw [marked, ResourceStatus.get?_markers, if_pos rfl, Option.some_or,
      ResourceStatus.runningText, ResourceStatus.runningText, converged]
  refine ⟨running, fun agree unset => ?_, fun unset => ⟨running, ?_, others⟩⟩
  · have gone := agree.generation
    rw [generation, unset] at gone
    exact gone
  · rw [generation]
    cases set : after.currentStatus.observedGeneration with
    | none => exact unset set
    | some g => rfl

end KeepingReconcile

/-! ## A resource that was deleted behind the back of the operator -/

namespace Withdrawn

/-- The record of a database that was created once, as it is stored. -/
def document : String :=
  "\x7b\"metadata\":\x7b\"name\":\"orders\",\"namespace\":\"shop\",\"annotations\":\x7b" ++
    "\"controllers.msop.dev/generation-was-processed\":\"0\"\x7d\x7d," ++
    "\"spec\":\x7b\"project\":\"p\",\"serviceName\":\"s\"\x7d," ++
    "\"status\":\x7b\"id\":\"orders\",\"observedGeneration\":0\x7d\x7d"

/-- What a patch of the record is answered with. -/
def updated : String :=
  "\x7b\"metadata\":\x7b\x7d,\"spec\":\x7b\"project\":\"p\",\"serviceName\":\"s\"\x7d\x7d"

/-- The document that is stored. -/
def doc : Json := (Json.parse? document).getD .null

/-- The record that is stored. -/
def stored : Record := (Record.decode .database doc).getD Vanished.record

/-- Peers of which one holds the record and the other knows no service. -/
def answer : (q : Question) → q.Answer :=
  Question.answerBy (fun _ => .answered 404 "") fun request =>
    if request.patch.isSome then .answered 200 updated else .answered 200 document

/-- A reconcile of the record, as a watch has seen it earlier. -/
def reconcile : Work (Except OperatorError ControllerAction) :=
  Vanished.record.controlCounted Vanished.base .standard

/-- What the reconcile asks, with the answers. -/
def exchange : Exchange := reconcile.trace (fun q (_ : Unit) => (answer q, ())) ()

/-- What the reconcile comes to. -/
def result : Except OperatorError ControllerAction :=
  (reconcile.run (fun q (_ : Unit) => (answer q, ())) ()).1

/-- The document that is stored at the end. -/
def last : Json := stored.applied doc exchange

/-- The stored document is read, and it holds no name twice. -/
theorem doc_reads : (Json.parse? document).isSome = true ∧
    (Record.decode .database doc).isSome = true ∧ doc.members.isEmpty = false ∧
    ∀ metadata ∈ valuesOf "metadata" doc.members, Json.Distinct metadata.members ∧
      ∀ annotations ∈ valuesOf "annotations" metadata.members,
        Json.Distinct annotations.members := by
  decide +kernel

/-- The reconcile succeeds.  It writes, and the record is not being deleted. -/
theorem exchange_ends : result.toOption.isSome = true ∧
    (exchange.any fun entry => entry.1.mayChange) = true ∧
    stored.metadata.deletionRequested = false ∧
    (stored.currentStatus.conditions.map Condition.type).Nodup ∧
    (Record.decode .database last).map (fun after =>
      (after.annotationAt? ResourceStatus.generationAnnotation,
        after.currentStatus.observedGeneration)) = some (some "0", none) := by
  decide +kernel

theorem readable : Record.decode .database doc = some stored := by
  obtain ⟨r, read⟩ := Option.isSome_iff_exists.mp doc_reads.2.1
  rw [stored, read, Option.getD_some]

/-- What is answered when the record is read. -/
theorem answered : Kubernetes.ofReply Vanished.record.collection.decode (.answered 200 document) =
    .ok stored := by
  obtain ⟨j, parses⟩ := Option.isSome_iff_exists.mp doc_reads.1
  have same : doc = j := by rw [doc, parses, Option.getD_some]
  have decodes : Vanished.record.collection.decode = Record.decode .database := rfl
  refine Kubernetes.ofReply_of_read ?_
  rw [parses, Option.bind_some, decodes, ← same, readable]

theorem reads : stored.StoredAs doc where
  object := Json.eq_object_of_members (List.isEmpty_eq_false_iff.mp doc_reads.2.2.1)
  reads := (congrArg (Record.decode · doc) (Record.kind_of_decode readable)).trans readable
  distinct := doc_reads.2.2.2

theorem yields : reconcile.Yields exchange result := Program.yields_run _ _ _

theorem finds : Vanished.record.Finds stored exchange := by
  rcases Record.controlCounted_passes yields with
    ⟨calm, -⟩ | ⟨found, front, passing, closing, split, finds, -⟩
  · obtain ⟨entry, member, changes⟩ := List.any_eq_true.mp exchange_ends.2.1
    cases (calm entry member).symm.trans changes
  · have ahead : Vanished.record.Finds found exchange := split ▸ finds.ahead
    obtain ⟨path, -, decoded⟩ :=
      ahead.answered fun _ member => Program.answer_of_mem_trace member
    obtain rfl := Except.ok.inj (answered.symm.trans decoded)
    exact ahead

/-- A reconcile leaves behind the annotation of a generation that is in the status no more. -/
theorem exists_reconcile : ∃ (w : KeepingReconcile) (after : Record),
    (w.stored.currentStatus.conditions.map Condition.type).Nodup ∧
      Record.decode w.stored.kind w.last = some after ∧
      after.annotationAt? ResourceStatus.generationAnnotation = some "0" ∧
      after.currentStatus.observedGeneration = none := by
  obtain ⟨succeeds, -, alive, once, ends⟩ := exchange_ends
  have yields := yields
  cases came : result with
  | error e =>
      rw [came] at succeeds
      cases succeeds
  | ok action =>
      rw [came] at yields
      obtain ⟨after, read, same⟩ := Option.map_eq_some_iff.mp ends
      obtain ⟨noted, observed⟩ := Prod.mk.inj same
      obtain ⟨w, sameStored, sameLast⟩ := KeepingReconcile.exists_applied yields finds alive reads
      refine ⟨w, after, ?_, ?_, noted, observed⟩
      · rw [sameStored]
        exact once
      · rw [sameStored, sameLast, Record.kind_of_decode readable]
        exact read

end Withdrawn

/-- The database is gone, and so is its generation from the status, but not from the annotations. -/
theorem markers_agree_iff_withdrawn : ∃ (w : KeepingReconcile) (after : Record),
    Record.decode w.stored.kind w.last = some after ∧
      after.currentStatus.observedGeneration = none ∧ ¬ w.stored.MarkersAgree after := by
  obtain ⟨w, after, once, read, noted, observed⟩ := Withdrawn.exists_reconcile
  obtain ⟨after', read', generation, -, agree⟩ := w.markers_agree_iff
  obtain rfl := Option.some.inj (read.symm.trans read')
  refine ⟨w, after, read, observed, fun agrees => ?_⟩
  have before := (agree once).2.mp agrees observed
  rw [noted, observed, before] at generation
  cases generation

/-- So it is not true that the markers agree with the status whenever a reconcile keeps its record,
not even where the status reports each aspect once. -/
theorem not_markersAgree : ¬ ∀ (w : KeepingReconcile) (after : Record),
    (w.stored.currentStatus.conditions.map Condition.type).Nodup →
      Record.decode w.stored.kind w.last = some after → w.stored.MarkersAgree after := by
  intro agree
  obtain ⟨w, after, once, read, noted, observed⟩ := Withdrawn.exists_reconcile
  have generation := (agree w after once read).generation
  rw [noted, observed] at generation
  cases generation

end ServiceOperator
