import ServiceOperator.Controller.Reconcile
import ServiceOperator.Proofs.Kinds.Frames

/-!
# What a reconcile never does

Under its lock a reconcile talks to both peers, asks for the time and counts.  It touches no lock
(`PermitsWriting.reread`): the one that it holds is taken before and given back after all of this.
Behind the reading of its record it writes records and the connection secret of that record, and
nothing else to Kubernetes (`PermitsReconcile.passIfHeld`).

### Why frames are structures

A frame is a property of questions that allows all that some part of a reconcile may ask.
`PermitsReconcile` and `PermitsWriting` extend the frame of what is done for a resource (`Permits`)
by what is written down around it, and each part of a reconcile is walked through once, for an
arbitrary frame.  To learn that a reconcile never does something it is then enough to check that the
property of not doing it is such a frame.
-/

namespace ServiceOperator

variable {P : Question → Prop}

theorem countAll_asks (count : ∀ event, P (.count event)) (events : List MetricEvent) :
    Program.Asks P (countAll events) := by
  induction events with
  | nil => exact .done _
  | cons event rest ih => exact .ask (count event) fun _ => ih

/-! ## Writing records -/

namespace Record

variable {r : Record} {finalizer : String}
  (write : ∀ path patch, Kubernetes.OfRecords path → P (.kube ⟨path, some patch⟩))
  (patience : P (.patience .kubernetes))
include write patience

/-- A patch asks for itself, as often as Kubernetes has patience. -/
theorem patch_asks {part : String} {p : KubePatch} :
    (Kubernetes.patch r.collection r.name part p).Asks P := by
  refine Kubernetes.patch_asks (fun path sendable => write path p ?_) patience
  rw [String.append_assoc, String.append_assoc] at sendable
  exact Kubernetes.ofRecords_of_sendable sendable

theorem patchFinalizers_asks {finalizers : List String} :
    (r.patchFinalizers finalizers).Asks P :=
  Action.Asks.bind (patch_asks write patience) fun _ => Action.asks_pure

theorem ensureFinalizer_asks : (r.ensureFinalizer finalizer).Asks P := by
  unfold ensureFinalizer
  split
  · exact patchFinalizers_asks write patience
  · exact Action.asks_pure

/-- To remove a finalizer only Kubernetes is spoken to. -/
theorem removeFinalizer_asks : (r.removeFinalizer finalizer).Asks P := by
  unfold removeFinalizer
  split
  · exact Action.asks_pure
  case h_2 finalizers found =>
    refine Program.Asks.bind (patchFinalizers_asks write patience) fun result => ?_
    cases result with
    | ok u => exact .done _
    | error e =>
        dsimp only
        split <;> exact .done _

theorem patchMarkers_asks {markers : StringMap String} : (r.patchMarkers markers).Asks P :=
  Action.Asks.bind (patch_asks write patience) fun _ => Action.asks_pure

end Record

/-- An outcome that does not release the finalizer asks what it takes to write the status, the
secret and the annotations. -/
theorem Outcome.apply_asks {o : Outcome} {r : Record} (held : o.removeFinalizer = false)
    (status : (r.patchStatus o.status).Asks P) (secret : ∀ info, (r.materialize info).Asks P)
    (markers : (r.patchMarkers o.status.markers).Asks P) : (o.apply r).Asks P := by
  unfold Outcome.apply
  rw [held, if_neg Bool.false_ne_true]
  have last : (if r.markersChanged o.status.markers then r.patchMarkers o.status.markers
      else pure () : Action Unit).Asks P := by
    split
    · exact markers
    · exact Action.asks_pure
  refine Action.asks_when status ?_
  cases o.connectionInfo with
  | none => exact last
  | some info => exact Action.Asks.bind (secret info) fun _ => last

/-- Such an outcome is written down without an error only if the status and the annotations are, as
far as they differ from what was read. -/
theorem Outcome.apply_returns {o : Outcome} {r : Record} {t : Exchange}
    (held : o.removeFinalizer = false) (yields : (o.apply r).Yields t (.ok ())) :
    (ResourceStatus.changed r.status o.status = true →
        ∃ part ⊆ t, (r.patchStatus o.status).Yields part (.ok ())) ∧
      (r.markersChanged o.status.markers = true →
        ∃ part ⊆ t, (r.patchMarkers o.status.markers).Yields part (.ok ())) := by
  unfold Outcome.apply at yields
  rw [held, if_neg Bool.false_ne_true] at yields
  obtain ⟨status, rest, sub, yields⟩ := Action.yields_when yields
  refine ⟨status, fun changed => ?_⟩
  dsimp only at yields
  rw [if_pos changed] at yields
  -- The annotations come last, behind the secret.
  split at yields
  · obtain ⟨e, -, failed⟩ | ⟨first, name, second, rfl, -, yields⟩ := Action.yields_bind.mp yields
    · cases failed
    · exact ⟨second, List.Subset.trans (List.subset_append_right ..) sub, yields⟩
  · exact ⟨rest, sub, yields⟩

/-- The path at which the connection secret of a record is written, for a record that has one. -/
def Record.connectionPath? (r : Record) : Option String :=
  if r.hasConnectionSecret then Kubernetes.sendablePath?
    ((Secret.collection r.namespaceName).path ++ "/" ++ r.secretName)
  else none

/-- A frame that also allows to ask for the time, and to write records and the connection secret of
one of them. -/
structure PermitsReconcile (r : Record) (P : Question → Prop) : Prop extends Permits P where
  record : ∀ path patch, Kubernetes.OfRecords path → P (.kube ⟨path, some patch⟩)
  secret : ∀ path patch, r.connectionPath? = some path → P (.kube ⟨path, some patch⟩)
  now : P .now

namespace PermitsReconcile

variable {r : Record} (permits : PermitsReconcile r P)
include permits

/-- A connection secret is written at the path that the frame permits. -/
theorem materialize {info : ConnectionInfo} : (r.materialize info).Asks P := by
  unfold Record.materialize Record.connectionSecret?
  cases wanted : r.hasConnectionSecret with
  | false => exact Action.asks_pure
  | true =>
      split
      · exact Action.asks_pure
      · refine Action.Asks.bind ?_ fun _ => Action.asks_pure
        refine Kubernetes.patch_asks (fun path sendable => permits.secret path _ ?_)
          (permits.patience _)
        rw [String.append_empty] at sendable
        rw [Record.connectionPath?, if_pos wanted, sendable]

/-- Whatever an outcome is, to write it down stays inside a frame that permits the writes of its
record. -/
theorem apply {o : Outcome} : (o.apply r).Asks P := by
  cases released : o.removeFinalizer with
  | true =>
      rw [Outcome.apply, if_pos released]
      exact Record.removeFinalizer_asks permits.record (permits.patience _)
  | false =>
      refine Outcome.apply_asks released ?_ (fun _ => permits.materialize)
        (Record.patchMarkers_asks permits.record (permits.patience _))
      exact Action.Asks.bind (Record.patch_asks permits.record (permits.patience _))
        fun _ => Action.asks_pure

/-- A pass over a record stays inside a frame that permits what its kind asks and what it writes. -/
theorem runPass {base : Url} {settings : Settings} : (r.runPass base settings).Asks P := by
  refine Action.Asks.bind (Action.Asks.lift (Program.asks_question permits.now)) fun now => ?_
  refine Action.Asks.bind (Action.Asks.lift (permits.reconcile base r settings now)) fun o => ?_
  refine Action.Asks.bind permits.apply fun _ => ?_
  exact Action.Asks.bind (Action.Asks.lift (countAll_asks permits.count _)) fun _ =>
    Action.asks_pure

/-- **A pass over a record as it is stored stays inside every frame that permits its calls.** -/
theorem passIfHeld {base : Url} {settings : Settings} : (r.passIfHeld base settings).Asks P := by
  unfold Record.passIfHeld
  split
  · split
    · exact permits.runPass
    · exact Action.asks_pure
  · exact Action.Asks.bind (Record.ensureFinalizer_asks permits.record (permits.patience _))
      fun _ => permits.runPass

end PermitsReconcile

/-- A frame that also allows to write to Kubernetes and to ask for the time. -/
structure PermitsWriting (P : Question → Prop) : Prop extends Permits P where
  write : ∀ path patch, P (.kube ⟨path, some patch⟩)
  now : P .now

namespace PermitsWriting

variable (permits : PermitsWriting P)
include permits

/-- Such a frame does not ask which record it is. -/
theorem permitsReconcile (r : Record) : PermitsReconcile r P where
  toPermits := permits.toPermits
  record path patch _ := permits.write path patch
  secret path patch _ := permits.write path patch
  now := permits.now

/-- **Under its lock a reconcile stays inside every frame that permits its calls.** -/
theorem reread {base : Url} {r : Record} {settings : Settings} :
    (r.reread base settings).Asks P := by
  refine Action.Asks.bind ?_ fun stored => ?_
  · refine Program.Asks.bind (Kubernetes.readOnce_asks fun path _ => permits.read path)
      fun read => ?_
    cases read <;> exact .done _
  · cases stored with
    | none => exact Action.asks_pure
    | some stored => exact (permits.permitsReconcile stored).passIfHeld

end PermitsWriting

/-! ## Around the pass -/

/-- The time, and the counting. -/
def Question.tallies : Question → Bool
  | .now => true
  | .count _ => true
  | _ => false

/-- **A pass asks for the time, does what follows for the resource, and writes down what it
decided.** What is left then is to count, and it succeeds only if all was written down. -/
theorem Record.runPass_course {base : Url} {r : Record} {settings : Settings} {t : Exchange}
    {result : Except OperatorError ControllerAction}
    (yields : (r.runPass base settings).Yields t result) :
    ∃ now passed o written applied counted,
      t = ⟨.now, now⟩ :: (passed ++ (written ++ counted)) ∧
        (r.reconcile base settings now).Yields passed o ∧ (o.apply r).Yields written applied ∧
        (∀ action, result = .ok action → applied = .ok ()) ∧
        ∀ entry ∈ counted, entry.1.tallies = true := by
  obtain ⟨timed, now, rest, rfl, time, afterNow⟩ := Action.yields_lift_bind.mp yields
  obtain ⟨passed, o, rest, rfl, reconciled, afterPass⟩ := Action.yields_lift_bind.mp afterNow
  obtain ⟨answer, ended, rfl, ending⟩ := Program.yields_ask.mp time
  obtain ⟨rfl, rfl⟩ := Program.yields_done.mp ending
  obtain ⟨e, written, failed⟩ | ⟨written, u, counted, rfl, applied, counts⟩ :=
    Action.yields_bind.mp afterPass
  · refine ⟨_, passed, o, rest, .error e, [], by simp, reconciled, written, ?_, by simp⟩
    rintro action rfl
    cases failed
  · refine ⟨_, passed, o, written, .ok u, counted, rfl, reconciled, applied, fun _ _ => rfl, ?_⟩
    have asks : (liftM (countAll (o.events r.kind.name)) : Action Unit).Asks fun q =>
        q.tallies = true := Action.Asks.lift (countAll_asks (fun _ => rfl) _)
    exact (Action.Asks.bind asks fun _ => Action.asks_pure).of_mem counts

/-! ## Around the lock -/

/-- **A reconcile asks for the time, takes its lock, reads its record again and does what follows,
and gives the lock back.**  What is left then is to count. -/
theorem Record.controlCounted_course {base : Url} {r : Record} {settings : Settings} {t : Exchange}
    {result : Except OperatorError ControllerAction}
    (yields : (r.controlCounted base settings).Yields t result) :
    ∃ start inner counted,
      t = ⟨.now, start⟩ :: ⟨.acquire r.key, ()⟩ :: (inner ++ ⟨.release r.key, ()⟩ :: counted) ∧
        (r.reread base settings).Yields inner result ∧
        ∀ entry ∈ counted, entry.1.tallies = true := by
  obtain ⟨start, rest, rfl, afterStart⟩ := Program.yields_question_bind.mp yields
  obtain ⟨controlled, controls, counted, rfl, control, afterControl⟩ :=
    Program.yields_bind.mp afterStart
  obtain ⟨u, rest, rfl, afterAcquire⟩ := Program.yields_question_bind.mp control
  obtain ⟨inner, ended, released, rfl, reread, afterReread⟩ := Program.yields_bind.mp afterAcquire
  obtain ⟨u, rest, rfl, afterRelease⟩ := Program.yields_question_bind.mp afterReread
  obtain ⟨rfl, rfl⟩ := Program.yields_done.mp afterRelease
  obtain ⟨finish, rest, rfl, afterFinish⟩ := Program.yields_question_bind.mp afterControl
  -- The result is counted, and handed on.
  have counts : (∀ entry ∈ rest, entry.1.tallies = true) ∧ result = controls := by
    cases controls with
    | ok action =>
        dsimp only at afterFinish
        obtain ⟨u, rest, rfl, ending⟩ := Program.yields_question_bind.mp afterFinish
        obtain ⟨rfl, rfl⟩ := Program.yields_done.mp ending
        exact ⟨List.forall_mem_singleton.mpr rfl, rfl⟩
    | error e =>
        dsimp only at afterFinish
        obtain ⟨u, rest, rfl, again⟩ := Program.yields_question_bind.mp afterFinish
        obtain ⟨u, rest, rfl, ending⟩ := Program.yields_question_bind.mp again
        obtain ⟨rfl, rfl⟩ := Program.yields_done.mp ending
        exact ⟨List.forall_mem_cons.mpr ⟨rfl, List.forall_mem_singleton.mpr rfl⟩, rfl⟩
  obtain ⟨counts, rfl⟩ := counts
  exact ⟨start, inner, ⟨.now, finish⟩ :: rest, by simp, reread,
    List.forall_mem_cons.mpr ⟨rfl, counts⟩⟩

end ServiceOperator
