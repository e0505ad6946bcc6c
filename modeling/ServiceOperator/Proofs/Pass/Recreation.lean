import ServiceOperator.Proofs.Pass.Application
import ServiceOperator.Proofs.Pass.Convergence
import ServiceOperator.Proofs.Pass.TransportFailures

/-!
# A resource that is deleted behind the back of its record

A pass can notice in four ways that its resource is gone: by the get with which it waits, by the one
with which it observes, by the update that corrects a drift, and by the one that applies a new
generation.  All four are `MissesResource`, and all four are the last thing that the pass does
(`Pass.step_foundGone`).

The exit that they share forgets the resource and nothing else.  What the status says of a
generation that failed, and why, stays, so a record that was not blocked is not blocked afterwards,
and without a resource the one step that is left is to create (`Subject.plan_of_unknown`).  So the
resource is back two passes after it was last missed (`recreated_in_two_passes`).

### What is not assumed

Of the first pass it is assumed that it misses its resource; what its status says of earlier
failures is free.  Of the second one it is assumed that its calls succeed, because a create may
fail, and no more: in particular not that it reads the same source secret, as a record without a
resource is planned to create whatever is noted.  That two passes are enough is therefore no matter
of timing; nothing that the first pass leaves behind can lead the second one elsewhere.
-/

namespace ServiceOperator

open Calls (Entry)

variable {R : Type}

/-- A pass that takes a step with a resource was told that the resource is absent: by the get of a
step that rests, or by an update. -/
inductive MissesResource (step : Step) (asked : List (Entry R)) : Prop
  | looking {id : Option String} {e : OperatorError}
      (rests : step = .awaitReady ∨ step = .observe) (absent : e.isNotFound = true)
      (told : .got id (.error e) ∈ asked)
  | updating {id : String} {e : OperatorError}
      (present : step = .update ∨ step = .awaitReady ∨ step = .observe)
      (absent : e.isNotFound = true) (told : .updated id (.error e) ∈ asked)

section Entries

variable {step : Step} {asked : List (Entry R)} {entry other : Entry R}

/-- An absence that is not the first answer is among the later ones. -/
theorem mem_of_reportsAbsence (present : entry.reportsAbsence = false)
    (told : other ∈ entry :: asked) (absent : other.reportsAbsence = true) : other ∈ asked := by
  refine List.mem_of_ne_of_mem ?_ told
  rintro rfl
  cases present.symm.trans absent

/-- A first answer that is no absence can be left out. -/
theorem MissesResource.tail (missed : MissesResource step (entry :: asked))
    (present : entry.reportsAbsence = false) : MissesResource step asked := by
  cases missed with
  | looking rests absent told =>
      exact .looking rests absent (mem_of_reportsAbsence present told absent)
  | updating changes absent told =>
      exact .updating changes absent (mem_of_reportsAbsence present told absent)

theorem not_missesResource_nil : ¬ MissesResource (R := R) step [] := by
  rintro (⟨_, _, told⟩ | ⟨_, _, told⟩) <;> cases told

end Entries

namespace Pass

variable {p q : Pass R} {look : Look} {fingerprint : Option String} {t : List (Entry R)}
  {o : Outcome}

/-! ## The pass that misses the resource -/

/-- An absence that a look is told of is the last thing that it asks. -/
theorem LookCourse.last_of_absence {entry : Entry R} (course : LookCourse p look t o)
    (told : entry ∈ t) (absent : entry.reportsAbsence = true) : t.getLast? = some entry := by
  cases course with
  | gone | unseen | unread | waiting => exact congrArg some (List.mem_singleton.mp told).symm
  | corrected | goneUncorrected | uncorrected | unconnected | converged =>
      have told := mem_of_reportsAbsence rfl told absent
      exact congrArg some (List.mem_singleton.mp told).symm

/-- A look after a change of the resource changes nothing itself. -/
theorem LookCourse.appliesNothing_afterMutation (course : LookCourse p .afterMutation t o) :
    AppliesNothing t := by
  cases course with
  | gone absent rest | corrected rest | goneUncorrected rest | uncorrected rest => cases rest
  | unseen | unread | waiting | unconnected | converged => simp [AppliesNothing, Call.applies]

/-- **A step that misses its resource ends there.** -/
theorem step_foundGone (course : StepCourse p fingerprint t o) (missed : MissesResource p.step t) :
    FoundGone p.step t := by
  cases missed with
  | looking rests absent told =>
      exact .looking rests absent ((course.look rests).last_of_absence told absent)
  | @updating id e present absent told =>
      have last : t.getLast? = some (.updated id (.error e)) := by
        rcases present with update | rests
        · cases course with
          | looked step => simp [update] at step
          | unready => cases mem_of_reportsAbsence rfl told absent
          | goneUnchanged | unchanged =>
              have told := mem_of_reportsAbsence rfl told absent
              exact congrArg some (List.mem_singleton.mp told).symm
          | changed step look =>
              have told := mem_of_reportsAbsence rfl (mem_of_reportsAbsence rfl told absent) absent
              cases look.appliesNothing_afterMutation _ told
          | uncreated step | created step | undeleted step | unconfirmed step | lingering step
          | unreplaced step | replaced step => cases update.symm.trans step
        · exact (course.look rests).last_of_absence told absent
      exact .updating present absent last

/-- A pass that misses its resource ends there. -/
theorem ReconcileCourse.foundGone {profile : Profile R} {subject : Subject} {settings : Settings}
    {now : Instant} (course : ReconcileCourse profile subject settings now t o)
    (alive : subject.deletionRequested = false) (missed : MissesResource o.step t) :
    FoundGone o.step t := by
  cases course with
  | deleting requested => simp [requested] at alive
  | blocked => exact absurd missed not_missesResource_nil
  | unresourced => exact absurd (missed.tail rfl) not_missesResource_nil
  | lived _ _ course =>
      rw [(step_leaves course).step] at missed ⊢
      exact (foundGone_cons rfl).mpr (step_foundGone course (missed.tail rfl))

end Pass

/-- A pass ends with the exit of a resource that is gone: what its status says of the resource is
forgotten, and what it says of a failure is kept. -/
structure CompletedPass.Forgets (pass : CompletedPass R) : Prop where
  requeue : pass.outcome.requeue = .after pass.settings.pollInterval
  idle : pass.outcome.status.operationStartedAt = none
  unknown : pass.outcome.status.id = none
  free : ¬ pass.outcome.status.Blocks pass.subject.generation

/-- **A pass that misses its resource forgets it.**  It was not blocked, and nothing blocks its
record now. -/
theorem CompletedPass.forgets (pass : CompletedPass R)
    (alive : pass.subject.deletionRequested = false)
    (missed : MissesResource pass.outcome.step pass.asked) : pass.Forgets := by
  obtain ⟨profile, subject, settings, now, asked, o, yields⟩ := pass
  have course := reconcileOnce_course yields
  have found := course.foundGone alive missed
  rcases course.leaves alive with ⟨-, rfl, -⟩ | ⟨free, leaves⟩
  · exact absurd found not_foundGone_nil
  · generalize same : o.step = step at leaves
    cases leaves with
    | other becomes present => exact absurd (same ▸ found) present
    | @gone q becomes _ failed =>
        have requeue : q.externallyDeleted.requeue = .after settings.pollInterval :=
          congrArg (fun s : Settings => Requeue.after s.pollInterval) becomes.settings
        have reported : q.externallyDeleted.status.errorReason? = subject.status.errorReason? :=
          Pass.externallyDeleted_errorReason?.trans
            (congrArg (Condition.reason? · Condition.error) becomes.conditions)
        refine ⟨requeue, rfl, rfl, ?_⟩
        rintro ⟨blocked, other⟩
        exact free ⟨failed.symm.trans blocked, reported ▸ other⟩

/-! ## The pass that creates it again -/

/-- A record without a resource that nothing blocks is planned to create, whatever the source
secret. -/
theorem Subject.plan_of_unknown {subject : Subject} {fingerprint : Option String} {replaces : Bool}
    (alive : subject.deletionRequested = false)
    (free : ¬ subject.status.Blocks subject.generation) (unknown : subject.status.id = none) :
    subject.plan fingerprint replaces = .create := by
  unfold ResourceStatus.Blocks ResourceStatus.errorReason? at free
  rw [Subject.plan, ServiceOperator.plan, if_neg (Bool.eq_false_iff.mp alive), if_neg free, unknown]
  cases subject.status.observedGeneration <;> rfl

/-- Every call of a pass succeeds, and a resource that it gets is ready. -/
structure AllSucceed (profile : Profile R) (asked : List (Entry R)) : Prop where
  calls : ∀ entry ∈ asked, entry.failure? = none
  ready : ∀ id remote, .got id (.ok remote) ∈ asked → profile.isReady remote = true

/-- A pass has created a resource, and its record has converged with that resource and the present
generation applied to it. -/
structure CompletedPass.Creates (pass : CompletedPass R) (id : String) : Prop where
  created : .created (.ok id) ∈ pass.asked
  known : pass.outcome.status.id = some id
  observed : pass.outcome.status.observedGeneration = some pass.subject.generation
  running : pass.outcome.status.isRunning = true
  phase : pass.outcome.phase = .running

section AllSucceed

variable {profile : Profile R} {asked fewer : List (Entry R)} {entry : Entry R}

theorem AllSucceed.subset (succeeds : AllSucceed profile asked) (subset : fewer ⊆ asked) :
    AllSucceed profile fewer where
  calls entry member := succeeds.calls entry (subset member)
  ready id remote member := succeeds.ready id remote (subset member)

theorem AllSucceed.not_failed {e : OperatorError} (succeeds : AllSucceed profile asked)
    (failed : entry.failure? = some e) : entry ∉ asked :=
  fun member => by cases (succeeds.calls entry member).symm.trans failed

end AllSucceed

namespace Pass

variable {p q : Pass R} {look : Look} {fingerprint : Option String} {t : List (Entry R)}
  {o : Outcome}

/-- A look after a change of the resource that succeeds finds it converged. -/
theorem LookCourse.converges (course : LookCourse p .afterMutation t o)
    (succeeds : AllSucceed p.profile t) :
    ∃ info state, o = (p.sawState state).converged info state := by
  cases course with
  | gone absent rest | corrected rest | goneUncorrected rest | uncorrected rest => cases rest
  | unseen | unread => exact absurd (List.mem_cons_self ..) (succeeds.not_failed rfl)
  | waiting steady unready =>
      cases unready.symm.trans (succeeds.ready _ _ (List.mem_cons_self ..))
  | unconnected =>
      exact absurd (List.mem_cons_of_mem _ (List.mem_cons_self ..)) (succeeds.not_failed rfl)
  | converged => exact ⟨_, _, rfl⟩

/-- An attempt to come by a resource that succeeds creates it. -/
theorem ObtainCourse.creates_of_succeeds {result : Except OperatorError (String × Pass R)}
    (course : ObtainCourse p t result) (succeeds : AllSucceed p.profile t) :
    ∃ id, t = [.created (.ok id)] ∧ result = .ok (id, p.mark .created) := by
  cases course with
  | created => exact ⟨_, rfl, rfl⟩
  | refused | unread | foreign | adopted | conformed | unconformed =>
      exact absurd (List.mem_cons_self ..) (succeeds.not_failed rfl)

/-- A record that lives on and has converged is running. -/
theorem converged_phase {info : ConnectionInfo} {state : String}
    (alive : p.subject.deletionRequested = false) (held : p.removeFinalizer = false) :
    (p.converged info state).phase = .running := by
  have running : (p.converged info state).status.isRunning = true := converged_isRunning
  have steady : (p.converged info state).status.isFailing = false :=
    ResourceStatus.isFailing_setError
  change (if p.removeFinalizer then Phase.gone
    else Phase.of (p.converged info state).status p.subject.deletionRequested) = _
  rw [held, alive]
  simp [Phase.of, running, steady]

/-- A step that is to create and succeeds creates, and converges with what it has created. -/
theorem create_succeeds (course : StepCourse p fingerprint t o) (creates : p.step = .create)
    (succeeds : AllSucceed p.profile t) : ∃ id info state, .created (.ok id) ∈ t ∧
      o = (((p.beginOperation.mark .created).accept id fingerprint).sawState state).converged info
        state := by
  cases course with
  | looked step => simp [creates] at step
  | unready => exact absurd (List.mem_cons_self ..) (succeeds.not_failed rfl)
  | uncreated step obtains =>
      obtain ⟨id, -, failed⟩ :=
        obtains.creates_of_succeeds (succeeds.subset (List.subset_cons_self ..))
      cases failed
  | @created first second _ _ _ step obtains look =>
      have succeeds := succeeds.subset (List.subset_cons_self ..)
      obtain ⟨id, rfl, made⟩ :=
        obtains.creates_of_succeeds (succeeds.subset (List.subset_append_left ..))
      cases made
      obtain ⟨info, state, rfl⟩ :=
        look.converges (succeeds.subset (List.subset_append_right ..))
      exact ⟨_, info, state, List.mem_cons_of_mem _ (List.mem_cons_self ..), rfl⟩
  | goneUnchanged step | unchanged step | changed step | undeleted step | unconfirmed step
  | lingering step | unreplaced step | replaced step => cases creates.symm.trans step

end Pass

/-- **A record without a resource has one again after a pass that succeeds.** -/
theorem CompletedPass.creates (pass : CompletedPass R)
    (alive : pass.subject.deletionRequested = false)
    (free : ¬ pass.subject.status.Blocks pass.subject.generation)
    (unknown : pass.subject.status.id = none) (succeeds : AllSucceed pass.profile pass.asked) :
    ∃ id, pass.Creates id := by
  obtain ⟨profile, subject, settings, now, asked, o, yields⟩ := pass
  cases reconcileOnce_course yields with
  | deleting requested => cases requested.symm.trans alive
  | blocked _ blocks => exact absurd blocks free
  | unresourced => exact absurd (List.mem_cons_self ..) (succeeds.not_failed rfl)
  | @lived fingerprint t _ _ _ course =>
      have step : (Pass.start profile subject settings now
          (subject.plan fingerprint profile.requiresReplace)).step = .create :=
        Subject.plan_of_unknown alive free unknown
      obtain ⟨id, info, state, created, rfl⟩ :=
        Pass.create_succeeds course step (succeeds.subset (List.subset_cons_self ..))
      exact ⟨id, List.mem_cons_of_mem _ created, rfl, rfl, Pass.converged_isRunning,
        Pass.converged_phase alive rfl⟩

/-- **Out-of-band deletion heals in two passes.**  Let a pass over a record that is not being
deleted miss its resource: a pass that waits or observes by its get or by the update that corrects a
drift, one that applies a new generation by its update.  Then it comes back after the poll interval,
with no operation under way.  The next pass over the same generation, from the status that this one
returned, is planned to create whatever the source secret, and if all that it asks for succeeds and
the resource is ready, the record is running, with its generation applied to the resource that was
created. -/
theorem recreated_in_two_passes {first : CompletedPass R}
    (alive : first.subject.deletionRequested = false)
    (missed : MissesResource first.outcome.step first.asked) :
    (first.outcome.requeue = .after first.settings.pollInterval ∧
      first.outcome.status.operationStartedAt = none) ∧
    ∀ second : CompletedPass R, second.subject.generation = first.subject.generation →
      second.subject.deletionRequested = false → second.subject.status = first.outcome.status →
      (∀ fingerprint replaces, second.subject.plan fingerprint replaces = .create) ∧
        second.outcome.step = .create ∧
        (AllSucceed second.profile second.asked → ∃ id, second.Creates id) := by
  have forgets := first.forgets alive missed
  refine ⟨⟨forgets.requeue, forgets.idle⟩, ?_⟩
  intro second sameGeneration alive handedOn
  have free : ¬ second.subject.status.Blocks second.subject.generation := by
    rw [handedOn, sameGeneration]
    exact forgets.free
  have unknown : second.subject.status.id = none := handedOn ▸ forgets.unknown
  have planned (fingerprint : Option String) (replaces : Bool) :
      second.subject.plan fingerprint replaces = .create :=
    Subject.plan_of_unknown alive free unknown
  obtain ⟨fingerprint, step⟩ := (reconcileOnce_course second.yields).planned
  exact ⟨planned, step.trans (planned ..), second.creates alive free unknown⟩

/-! ## A resource that is missed when a new generation is applied -/

namespace Missed

/-- A record whose second generation failed for want of a dependency that has appeared since, with
the resource of its first generation. -/
def status : ResourceStatus :=
  { ResourceStatus.initial.setError true .dependencyMissing "no such service" "before" with
    id := some "orders"
    observedGeneration := some 1
    failedGeneration := some 2 }

/-- Surroundings in which all succeeds, except that an update misses the resource. -/
def answer : (c : Call Unit) → c.Answer
  | .update _ => .error (.notFound "service orders")
  | c => Steady.answer c

/-- The pass that is to apply the second generation. -/
def first : CompletedPass Unit :=
  .against answer Steady.profile ⟨"PostgreSQL", "orders", 2, false, status⟩ .standard ⟨0, 0⟩

/-- The pass after it. -/
def second : CompletedPass Unit :=
  .against answer Steady.profile ⟨"PostgreSQL", "orders", 2, false, first.outcome.status⟩ .standard
    ⟨15, 0⟩

/-- The resource is missed by the update. -/
theorem missed : MissesResource first.outcome.step first.asked :=
  .updating (.inl rfl) rfl (List.mem_of_getLast? rfl)

/-- The pass after it is not concerned by that. -/
theorem succeeds : AllSucceed second.profile second.asked where
  calls := by
    have all : second.asked.all (·.failure?.isNone) = true := rfl
    simpa using all
  ready _ _ _ := rfl

end Missed

/-- The pass after the one that missed the resource creates it, and the record is running. -/
theorem recreated_in_two_passes_missed :
    Missed.first.subject.deletionRequested = false ∧
      Missed.first.outcome.step = .update ∧ ∃ id, Missed.second.Creates id := by
  obtain ⟨-, next⟩ := @recreated_in_two_passes _ Missed.first rfl Missed.missed
  obtain ⟨-, -, creates⟩ := next Missed.second rfl rfl rfl
  exact ⟨rfl, rfl, creates Missed.succeeds⟩

end ServiceOperator
