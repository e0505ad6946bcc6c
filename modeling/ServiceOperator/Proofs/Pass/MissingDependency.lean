import ServiceOperator.Proofs.Pass.Runs

/-!
# Blocked after a missing dependency

A dependency that is missing may appear without a change of the record, so a pass that gave up for
want of one does not block the next.  What keeps the next pass free is the reason in the failure
condition; the failed generation stays noted beside it.  A pass that then fails in another way, or
waits, writes another reason over the first and leaves the generation noted: it asks to come back
after a delay, and when it comes back it is blocked.

`blocked_after_timed_requeue_iff` says exactly when.  The invariant behind it is `isRun_lacks_iff`:
the two entries of a status spell out what the run has been through.

### Why a resource that is gone matters here

The exit of a pass that finds its resource gone is the only one that leaves the failure condition
alone, and it leaves the failed generation alone as well.  So it neither makes a lack nor ends one,
and `LacksDependency` allows it behind the failure.  Every other exit writes a reason of its own or
clears it, which is what `notesLack_step` goes through, conclusion by conclusion.
-/

namespace ServiceOperator

section Runs

variable {R : Type} {run : List (CompletedPass R)} {pass last : CompletedPass R} {generation : Int}
  {s : ResourceStatus}

/-- The last failure of a run is that the generation lacks a dependency.  Since then the resource
was at most found gone. -/
def LacksDependency (generation : Int) (run : List (CompletedPass R)) : Prop :=
  ∃ earlier cause later, run = earlier ++ cause :: later ∧
    cause.subject.generation = generation ∧
    cause.outcome.errorReason = some .dependencyMissing ∧
    ∀ pass ∈ later, FoundGone pass.outcome.step pass.asked

theorem not_lacksDependency_nil : ¬ LacksDependency (R := R) generation [] := by
  rintro ⟨earlier, cause, later, split, -⟩
  simp at split

/-- A run ends in a lack if its last pass fails for one, or finds the resource gone after such a
run. -/
theorem lacksDependency_snoc :
    LacksDependency generation (run ++ [pass]) ↔
      (pass.subject.generation = generation ∧
        pass.outcome.errorReason = some .dependencyMissing) ∨
      (FoundGone pass.outcome.step pass.asked ∧ LacksDependency generation run) := by
  constructor
  · rintro ⟨earlier, cause, later, split, same, lacks, gone⟩
    rcases List.eq_nil_or_concat later with rfl | ⟨later, final, rfl⟩
    · obtain ⟨rfl, rfl⟩ := List.append_singleton_inj.mp split
      exact .inl ⟨same, lacks⟩
    · rw [List.concat_eq_append] at split gone
      rw [← List.cons_append, ← List.append_assoc] at split
      obtain ⟨rfl, rfl⟩ := List.append_singleton_inj.mp split
      refine .inr ⟨gone _ (by simp), earlier, cause, later, rfl, same, lacks, ?_⟩
      intro pass member
      exact gone pass (by simp [member])
  · rintro (⟨same, lacks⟩ | ⟨found, earlier, cause, later, rfl, same, lacks, gone⟩)
    · exact ⟨run, pass, [], rfl, same, lacks, by simp⟩
    · refine ⟨earlier, cause, later ++ [pass], by simp, same, lacks, ?_⟩
      intro other member
      rcases List.mem_append.mp member with before | final
      · exact gone other before
      · rw [List.mem_singleton.mp final]
        exact found

/-- A status notes a generation as failed for want of a dependency. -/
def ResourceStatus.NotesLack (s : ResourceStatus) (generation : Int) : Prop :=
  s.failedGeneration = some generation ∧ s.errorReason? = some Reason.dependencyMissing.text

/-- One pass over a living record: the lack is noted afterwards if this pass met it, or if it was
noted before and the pass found the resource gone. -/
theorem notesLack_step (alive : pass.subject.deletionRequested = false) :
    pass.outcome.status.NotesLack generation ↔
      (pass.subject.generation = generation ∧
        pass.outcome.errorReason = some .dependencyMissing) ∨
      (FoundGone pass.outcome.step pass.asked ∧ pass.subject.status.NotesLack generation) := by
  unfold ResourceStatus.NotesLack
  cases pass.ending alive with
  | blocked blocks present same silent =>
      have other : ¬ pass.outcome.status.errorReason? = some Reason.dependencyMissing.text := by
        rw [same]
        exact blocks.2
      simp [other, present, silent]
  | gone free found failed reported silent =>
      simp [failed, reported, found, silent]
  | ended free present kept ending =>
      cases ending with
      | @givenUp reason given reported failure =>
          have sameReason : reason.text = Reason.dependencyMissing.text ↔
              reason = .dependencyMissing :=
            ⟨Reason.text_injective, congrArg Reason.text⟩
          simp [given, reported, failure, present, sameReason]
      | goesOn kept reported failure => simp [reported, failure, present]

/-- **What a status notes, its run has been through.** -/
theorem isRun_lacks_iff (isRun : IsRun run s) :
    s.NotesLack generation ↔ LacksDependency generation run := by
  -- The induction follows the run, and `notesLack_step` is what its last pass adds.
  induction isRun with
  | nil =>
      refine iff_of_false ?_ not_lacksDependency_nil
      rintro ⟨failed, -⟩
      cases failed
  | snoc earlier alive ih => rw [notesLack_step alive, lacksDependency_snoc, ih]

/-- **When a record that was to come back after a delay is blocked.**  Let a run of passes over a
living record end in a pass that asks to come back after a delay.  The next pass at the same
generation is blocked if and only if

* the failure that the run had come to before its last pass is that this generation lacks a
  dependency,
* the last pass neither applied the generation nor converged, so that the generation is still noted
  as failed, and
* the last pass did not find the resource gone, which would have left the failure condition alone.
  -/
theorem blocked_after_timed_requeue_iff {delay : Duration} {fingerprint : Option String}
    {replaces : Bool} (earlier : IsRun run last.subject.status)
    (alive : last.subject.deletionRequested = false)
    (timed : last.outcome.requeue = .after delay) :
    plan last.outcome.status ⟨last.subject.generation, false, fingerprint⟩ replaces = .blocked ↔
      LacksDependency last.subject.generation run ∧
        last.outcome.status.failedGeneration.isSome = true ∧
        ¬ FoundGone last.outcome.step last.asked := by
  have planned : plan last.outcome.status ⟨last.subject.generation, false, fingerprint⟩ replaces =
      .blocked ↔ last.outcome.status.Blocks last.subject.generation := by
    simp [plan_eq_blocked_iff]
  rw [planned, ← isRun_lacks_iff earlier]
  cases last.ending alive with
  | blocked _ _ _ _ waits => simp [timed] at waits
  | gone free found failed reported =>
      refine iff_of_false ?_ fun condition => condition.2.2 found
      rintro ⟨stillFailed, stillReported⟩
      exact free ⟨failed ▸ stillFailed, reported ▸ stillReported⟩
  | @ended failed free present kept ending =>
      cases ending with
      | givenUp _ _ _ waits => simp [timed] at waits
      | goesOn keeps reported =>
          -- A pass that goes on notes no generation of its own.
          have noted : last.outcome.status.failedGeneration = none ∨
              last.outcome.status.failedGeneration = last.subject.status.failedGeneration := by
            rcases keeps with same | cleared
            · rcases kept with before | cleared
              · exact .inr (same.trans before)
              · exact .inl (same.trans cleared)
            · exact .inl cleared
          constructor
          · rintro ⟨stillFailed, -⟩
            have before := noted.resolve_left (by simp [stillFailed])
            rw [stillFailed] at before
            have reason := Decidable.not_not.mp fun other => free ⟨before.symm, other⟩
            exact ⟨⟨before.symm, reason⟩, by rw [stillFailed]; rfl, present⟩
          · rintro ⟨⟨before, -⟩, stillFailed, -⟩
            have same := noted.resolve_left (Option.ne_none_iff_isSome.mpr stillFailed)
            exact ⟨same.trans before, reported⟩

end Runs

/-! ## A dependency that is missing, then there and not ready -/

namespace Lacking

/-- What can be read off a resource has no part in this. -/
def profile : Profile Unit where
  identity := .server
  requiresReplace := false
  isReady _ := true
  observedState _ := "active"
  remoteId _ := "acl-1"
  matchesExisting _ := true
  needsUpdate _ := false

/-- Surroundings in which the preconditions fail and nothing else does. -/
def answer (precondition : OperatorError) : (c : Call Unit) → c.Answer
  | .sourceFingerprint => .ok none
  | .checkPreconditions => .error precondition
  | .create => .ok "acl-1"
  | .update _ => .ok ()
  | .get _ => .ok ()
  | .delete _ => .ok ()
  | .connectionInfo _ => .ok .empty

/-- A pass from a status in such surroundings. -/
def pass (status : ResourceStatus) (precondition : OperatorError) (second : Int) :
    CompletedPass Unit :=
  .against (answer precondition) profile ⟨"KafkaACL", "acl", 1, false, status⟩ .standard ⟨second, 0⟩

/-- The service is not there. -/
def first : CompletedPass Unit :=
  pass .initial (.dependencyMissing "service ns/s does not exist") 0

/-- A minute later it is there and does not run yet. -/
def second : CompletedPass Unit :=
  pass first.outcome.status (.dependencyNotReady "service ns/s is not ready") 60

theorem isRun_first : IsRun [first] second.subject.status :=
  show IsRun ([] ++ [first]) first.outcome.status from .snoc .nil rfl

end Lacking

/-- A record whose service was missing and then came up is blocked, though its last pass asked to
come back after the poll interval. -/
theorem blocked_after_timed_requeue_lacking :
    Lacking.second.outcome.requeue = .after Settings.standard.pollInterval ∧
      plan Lacking.second.outcome.status ⟨1, false, none⟩ false = .blocked := by
  have timed : Lacking.second.outcome.requeue = .after Settings.standard.pollInterval := rfl
  refine ⟨timed, (blocked_after_timed_requeue_iff Lacking.isRun_first rfl timed).mpr ⟨?_, rfl, ?_⟩⟩
  · exact ⟨[], Lacking.first, [], rfl, rfl, rfl, by simp⟩
  · exact not_foundGone_of_step (by decide)

/-- A pass that asks to come back after a delay is not always followed by one that is free. -/
theorem not_free_after_timed_requeue :
    ¬ ∀ (R : Type) (run : List (CompletedPass R)) (last : CompletedPass R) (delay : Duration)
      (fingerprint : Option String) (replaces : Bool),
      IsRun run last.subject.status → last.subject.deletionRequested = false →
        last.outcome.requeue = .after delay →
          plan last.outcome.status ⟨last.subject.generation, false, fingerprint⟩ replaces ≠
            .blocked := by
  intro free
  exact free Unit [Lacking.first] Lacking.second Settings.standard.pollInterval none false
    Lacking.isRun_first rfl rfl (by decide)

end ServiceOperator
