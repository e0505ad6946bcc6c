import ServiceOperator.Proofs.Pass.Runs

/-!
# Converging twice

A pass that returned connection info is followed, sooner or later, by one that meets the same
things.  That second pass must not touch the resource, and must leave the status as it is: a status
that changed at every pass would be stored at every pass, and each storing wakes the record up
again.

The argument has two halves.  Whichever step the first pass took, what it left behind is `Settled`,
with the source secret of the pass applied (`settled_of_connectionInfo`).  A pass over a settled
status is planned to observe, and observing the resource in the state that the status already names
is a fixed point (`Pass.converged_status_of_settled`), whatever the time.

### What a fixed point takes

`MeetsAgain` is not that the answers are the same.  The second pass may ask for less than the first
one did, and the resource that it is shown may differ in whatever the profile does not read.  What
has to be the same is the fingerprint of the source secret and the state of the resource, which
moreover is ready and has not drifted.  The times are allowed to differ: a condition that is set to
what it says keeps its stamp, and so the status is the same to the last field.
-/

namespace ServiceOperator

open Calls (Entry)

/-- The calls that make or destroy something. -/
def Call.changes {R : Type} : Call R → Bool
  | .create => true
  | .update _ => true
  | .delete _ => true
  | _ => false

section Convergence

variable {R : Type} {profile : Profile R} {subject : Subject} {settings : Settings}
  {now : Instant} {t : List (Entry R)} {o : Outcome}

/-- A pass that returns connection info has settled its record: by creating, adopting, updating or
replacing the resource, or by looking at it. -/
theorem settled_of_connectionInfo
    (yields : (reconcileOnce profile subject settings now).Yields t o)
    (connected : o.connectionInfo.isSome = true) :
    ∃ fingerprint rest state, t = .fingerprinted (.ok fingerprint) :: rest ∧
      Settled subject.generation state o.status ∧
      (fingerprint.isSome = true → fingerprint = o.status.sourceFingerprint) := by
  have course := reconcileOnce_course yields
  cases alive : subject.deletionRequested with
  | true =>
      rw [(Pass.delete_keeps (course.deletion alive)).2] at connected
      cases connected
  | false =>
      obtain ⟨-, -, none | ⟨fingerprint, rest, step, asked, reaches⟩⟩ := course.living alive
      · simp [none] at connected
      · cases reaches with
        | @intro q state info _ _ sameSubject known observed resourced =>
            refine ⟨fingerprint, rest, state, asked, ?_, resourced⟩
            have sameSubject : q.subject = subject := sameSubject
            subst sameSubject
            exact Pass.converged_settled known observed

/-- What one pass meets is what an earlier one met: the same fingerprint of the source secret, and
behind every get a resource in the given state that has converged and has not drifted away, whose
connection info can be read. -/
structure MeetsAgain (profile : Profile R) (state : Option String)
    (earlier later : List (Entry R)) :
    Prop where
  fingerprint : ∀ answer again, .fingerprinted answer ∈ earlier → .fingerprinted again ∈ later →
    again = answer
  remote : ∀ id answer, .got id answer ∈ later → ∃ remote, answer = .ok remote ∧
    some (profile.observedState remote) = state ∧ profile.isReady remote = true ∧
      profile.needsUpdate remote = false
  connectionInfo : ∀ remote answer, .connected remote answer ∈ later → ∃ info, answer = .ok info

namespace MeetsAgain

variable {state : Option String} {earlier later : List (Entry R)}

theorem tail {entry : Entry R} (meets : MeetsAgain profile state earlier (entry :: later)) :
    MeetsAgain profile state earlier later where
  fingerprint _ _ asked again := meets.fingerprint _ _ asked (List.mem_cons_of_mem _ again)
  remote _ _ asked := meets.remote _ _ (List.mem_cons_of_mem _ asked)
  connectionInfo _ _ asked := meets.connectionInfo _ _ (List.mem_cons_of_mem _ asked)

theorem not_got_error (meets : MeetsAgain profile state earlier later) {id : Option String}
    {e : OperatorError} : .got id (.error e) ∉ later := by
  intro asked
  obtain ⟨remote, same, -⟩ := meets.remote _ _ asked
  cases same

/-- A resource that is met again is found in the state in which it was, ready and without drift. -/
theorem of_got_ok (meets : MeetsAgain profile state earlier later) {id : Option String}
    {remote : R} (asked : .got id (.ok remote) ∈ later) :
    some (profile.observedState remote) = state ∧ profile.isReady remote = true ∧
      profile.needsUpdate remote = false := by
  obtain ⟨remote, same, met⟩ := meets.remote _ _ asked
  cases same
  exact met

theorem not_connected_error (meets : MeetsAgain profile state earlier later) {remote : R}
    {e : OperatorError} : .connected remote (.error e) ∉ later := by
  intro asked
  obtain ⟨info, same⟩ := meets.connectionInfo _ _ asked
  cases same

end MeetsAgain

/-- A look at a resource that is met again changes nothing, and leaves a settled status as it is. -/
theorem Pass.look_again {p : Pass R} {state : String} {generation : Int}
    {earlier t : List (Entry R)} {o : Outcome} (course : Pass.LookCourse p .atRest t o)
    (settled : Settled generation state p.status)
    (meets : MeetsAgain p.profile (some state) earlier t) :
    o.step = p.step ∧ o.status = p.status ∧ ∀ entry ∈ t, entry.1.changes = false := by
  cases course with
  | gone => exact absurd (List.mem_cons_self ..) meets.not_got_error
  | unseen absent fresh => cases fresh
  | unread => exact absurd (List.mem_cons_self ..) meets.not_got_error
  | corrected rest drifted =>
      obtain ⟨-, -, steady⟩ := meets.of_got_ok (List.mem_cons_self ..)
      simp [drifted] at steady
  | goneUncorrected rest drifted =>
      obtain ⟨-, -, steady⟩ := meets.of_got_ok (List.mem_cons_self ..)
      simp [drifted] at steady
  | uncorrected rest drifted =>
      obtain ⟨-, -, steady⟩ := meets.of_got_ok (List.mem_cons_self ..)
      simp [drifted] at steady
  | waiting steady unready =>
      obtain ⟨-, ready, -⟩ := meets.of_got_ok (List.mem_cons_self ..)
      simp [unready] at ready
  | unconnected => exact absurd (List.mem_cons_self ..) meets.tail.not_connected_error
  | converged =>
      obtain ⟨sameState, -⟩ := meets.of_got_ok (List.mem_cons_self ..)
      rw [Option.some.inj sameState]
      refine ⟨rfl, Pass.converged_status_of_settled settled, ?_⟩
      simp [Call.changes]

/-- **Convergence is idempotent.**  Let a pass return connection info.  A second pass over the same
generation, from the status that the first one returned and at whatever time, that meets the same
things takes the step that observes, changes nothing outside, and returns the status that it
started from, which is therefore not stored again. -/
theorem second_pass_observes {first second : CompletedPass R}
    (connected : first.outcome.connectionInfo.isSome = true)
    (sameKind : second.profile = first.profile)
    (sameGeneration : second.subject.generation = first.subject.generation)
    (alive : second.subject.deletionRequested = false)
    (handedOn : second.subject.status = first.outcome.status)
    (meets : MeetsAgain first.profile first.outcome.status.state first.asked second.asked) :
    second.outcome.step = .observe ∧ (∀ entry ∈ second.asked, entry.1.changes = false) ∧
      second.outcome.status = second.subject.status ∧
      ResourceStatus.changed (some second.subject.status) second.outcome.status = false := by
  obtain ⟨fingerprint, rest, state, asked, settled, resourced⟩ :=
    settled_of_connectionInfo first.yields connected
  rw [← handedOn] at settled resourced
  rw [← handedOn, settled.state, ← sameKind] at meets
  rw [← sameGeneration] at settled
  have sameSecret {again} (askedAgain : Entry.fingerprinted again ∈ second.asked) :
      again = .ok fingerprint :=
    meets.fingerprint _ _ (asked ▸ List.mem_cons_self ..) askedAgain
  obtain ⟨profile, subject, settings, now, asked, o, yields⟩ := second
  cases reconcileOnce_course yields with
  | deleting requested => cases requested.symm.trans alive
  | blocked _ blocks =>
      rw [ResourceStatus.Blocks, settled.free] at blocks
      cases blocks.1
  | unresourced => cases sameSecret (List.mem_cons_self ..)
  | lived _ _ course =>
      cases sameSecret (List.mem_cons_self ..)
      -- The step is planned from what is settled alone; the clock has no part in it.
      have planned : subject.plan fingerprint profile.requiresReplace = .observe :=
        plan_eq_observe alive settled.free settled.known settled.observed resourced
          (settled.running.isTrue rfl)
      rw [planned] at course
      obtain ⟨step, status, changes⟩ := Pass.look_again (course.look (.inr rfl)) settled meets.tail
      refine ⟨step, ?_, status, ?_⟩
      · simpa [Call.changes] using changes
      · rw [status]
        exact ResourceStatus.changed_self _

end Convergence

/-! ## A resource that is created and stays as it is -/

namespace Steady

/-- A resource of this profile is ready at once and never drifts away. -/
def profile : Profile Unit where
  identity := .name
  requiresReplace := false
  isReady _ := true
  observedState _ := "RUNNING"
  remoteId _ := "orders"
  matchesExisting _ := true
  needsUpdate _ := false

/-- Surroundings in which every call succeeds. -/
def answer : (c : Call Unit) → c.Answer
  | .sourceFingerprint => .ok (some "f")
  | .checkPreconditions => .ok ()
  | .create => .ok "orders"
  | .update _ => .ok ()
  | .get _ => .ok ()
  | .delete _ => .ok ()
  | .connectionInfo _ => .ok .empty

/-- A pass from a status at a second. -/
def pass (status : ResourceStatus) (second : Int) : CompletedPass Unit :=
  .against answer profile ⟨"PostgreSQL", "orders", 1, false, status⟩ .standard ⟨second, 0⟩

/-- The pass that creates the resource. -/
def first : CompletedPass Unit := pass .initial 0

/-- A pass an hour later. -/
def second : CompletedPass Unit := pass first.outcome.status 3600

/-- Whatever the two passes ask, they meet the same things. -/
theorem meetsAgain : MeetsAgain profile (some "RUNNING") first.asked second.asked where
  fingerprint _ _ asked askedAgain :=
    (Program.answer_of_mem_trace askedAgain).trans (Program.answer_of_mem_trace asked).symm
  remote _ _ asked := ⟨(), Program.answer_of_mem_trace asked, rfl, rfl, rfl⟩
  connectionInfo _ _ asked := ⟨.empty, Program.answer_of_mem_trace asked⟩

end Steady

/-- An hour after the resource was created, a pass changes nothing and stores nothing. -/
theorem second_pass_observes_steady :
    Steady.first.outcome.connectionInfo.isSome = true ∧
      Steady.second.outcome.step = .observe ∧
      (∀ entry ∈ Steady.second.asked, entry.1.changes = false) ∧
      Steady.second.outcome.status = Steady.second.subject.status ∧
      ResourceStatus.changed (some Steady.second.subject.status) Steady.second.outcome.status =
        false := by
  have connected : Steady.first.outcome.connectionInfo.isSome = true := rfl
  exact ⟨connected, second_pass_observes connected rfl rfl rfl rfl Steady.meetsAgain⟩

end ServiceOperator
