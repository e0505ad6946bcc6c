import ServiceOperator.Proofs.Pass.OperationClock
import Mathlib.Data.List.Induction

/-!
# Operations that take long

An operation may take only so long.  Its clock is a text in the status, written by the pass that
begins the operation and read back by every later one, and it decides well as long as the record
stays as it is: the time of an operation runs out exactly when it is due (`overdue_iff_of_runs`).

It decides less well when the record is edited on the way.  The clock belongs to the operation that
is under way (`underWay`), and an edit begins no other: the passes over the new generation go on
with the clock that they find.  `timedOut_within_iff` says exactly when a generation is thereby
given up although all of its own passes are in time.

### Whose time it is

`underWay` tells the operation from the passes alone, without a look at any status: the last pass
that began one after all earlier ones were ended.  `IsRun.operationStartedAt` is the invariant of a
run, that the stamp in the status is the time of that pass.  A generation has no part in the
definition, and so the difference between the two theorems of this module is only in what is
compared: the time of the operation, or the time of the passes over one generation.
-/

namespace ServiceOperator

open Calls (Entry)

variable {R : Type}

/-! ## One generation -/

section OneGeneration

variable {start finish : ResourceStatus} {first pass : CompletedPass R}
  {run : List (CompletedPass R)} {generation : Int} {stamp : String}

theorem CompletedPass.clock_of_noted (noted : pass.subject.status.operationStartedAt = some stamp) :
    pass.clock = some stamp := by
  unfold CompletedPass.clock Calls.clock
  rw [noted]
  split <;> rfl

/-- Behind a pass whose time ran out nothing more of the generation is left unfinished. -/
theorem RunsFrom.eq_nil_of_timedOut (timedOut : pass.outcome.GaveUp .timeout)
    (runs : RunsFrom pass.outcome.status run finish)
    (alive : ∀ later ∈ run, later.subject.deletionRequested = false)
    (same : ∀ later ∈ run, later.subject.generation = pass.subject.generation)
    (unfinished : ∀ later ∈ run, later.Unfinished) : run = [] := by
  have notes := CompletedPass.notesFailure timedOut
  obtain ⟨rests, -⟩ := runs.rests (notes.blocks (by decide)) alive same
  cases run with
  | nil => rfl
  | cons later rest =>
      have nothing := (rests later (List.mem_cons_self ..)).nothing
      have left := unfinished later (List.mem_cons_self ..)
      rw [CompletedPass.Unfinished, nothing] at left
      exact absurd left not_unfinished_nil

/-- What a pass does that leaves an operation unfinished which began at an instant. -/
structure CompletedPass.Times (pass : CompletedPass R) (began : Instant) : Prop where
  timedOut : pass.outcome.GaveUp .timeout ↔ pass.Overdue began
  failed : pass.Overdue began →
    pass.outcome.status.NotesFailure pass.subject.generation .timeout
  kept : ¬ pass.Overdue began → pass.outcome.status.operationStartedAt = some began.stamp

/-- The step law: a pass that leaves its operation unfinished goes by the clock, if it can be
read. -/
theorem CompletedPass.Unfinished.times {began : Instant} (unfinished : pass.Unfinished)
    (alive : pass.subject.deletionRequested = false) (clock : pass.clock = some began.stamp)
    (readable : Instant.parse? began.stamp = some began) : pass.Times began := by
  have timedOut : pass.outcome.GaveUp .timeout ↔ pass.Overdue began := by
    rw [CompletedPass.timedOut_iff alive, clock, Option.bind_some, readable]
    have answered : ¬ pass.AnsweredTimeout := fun ⟨_, _, last⟩ =>
      not_unfinished_of_error last (.inl rfl) unfinished
    simp [answered, unfinished]
  refine ⟨timedOut, fun overdue => CompletedPass.notesFailure (timedOut.mpr overdue), ?_⟩
  intro early
  rw [CompletedPass.operationStartedAt_of_open alive, clock]
  intro closes
  exact early (timedOut.mp (unfinished.timedOut_of_closes alive closes))

/-- The passes that leave an operation unfinished all go by its clock. -/
theorem RunsFrom.times {began : Instant} (runs : RunsFrom start run finish)
    (noted : start.operationStartedAt = some began.stamp)
    (readable : Instant.parse? began.stamp = some began)
    (alive : ∀ pass ∈ run, pass.subject.deletionRequested = false)
    (same : ∀ pass ∈ run, pass.subject.generation = generation)
    (unfinished : ∀ pass ∈ run, pass.Unfinished) : ∀ pass ∈ run, pass.Times began := by
  -- Either the clock is carried on, or the time is over and the run ends.
  induction runs with
  | nil => simp
  | @cons pass rest finish later ih =>
      rw [List.forall_mem_cons] at alive same unfinished ⊢
      have times := unfinished.1.times alive.1 (CompletedPass.clock_of_noted noted) readable
      refine ⟨times, ?_⟩
      by_cases overdue : pass.Overdue began
      · have ends : rest = [] := later.eq_nil_of_timedOut (times.timedOut.mpr overdue) alive.2
          (fun next member => (same.2 next member).trans same.1.symm) unfinished.2
        simp [ends]
      · exact ih (times.kept overdue) alive.2 same.2 unfinished.2

/-- **The time of an operation runs out exactly when it is due.**  Let passes over one generation of
a record that is not being deleted start from a status without a clock, the first of them creating,
updating or replacing the resource, and let each of them leave the operation unfinished: it finds
the resource not ready, or fails in a way that may pass.  Then a pass gives the generation up for
the time exactly if more has passed since the first of them than an operation may take, and until
then the status has the stamp of the first. -/
theorem overdue_iff_of_runs (runs : RunsFrom start (first :: run) finish)
    (idle : start.operationStartedAt = none) (begins : first.outcome.step.isMutation = true)
    (alive : ∀ pass ∈ first :: run, pass.subject.deletionRequested = false)
    (same : ∀ pass ∈ first :: run, pass.subject.generation = generation)
    (unfinished : ∀ pass ∈ first :: run, pass.Unfinished)
    (valid : first.now.Valid) (year : 0 ≤ first.now.year ∧ first.now.year ≤ 9999) :
    ∀ pass ∈ first :: run,
      (pass.outcome.GaveUp .timeout ↔
        (pass.settings.creationTimeout.nanos : Int) < pass.now.nanosSince first.now) ∧
      (pass.outcome.GaveUp .timeout →
        pass.outcome.status.failedGeneration = some generation ∧
          pass.outcome.status.errorReason? = some Reason.timeout.text) ∧
      (¬ pass.outcome.GaveUp .timeout →
        pass.outcome.status.operationStartedAt = some first.now.stamp) := by
  have readable := Instant.parse?_stamp_of_year valid year.1 year.2
  -- The first pass starts the clock, and each later one finds it as the one before has left it.
  have times : ∀ pass ∈ first :: run, pass.Times first.now := by
    rw [List.forall_mem_cons] at alive same unfinished ⊢
    cases runs with
    | cons later =>
        have clock : first.clock = some first.now.stamp := by
          unfold CompletedPass.clock Calls.clock
          rw [if_pos (.inl begins), idle, Option.getD_none]
        have times := unfinished.1.times alive.1 clock readable
        refine ⟨times, ?_⟩
        by_cases overdue : first.Overdue first.now
        · rw [CompletedPass.Overdue, Instant.nanosSince_self] at overdue
          omega
        · exact later.times (times.kept overdue) readable alive.2 same.2 unfinished.2
  intro pass member
  obtain ⟨timedOut, failed, kept⟩ := times pass member
  refine ⟨timedOut, fun gaveUp => ?_, fun early => kept (mt timedOut.mpr early)⟩
  obtain ⟨noted, reported⟩ := failed (timedOut.mp gaveUp)
  exact ⟨noted.trans (congrArg some (same pass member)), reported⟩

end OneGeneration

namespace Slow

/-- A pass over a generation, from a status at a second, over a resource that is never ready. -/
def pass (generation : Int) (status : ResourceStatus) (second : Int) : CompletedPass Unit :=
  .against Steady.answer Flaky.profile ⟨"PostgreSQL", "orders", generation, false, status⟩ .standard
    ⟨second, 0⟩

/-- The pass that creates the resource. -/
def first : CompletedPass Unit := pass 1 .initial 0

/-- A pass ten minutes later. -/
def second : CompletedPass Unit := pass 1 first.outcome.status 600

/-- A pass after the twenty minutes that an operation may take. -/
def third : CompletedPass Unit := pass 1 second.outcome.status 1201

/-- The first pass over a record that was edited, at the same time. -/
def edited : CompletedPass Unit := pass 2 second.outcome.status 1201

/-- A resource that is found and is never ready leaves the operation unfinished. -/
theorem unfinished {pass : CompletedPass Unit} {id : String}
    (profile : pass.profile = Flaky.profile)
    (last : pass.asked.getLast? = some (.got (some id) (.ok ()))) : pass.Unfinished :=
  .notReady last (by rw [profile]; rfl)

end Slow

/-- A resource that is not ready after twenty minutes is given up, and not before. -/
theorem overdue_iff_of_runs_slow :
    Slow.second.outcome.status.operationStartedAt = some "1970-01-01T00:00:00+00:00" ∧
      Slow.third.outcome.GaveUp .timeout := by
  have runs : RunsFrom Slow.first.subject.status [Slow.first, Slow.second, Slow.third]
      Slow.third.outcome.status := by
    have last : RunsFrom Slow.third.subject.status [Slow.third] Slow.third.outcome.status :=
      .cons (.nil _)
    have later : RunsFrom Slow.second.subject.status [Slow.second, Slow.third]
      Slow.third.outcome.status := .cons last
    exact .cons later
  have alive : ∀ pass ∈ [Slow.first, Slow.second, Slow.third],
      pass.subject.deletionRequested = false := by
    simp only [List.forall_mem_cons]
    exact ⟨rfl, rfl, rfl, by simp⟩
  have same : ∀ pass ∈ [Slow.first, Slow.second, Slow.third], pass.subject.generation = 1 := by
    simp only [List.forall_mem_cons]
    exact ⟨rfl, rfl, rfl, by simp⟩
  have unfinished : ∀ pass ∈ [Slow.first, Slow.second, Slow.third], pass.Unfinished := by
    simp only [List.forall_mem_cons]
    exact ⟨Slow.unfinished rfl rfl, Slow.unfinished rfl rfl, Slow.unfinished rfl rfl, by simp⟩
  have times := overdue_iff_of_runs runs rfl rfl alive same unfinished
    ⟨by decide, by decide⟩ (by decide)
  simp only [List.forall_mem_cons] at times
  obtain ⟨-, ⟨second, -, kept⟩, ⟨third, -⟩, -⟩ := times
  have early : ¬ Slow.second.outcome.GaveUp .timeout := mt second.mp (by decide)
  have stamp : Slow.first.now.stamp = "1970-01-01T00:00:00+00:00" := by decide
  exact ⟨(kept early).trans (congrArg some stamp), third.mpr (by decide)⟩

/-! ## Generations that follow each other -/

/-- The pass that began the operation which a run of passes leaves under way. -/
def underWay (run : List (CompletedPass R)) : Option (CompletedPass R) :=
  run.foldl (fun opener pass =>
    if pass.Closes then none else opener.or (if pass.Begins then some pass else none)) none

section Generations

variable {run : List (CompletedPass R)} {pass opener : CompletedPass R} {finish : ResourceStatus}

/-- One more pass ends the operation that is under way, goes on with it, or begins one. -/
theorem underWay_append : underWay (run ++ [pass]) =
    if pass.Closes then none else (underWay run).or (if pass.Begins then some pass else none) := by
  rw [underWay, List.foldl_append]
  rfl

/-- An operation that is under way was begun by one of the passes. -/
theorem mem_of_underWay (begun : underWay run = some opener) : opener ∈ run := by
  induction run using List.reverseRecOn with
  | nil => cases begun
  | append_singleton run pass ih =>
      rw [underWay_append] at begun
      split at begun
      case isTrue => cases begun
      case isFalse =>
          rcases Option.or_eq_some_iff.mp begun with before | ⟨-, now⟩
          · exact List.mem_append_left _ (ih before)
          · split at now
            · cases now
              exact List.mem_append_right _ (List.mem_singleton_self _)
            · cases now

/-- What the clock shows behind the calls of a pass, told by the passes before it. -/
theorem CompletedPass.clock_eq (noted : pass.subject.status.operationStartedAt =
      (underWay run).map (·.now.stamp)) :
    pass.clock =
      ((underWay run).or (if pass.Begins then some pass else none)).map (·.now.stamp) := by
  unfold CompletedPass.clock Calls.clock
  rw [noted]
  cases underWay run with
  | none =>
      by_cases begins : pass.Begins
      · rw [if_pos begins, if_pos begins]
        rfl
      · rw [if_neg begins, if_neg begins]
        rfl
  | some opener => split <;> rfl

/-- **The clock is that of the operation under way.** -/
theorem IsRun.operationStartedAt (isRun : IsRun run finish) :
    finish.operationStartedAt = (underWay run).map (·.now.stamp) := by
  induction isRun with
  | nil => rfl
  | @snoc run pass before alive ih =>
      rw [underWay_append]
      by_cases closes : pass.Closes
      · rw [if_pos closes]
        exact CompletedPass.operationStartedAt_of_closes alive closes
      · rw [if_neg closes, CompletedPass.operationStartedAt_of_open alive closes]
        exact CompletedPass.clock_eq ih

/-- When the time of a run is over: the pass was told so, or it leaves an operation unfinished that
a pass before it began too long ago. -/
theorem timedOut_iff_of_isRun (isRun : IsRun run pass.subject.status)
    (alive : pass.subject.deletionRequested = false)
    (valid : ∀ timed ∈ run ++ [pass], timed.now.Valid) :
    pass.outcome.GaveUp .timeout ↔ pass.AnsweredTimeout ∨ pass.Unfinished ∧
      ∃ opener, underWay run = some opener ∧ (0 ≤ opener.now.year ∧ opener.now.year ≤ 9999) ∧
        pass.Overdue opener.now := by
  have readable {timed : CompletedPass R} (member : timed ∈ run ++ [pass]) (start : Instant) :
      Instant.parse? timed.now.stamp = some start ↔
        (0 ≤ timed.now.year ∧ timed.now.year ≤ 9999) ∧ timed.now = start := by
    rw [Instant.parse?_stamp (valid timed member)]
    simp
  rw [CompletedPass.timedOut_iff alive, CompletedPass.clock_eq isRun.operationStartedAt]
  refine or_congr_right (and_congr_right fun _ => ?_)
  cases begun : underWay run with
  | some opener =>
      have member := List.mem_append_left [pass] (mem_of_underWay begun)
      simp only [Option.some_or, Option.map_some, Option.bind_some, readable member,
        Option.some.injEq, exists_eq_left']
      constructor
      · rintro ⟨start, ⟨year, rfl⟩, overdue⟩
        exact ⟨year, overdue⟩
      · rintro ⟨year, overdue⟩
        exact ⟨_, ⟨year, rfl⟩, overdue⟩
  | none =>
      -- An operation that the pass itself began has just begun.
      refine iff_of_false ?_ (by simp)
      rintro ⟨start, noted, overdue⟩
      by_cases begins : pass.Begins
      · simp only [if_pos begins, Option.none_or, Option.map_some, Option.bind_some,
          readable (List.mem_append_right run (List.mem_singleton_self pass))] at noted
        rw [← noted.2, CompletedPass.Overdue, Instant.nanosSince_self] at overdue
        omega
      · simp [begins] at noted

/-- **When a generation is given up for the time although it is in time.**  Consider passes over a
record that is not being deleted, from no status, of any kind, with any answers and with generations
that do not decrease, and let none of the passes over the last generation be further back than an
operation may take.  The last pass ends with the time as its reason all the same exactly if it was
told so itself, or leaves an operation unfinished that was begun by a pass over an earlier
generation, has been under way ever since, and is older than it may be. -/
theorem timedOut_within_iff (isRun : IsRun run pass.subject.status)
    (alive : pass.subject.deletionRequested = false)
    (valid : ∀ timed ∈ run ++ [pass], timed.now.Valid)
    (ordered : ∀ earlier ∈ run, earlier.subject.generation ≤ pass.subject.generation)
    (within : ∀ earlier ∈ run, earlier.subject.generation = pass.subject.generation →
      ¬ pass.Overdue earlier.now) :
    pass.outcome.GaveUp .timeout ↔ pass.AnsweredTimeout ∨ pass.Unfinished ∧
      ∃ opener, underWay run = some opener ∧ (0 ≤ opener.now.year ∧ opener.now.year ≤ 9999) ∧
        opener.subject.generation < pass.subject.generation ∧ pass.Overdue opener.now := by
  rw [timedOut_iff_of_isRun isRun alive valid]
  refine or_congr_right (and_congr_right fun _ => exists_congr fun opener => ?_)
  refine and_congr_right fun begun => and_congr_right fun _ => ?_
  have member := mem_of_underWay begun
  constructor
  · intro overdue
    have other : opener.subject.generation ≠ pass.subject.generation :=
      fun same => within opener member same overdue
    exact ⟨Int.lt_iff_le_and_ne.mpr ⟨ordered opener member, other⟩, overdue⟩
  · rintro ⟨-, overdue⟩
    exact overdue

end Generations

theorem Slow.isRun : IsRun [Slow.first, Slow.second] Slow.edited.subject.status := by
  have begun : IsRun ([] ++ [Slow.first]) Slow.first.outcome.status := .snoc .nil rfl
  have lookedAt : IsRun ([Slow.first] ++ [Slow.second]) Slow.second.outcome.status :=
    .snoc begun rfl
  exact lookedAt

/-- The first pass over an edited record is out of time already. -/
theorem timedOut_within_iff_slow :
    Slow.edited.outcome.step = .update ∧ Slow.edited.outcome.GaveUp .timeout := by
  let run := [Slow.first, Slow.second]
  have valid : ∀ timed ∈ run ++ [Slow.edited], timed.now.Valid := by
    simp only [run, List.cons_append, List.nil_append, List.forall_mem_cons]
    exact ⟨⟨by decide, by decide⟩, ⟨by decide, by decide⟩, ⟨by decide, by decide⟩, by simp⟩
  have ordered : ∀ earlier ∈ run,
      earlier.subject.generation ≤ Slow.edited.subject.generation := by
    simp only [run, List.forall_mem_cons]
    exact ⟨by decide, by decide, by simp⟩
  have within : ∀ earlier ∈ run,
      earlier.subject.generation = Slow.edited.subject.generation →
        ¬ Slow.edited.Overdue earlier.now := by
    simp only [run, List.forall_mem_cons]
    exact ⟨fun same => absurd same (by decide), fun same => absurd same (by decide), by simp⟩
  refine ⟨rfl, (timedOut_within_iff Slow.isRun rfl valid ordered within).mpr (.inr ⟨?_, ?_⟩)⟩
  · exact Slow.unfinished rfl rfl
  · exact ⟨Slow.first, rfl, by decide, by decide, by decide⟩

/-- An edit does not get the time that an operation may take. -/
theorem timedOut_not_within_generation :
    ¬ ∀ (run : List (CompletedPass Unit)) (pass : CompletedPass Unit),
      IsRun run pass.subject.status → pass.subject.deletionRequested = false →
        (run ++ [pass]).Pairwise (fun earlier later =>
          earlier.subject.generation ≤ later.subject.generation ∧
            0 ≤ later.now.nanosSince earlier.now) →
          pass.outcome.GaveUp .timeout →
            ∃ earlier ∈ run, earlier.subject.generation = pass.subject.generation ∧
              (pass.settings.creationTimeout.nanos : Int) < pass.now.nanosSince earlier.now := by
  intro ownTime
  have ordered : ([Slow.first, Slow.second] ++ [Slow.edited]).Pairwise (fun earlier later =>
      earlier.subject.generation ≤ later.subject.generation ∧
        0 ≤ later.now.nanosSince earlier.now) := by
    simp only [List.cons_append, List.nil_append, List.pairwise_cons, List.forall_mem_cons]
    exact ⟨⟨by decide, by decide, by simp⟩, ⟨by decide, by simp⟩, by simp, .nil⟩
  obtain ⟨earlier, member, same, -⟩ :=
    ownTime [Slow.first, Slow.second] Slow.edited Slow.isRun rfl ordered ⟨rfl, rfl⟩
  have edited : Slow.edited.subject.generation = 2 := rfl
  have before : ∀ earlier ∈ [Slow.first, Slow.second], earlier.subject.generation = 1 := by
    simp only [List.forall_mem_cons]
    exact ⟨rfl, rfl, by simp⟩
  rw [before earlier member, edited] at same
  exact absurd same (by decide)

end ServiceOperator
