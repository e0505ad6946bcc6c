import ServiceOperator.Proofs.Pass.Conclusions

/-!
# Runs of passes

The passes over a record hang together by its status alone: what one pass leaves behind is what the
next one starts from.  `RunsFrom` is that chain, and `IsRun` is it for a record that is never
deleted, from no status on (`IsRun.runsFrom`).  Nothing else is fixed: the generation, the settings,
the time and every answer may differ from pass to pass.

A pass finds its resource gone, or leaves by an exit that goes on (`Pass.LeavesBy`): a law of what
passes leave behind needs one case for `externallyDeleted` and one for each of the other exits.
`PassEnding` says all that a pass of such a run can do to the two entries that decide about
blocking, the failed generation and the reason of the failure condition.  It is the step law of
every invariant of a run about them.

### The two chains

`RunsFrom` grows at the front, from the status that is there, and serves the laws that follow one
pass after the other.  `IsRun` grows at the end and is meant for statements about the last pass of a
history: what a record has been through is then the list before it.  A history of the second form is
a chain of the first (`IsRun.runsFrom`); only the second has the condition that no deletion is asked
for.
-/

namespace ServiceOperator

open Calls (Entry)

variable {R : Type}

/-- A pass over a record, with what it asked and what it left behind. -/
structure CompletedPass (R : Type) where
  profile : Profile R
  subject : Subject
  settings : Settings
  now : Instant
  asked : List (Entry R)
  outcome : Outcome
  yields : (reconcileOnce profile subject settings now).Yields asked outcome

/-- A pass in surroundings that give to each call the same answer at any time. -/
def CompletedPass.against (answer : (c : Call R) → c.Answer) (profile : Profile R)
    (subject : Subject) (settings : Settings) (now : Instant) : CompletedPass R where
  profile := profile
  subject := subject
  settings := settings
  now := now
  asked :=
    (reconcileOnce profile subject settings now).trace (fun c (_ : Unit) => (answer c, ())) ()
  outcome :=
    ((reconcileOnce profile subject settings now).run (fun c (_ : Unit) => (answer c, ())) ()).1
  yields := Program.yields_run _ _ _

/-- Passes over a record that is not being deleted, each from the status that the one before it left
behind and the first from no status, with the status that the last one leaves behind. -/
inductive IsRun : List (CompletedPass R) → ResourceStatus → Prop
  | nil : IsRun [] .initial
  | snoc {run : List (CompletedPass R)} {pass : CompletedPass R}
      (earlier : IsRun run pass.subject.status) (alive : pass.subject.deletionRequested = false) :
      IsRun (run ++ [pass]) pass.outcome.status

/-- Passes that lead from one status to another, each from the status that the one before it left
behind. -/
inductive RunsFrom : ResourceStatus → List (CompletedPass R) → ResourceStatus → Prop
  | nil (start : ResourceStatus) : RunsFrom start [] start
  | cons {pass : CompletedPass R} {run : List (CompletedPass R)} {finish : ResourceStatus}
      (later : RunsFrom pass.outcome.status run finish) :
      RunsFrom pass.subject.status (pass :: run) finish

/-- A run can be cut behind any of its passes. -/
theorem runsFrom_append {start finish : ResourceStatus} {first second : List (CompletedPass R)} :
    RunsFrom start (first ++ second) finish ↔
      ∃ middle, RunsFrom start first middle ∧ RunsFrom middle second finish := by
  induction first generalizing start with
  | nil =>
      constructor
      · intro h
        exact ⟨start, .nil start, h⟩
      · rintro ⟨_, ⟨⟩, h⟩
        exact h
  | cons pass first ih =>
      constructor
      · intro h
        cases h with
        | cons later =>
            obtain ⟨middle, h₁, h₂⟩ := ih.mp later
            exact ⟨middle, .cons h₁, h₂⟩
      · rintro ⟨middle, h₁, h₂⟩
        cases h₁ with
        | cons h₁ => exact .cons (ih.mpr ⟨middle, h₁, h₂⟩)

theorem IsRun.runsFrom {run : List (CompletedPass R)} {finish : ResourceStatus}
    (isRun : IsRun run finish) : RunsFrom .initial run finish := by
  induction isRun with
  | nil => exact .nil _
  | snoc earlier alive ih => exact runsFrom_append.mpr ⟨_, ih, .cons (.nil _)⟩

/-- The last call of a pass found that the resource is gone which the pass was to look at, or to
update. -/
inductive FoundGone (step : Step) (asked : List (Entry R)) : Prop
  | looking {id : Option String} {e : OperatorError}
      (rests : step = .awaitReady ∨ step = .observe) (absent : e.isNotFound = true)
      (last : asked.getLast? = some (.got id (.error e)))
  | updating {id : String} {e : OperatorError}
      (present : step = .update ∨ step = .awaitReady ∨ step = .observe)
      (absent : e.isNotFound = true) (last : asked.getLast? = some (.updated id (.error e)))

/-- A get or an update whose answer is that the resource is absent. -/
def Calls.Entry.reportsAbsence : Entry R → Bool
  | ⟨.get _, .error e⟩ => e.isNotFound
  | ⟨.update _, .error e⟩ => e.isNotFound
  | _ => false

section FoundGone

variable {step : Step} {asked : List (Entry R)} {entry : Entry R}

theorem not_foundGone_nil : ¬ FoundGone (R := R) step [] := by
  rintro (⟨_, _, last⟩ | ⟨_, _, last⟩) <;> cases last

/-- Nothing was found gone if the last call does not report an absence. -/
theorem not_foundGone_of_last (last : asked.getLast? = some entry)
    (present : entry.reportsAbsence = false) : ¬ FoundGone step asked := by
  rintro (⟨_, absent, last'⟩ | ⟨_, absent, last'⟩)
  all_goals
    cases last.symm.trans last'
    exact Bool.false_ne_true (present.symm.trans absent)

/-- A call that does not report an absence is not the one that found the resource gone. -/
theorem foundGone_cons (present : entry.reportsAbsence = false) :
    FoundGone step (entry :: asked) ↔ FoundGone step asked := by
  cases asked with
  | nil =>
      exact iff_of_false (not_foundGone_of_last rfl present) not_foundGone_nil
  | cons next later =>
      constructor
      · rintro (⟨rests, absent, last⟩ | ⟨changes, absent, last⟩)
        · exact .looking rests absent last
        · exact .updating changes absent last
      · rintro (⟨rests, absent, last⟩ | ⟨changes, absent, last⟩)
        · exact .looking rests absent last
        · exact .updating changes absent last

/-- Only three steps have a resource to find gone. -/
theorem not_foundGone_of_step (other : step ≠ .update ∧ step ≠ .awaitReady ∧ step ≠ .observe) :
    ¬ FoundGone step asked := by
  obtain ⟨notUpdate, notAwait, notObserve⟩ := other
  rintro (⟨rests, -, -⟩ | ⟨present, -, -⟩)
  · exact rests.elim notAwait notObserve
  · exact present.elim notUpdate (·.elim notAwait notObserve)

end FoundGone

namespace Pass

variable {p q : Pass R} {t : List (Entry R)} {o : Outcome} {fingerprint : Option String}

/-- The exits of a pass that goes on. -/
inductive Exits (q : Pass R) : Outcome → Prop
  | notReady {message : String} : Exits q (q.notReady message)
  | failed {e : OperatorError} : Exits q (q.fail e)
  | converged {info : ConnectionInfo} {state : String} : Exits q (q.converged info state)

/-- A step with these calls finds the resource gone, or it goes on to one of the other exits. -/
inductive LeavesBy (p : Pass R) (t : List (Entry R)) : Outcome → Prop
  | gone {q : Pass R} (becomes : p.Becomes q) (found : FoundGone p.step t)
      (failed : q.status.failedGeneration = p.status.failedGeneration) :
      LeavesBy p t q.externallyDeleted
  | other {q : Pass R} {o : Outcome} (becomes : p.Becomes q) (present : ¬ FoundGone p.step t)
      (exits : q.Exits o) : LeavesBy p t o

/-- A call before the others that reports no absence has no part in what the last one found. -/
theorem LeavesBy.cons {entry : Entry R} (present : entry.reportsAbsence = false)
    (leaves : p.LeavesBy t o) : p.LeavesBy (entry :: t) o := by
  cases leaves with
  | gone becomes found failed => exact .gone becomes ((foundGone_cons present).mpr found) failed
  | other becomes stays exits =>
      exact .other becomes (fun found => stays ((foundGone_cons present).mp found)) exits

/-- A look after a change of the resource never takes it to be gone. -/
theorem look_exits (course : LookCourse p .afterMutation t o) : ∃ q, p.Becomes q ∧ q.Exits o := by
  cases course with
  | gone absent rest => cases rest
  | unseen => exact ⟨p, .refl p, .notReady⟩
  | unread => exact ⟨p, .refl p, .failed⟩
  | corrected rest => cases rest
  | goneUncorrected rest => cases rest
  | uncorrected rest => cases rest
  | waiting => exact ⟨_, becomes_sawState, .notReady⟩
  | unconnected => exact ⟨_, becomes_sawState, .failed⟩
  | converged => exact ⟨_, becomes_sawState, .converged⟩

/-- A look after a change of the resource does not end in an update. -/
theorem look_last {id : String} {answer : Except OperatorError Unit}
    (course : LookCourse p .afterMutation t o) : t.getLast? ≠ some (.updated id answer) := by
  intro last
  cases course with
  | corrected rest => cases rest
  | goneUncorrected rest => cases rest
  | uncorrected rest => cases rest
  | _ => cases last

/-- A look at rest. -/
theorem look_atRest_leaves (rests : p.step = .awaitReady ∨ p.step = .observe)
    (course : LookCourse p .atRest t o) : p.LeavesBy t o := by
  have corrects {state : String} : p.Becomes (p.sawState state).beginOperation :=
    becomes_sawState.trans becomes_beginOperation
  cases course with
  | gone absent => exact .gone (.refl p) (.looking rests absent rfl) rfl
  | unseen absent fresh => cases fresh
  | unread present => exact .other (.refl p) (not_foundGone_of_last rfl present) .failed
  | corrected =>
      exact .other (corrects.trans becomes_mark) (not_foundGone_of_last rfl rfl) .notReady
  | goneUncorrected rest drifted absent =>
      exact .gone corrects (.updating (.inr rests) absent rfl) rfl
  | uncorrected rest drifted present =>
      exact .other corrects (not_foundGone_of_last rfl present) .failed
  | waiting => exact .other becomes_sawState (not_foundGone_of_last rfl rfl) .notReady
  | unconnected => exact .other becomes_sawState (not_foundGone_of_last rfl rfl) .failed
  | converged => exact .other becomes_sawState (not_foundGone_of_last rfl rfl) .converged

/-- **A step of a living record finds the resource gone, or leaves by another exit.** -/
theorem step_leaves (course : StepCourse p fingerprint t o) : p.LeavesBy t o := by
  have failing (present : ¬ FoundGone p.step t) (e : OperatorError) :
      p.LeavesBy t (p.beginOperation.fail e) := .other becomes_beginOperation present .failed
  have accepting {mutation : Option Mutation} {id : String} {second : List (Entry R)}
      (present : ¬ FoundGone p.step t)
      (look : LookCourse (({ p.beginOperation with mutation := mutation }).accept id fingerprint)
        .afterMutation second o) : p.LeavesBy t o := by
    obtain ⟨q, becomes, exits⟩ := look_exits look
    exact .other (becomes_accept.trans becomes) present exits
  have creates (step : p.step = .create) : ¬ FoundGone p.step t :=
    not_foundGone_of_step (by simp [step])
  have replaces (step : p.step = .replace) : ¬ FoundGone p.step t :=
    not_foundGone_of_step (by simp [step])
  cases course with
  | looked rests look => exact look_atRest_leaves rests look
  | unready => exact failing (not_foundGone_of_last rfl rfl) _
  | uncreated step => exact failing (creates step) _
  | created step obtained look =>
      obtain ⟨mutation, rfl⟩ := obtain_subject obtained
      exact accepting (creates step) look
  | goneUnchanged step absent =>
      exact .gone becomes_beginOperation (.updating (.inl step) absent rfl) rfl
  | unchanged step present => exact failing (not_foundGone_of_last rfl present) _
  | changed step look =>
      refine accepting ?_ look
      -- The look behind an accepted update may miss the resource, but not as one that is gone.
      rw [foundGone_cons rfl, foundGone_cons rfl]
      rintro (⟨rests, -, -⟩ | ⟨-, -, last⟩)
      · simp [step] at rests
      · exact look_last look last
  | undeleted step => exact failing (replaces step) _
  | unconfirmed step => exact failing (replaces step) _
  | lingering step => exact failing (replaces step) _
  | unreplaced step => exact failing (replaces step) _
  | replaced step accepted absent obtained look =>
      obtain ⟨mutation, rfl⟩ := obtain_subject obtained
      exact accepting (replaces step) look

theorem Exits.step (exits : q.Exits o) : o.step = q.step := by
  cases exits with
  | notReady => exact notReady_carries.step
  | failed => exact fail_carries.step
  | converged => rfl

theorem LeavesBy.step (leaves : p.LeavesBy t o) : o.step = p.step := by
  cases leaves with
  | gone becomes => exact becomes.step
  | other becomes _ exits => exact exits.step.trans becomes.step

variable {profile : Profile R} {subject : Subject} {settings : Settings} {now : Instant}

/-- A pass over a living record is blocked, or leaves by an exit of its step. -/
theorem ReconcileCourse.leaves (course : ReconcileCourse profile subject settings now t o)
    (alive : subject.deletionRequested = false) :
    (subject.status.Blocks subject.generation ∧ t = [] ∧
      o = (start profile subject settings now .blocked).finish .awaitChange) ∨
    ¬ subject.status.Blocks subject.generation ∧
      (start profile subject settings now o.step).LeavesBy t o := by
  cases course with
  | deleting requested => simp [requested] at alive
  | blocked _ blocks => exact .inl ⟨blocks, rfl, rfl⟩
  | @unresourced p e _ free begun =>
      have leaves : p.LeavesBy [.fingerprinted (.error e)]
          ((if p.step.isMutation then p.beginOperation else p).fail e) := by
        split
        · exact .other becomes_beginOperation (not_foundGone_of_last rfl rfl) .failed
        · exact .other (.refl p) (not_foundGone_of_last rfl rfl) .failed
      refine .inr ⟨free, ?_⟩
      rw [leaves.step]
      subst begun
      exact leaves
  | @lived fingerprint asked _ _ free course =>
      have leaves : LeavesBy _ (.fingerprinted (.ok fingerprint) :: asked) o :=
        (step_leaves course).cons rfl
      refine .inr ⟨free, ?_⟩
      rw [leaves.step]
      exact leaves

/-- An exit that is no absence ends. -/
theorem Exits.ends (silent : q.errorReason = none) (exits : q.Exits o) : q.Ends o := by
  cases exits with
  | notReady => exact notReady_ends silent
  | failed => exact fail_ends
  | converged => exact converged_ends silent

end Pass

/-- What a pass over a living record does to the failed generation and to the reason of the failure
condition. -/
inductive PassEnding (subject : Subject) (asked : List (Entry R)) (o : Outcome) : Prop
  | blocked (blocks : subject.status.Blocks subject.generation)
      (present : ¬ FoundGone o.step asked) (same : o.status = subject.status)
      (silent : o.errorReason = none) (waits : o.requeue = .awaitChange)
  | gone (free : ¬ subject.status.Blocks subject.generation) (found : FoundGone o.step asked)
      (failed : o.status.failedGeneration = subject.status.failedGeneration)
      (reported : o.status.errorReason? = subject.status.errorReason?)
      (silent : o.errorReason = none)
  | ended {failed : Option Int} (free : ¬ subject.status.Blocks subject.generation)
      (present : ¬ FoundGone o.step asked)
      (kept : failed = subject.status.failedGeneration ∨ failed = none)
      (ending : Ending subject.generation failed o)

/-- **The step law of a run.**  Every pass over a living record ends in one of three ways. -/
theorem CompletedPass.ending (pass : CompletedPass R)
    (alive : pass.subject.deletionRequested = false) :
    PassEnding pass.subject pass.asked pass.outcome := by
  obtain ⟨profile, subject, settings, now, asked, o, yields⟩ := pass
  change PassEnding subject asked o
  rcases (reconcileOnce_course yields).leaves alive with ⟨blocks, rfl, rfl⟩ | ⟨free, leaves⟩
  · exact .blocked blocks not_foundGone_nil rfl rfl rfl
  · generalize same : o.step = step at leaves
    cases leaves with
    | gone becomes found failed =>
        refine .gone free (same ▸ found) failed ?_ becomes.errorReason
        exact Pass.externallyDeleted_errorReason?.trans
          (congrArg (Condition.reason? · Condition.error) becomes.conditions)
    | @other q _ becomes present exits =>
        have kept : q.status.failedGeneration = subject.status.failedGeneration ∨
            q.status.failedGeneration = none := by
          cases becomes.applied with
          | kept _ _ failed => exact .inl failed
          | accepted _ _ failed => exact .inr failed
        have ends := exits.ends becomes.errorReason
        rw [Pass.Ends, becomes.subject] at ends
        exact .ended free (same ▸ present) kept ends

end ServiceOperator
