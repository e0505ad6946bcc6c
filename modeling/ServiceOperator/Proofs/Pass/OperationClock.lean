import ServiceOperator.Proofs.Pass.TransportFailures
import ServiceOperator.Proofs.Time.Stamps

/-!
# The clock of an operation

A pass that creates, updates or replaces stamps the status with its time, unless a stamp is there
already, and so does one that corrects a drift (`Calls.Begins`).  The stamp is the clock of the
operation: as long as the passes leave it unfinished (`Calls.Unfinished`), each of them asks whether
it shows too much.

`Pass.Clocks` is what one pass makes of the clock, one constructor for each way in which it ends.
Besides a pass that is blocked, only two of them leave the stamp where it is: an operation that
stays unfinished in time, and a failure in transport.  All others take it away.

### How a course is brought to its clock

An exit sees the clock as it stands in the status, and the law is about the clock as it stood before
the pass, so the two have to be brought together.  `Calls.clock` computes the first from the second
and from the calls: a step that changes the resource, or an update that corrects a drift, starts it
if it was not started.  Each course is then a `Clocks` for that value, and since only the last call
decides (`Clocks.congr`), what was asked before can be put in front of it (`Clocks.behind`).
`CompletedPass.clocks` is the result for a whole pass.
-/

namespace ServiceOperator

open Calls (Entry DeleteAccepted)

variable {R : Type}

/-! ## What the calls of a pass came to -/

/-- A call whose answer is that the resource is gone which the step was to look at, or to update. -/
def Calls.Entry.findsGone (step : Step) : Entry R → Bool
  | ⟨.get _, .error e⟩ => e.isNotFound && decide (step = .awaitReady ∨ step = .observe)
  | ⟨.update _, .error e⟩ =>
    e.isNotFound && decide (step = .update ∨ step = .awaitReady ∨ step = .observe)
  | _ => false

/-- An update. -/
def Calls.Entry.updates : Entry R → Bool
  | ⟨.update _, _⟩ => true
  | _ => false

/-- The calls of a pass begin an operation, if none is under way: the step changes the resource, or
it corrects a drift. -/
def Calls.Begins (step : Step) (t : List (Entry R)) : Prop :=
  step.isMutation = true ∨ t.any Entry.updates = true

instance (step : Step) (t : List (Entry R)) : Decidable (Calls.Begins step t) :=
  inferInstanceAs (Decidable (_ ∨ _))

/-- What the clock of an operation shows behind the calls of a pass, `noted` being what it showed
before them. -/
def Calls.clock (noted : Option String) (stamp : String) (step : Step) (t : List (Entry R)) :
    Option String :=
  if Calls.Begins step t then some (noted.getD stamp) else noted

/-- The last call of a pass left its operation unfinished. -/
inductive Calls.Unfinished (profile : Profile R) (step : Step) (t : List (Entry R)) : Prop
  /-- The resource is there and not ready. -/
  | notReady {id : String} {remote : R} (last : t.getLast? = some (.got (some id) (.ok remote)))
      (unready : profile.isReady remote = false)
  /-- The resource that is to be replaced is there still. -/
  | lingering {id : String} {remote : R} (replaces : step = .replace)
      (last : t.getLast? = some (.got (some id) (.ok remote)))
  /-- The resource had drifted away, and was just put right. -/
  | corrected {id : String} (last : t.getLast? = some (.updated id (.ok ())))
  /-- A call failed in a way that may pass, which a resource that went away by itself does not. -/
  | failed {call : Call R} {e : OperatorError} (last : t.getLast? = some ⟨call, .error e⟩)
      (passing : e.errorClass = .retryable ∨ e.errorClass = .notFound)
      (present : ¬ FoundGone step t)

/-- The last call of a pass was answered that something took too long. -/
def Calls.AnsweredTimeout (t : List (Entry R)) : Prop :=
  ∃ call message, t.getLast? = some ⟨call, .error (.timeout message)⟩

section Calls

variable {profile : Profile R} {step : Step} {t t' : List (Entry R)} {entry : Entry R}

/-- Whether a resource was found gone can be read off the last call. -/
theorem foundGone_iff : FoundGone step t ↔ t.getLast?.any (Entry.findsGone step) = true := by
  constructor
  · rintro (⟨rests, absent, last⟩ | ⟨present, absent, last⟩)
    · simp [last, Entry.findsGone, absent, rests]
    · simp [last, Entry.findsGone, absent, present]
  · intro finds
    obtain ⟨⟨call, answer⟩, last, finds⟩ := (Option.any_eq_true ..).mp finds
    unfold Entry.findsGone at finds
    split at finds
    case h_1 same =>
      cases same
      simp only [Bool.and_eq_true, decide_eq_true_eq] at finds
      exact .looking finds.2 finds.1 last
    case h_2 same =>
      cases same
      simp only [Bool.and_eq_true, decide_eq_true_eq] at finds
      exact .updating finds.2 finds.1 last
    case h_3 => cases finds

instance : Decidable (FoundGone step t) := decidable_of_iff _ foundGone_iff.symm

theorem foundGone_congr (same : t'.getLast? = t.getLast?) :
    FoundGone step t' ↔ FoundGone step t := by
  rw [foundGone_iff, foundGone_iff, same]

/-- Calls with the same last one leave the same operation unfinished. -/
theorem Calls.Unfinished.congr (unfinished : Calls.Unfinished profile step t)
    (same : t'.getLast? = t.getLast?) : Calls.Unfinished profile step t' := by
  cases unfinished with
  | notReady last unready => exact .notReady (same ▸ last) unready
  | lingering replaces last => exact .lingering replaces (same ▸ last)
  | corrected last => exact .corrected (same ▸ last)
  | failed last passing present =>
      exact .failed (same ▸ last) passing (mt (foundGone_congr same).mp present)

/-- An operation whose resource is gone is not left unfinished: there is nothing to wait for. -/
theorem Calls.Unfinished.not_foundGone (unfinished : Calls.Unfinished profile step t) :
    ¬ FoundGone step t := by
  cases unfinished with
  | notReady last => exact not_foundGone_of_last last rfl
  | lingering replaces last => exact not_foundGone_of_last last rfl
  | corrected last => exact not_foundGone_of_last last rfl
  | failed last passing present => exact present

/-- A failure that is none to find something finds nothing gone. -/
theorem not_foundGone_of_error {call : Call R} {e : OperatorError}
    (last : t.getLast? = some ⟨call, .error e⟩) (present : e.isNotFound = false) :
    ¬ FoundGone step t := by
  rintro (⟨_, absent, last'⟩ | ⟨_, absent, last'⟩)
  all_goals
    cases last.symm.trans last'
    exact Bool.false_ne_true (present.symm.trans absent)

theorem not_unfinished_nil : ¬ Calls.Unfinished profile step [] := by
  rintro (⟨last, -⟩ | ⟨-, last⟩ | ⟨last⟩ | ⟨last, -, -⟩) <;> cases last

/-- An error that does not pass by itself finishes the operation. -/
theorem not_unfinished_of_error {call : Call R} {e : OperatorError}
    (last : t.getLast? = some ⟨call, .error e⟩)
    (lasting : e.errorClass = .terminal ∨ e.errorClass = .transient) :
    ¬ Calls.Unfinished profile step t := by
  rintro (⟨last', -⟩ | ⟨-, last'⟩ | ⟨last'⟩ | ⟨last', passing, -⟩)
  all_goals cases last.symm.trans last'
  rcases lasting with lasting | lasting <;> simp [lasting] at passing

/-- Connection info that was read finishes the operation. -/
theorem not_unfinished_of_connected {remote : R} {info : ConnectionInfo}
    (last : t.getLast? = some (.connected remote (.ok info))) :
    ¬ Calls.Unfinished profile step t := by
  rintro (⟨last', -⟩ | ⟨-, last'⟩ | ⟨last'⟩ | ⟨last', -, -⟩)
  all_goals cases last.symm.trans last'

/-- A resource that was met under no id finishes the operation. -/
theorem not_unfinished_of_met {remote : R} (last : t.getLast? = some (.got none (.ok remote))) :
    ¬ Calls.Unfinished profile step t := by
  rintro (⟨last', -⟩ | ⟨-, last'⟩ | ⟨last'⟩ | ⟨last', -, -⟩)
  all_goals cases last.symm.trans last'

end Calls

/-- An outcome settles the operation exactly if the resource has converged or the record is given
up. -/
theorem Outcome.settles_iff {o : Outcome} : o.Settles ↔
    o.connectionInfo.isSome = true ∨ o.errorReason.isSome = true ∧ o.requeue = .awaitChange := by
  refine or_congr_right ⟨?_, ?_⟩
  · rintro ⟨reason, failure, waits⟩
    exact ⟨Option.isSome_of_eq_some failure, waits⟩
  · rintro ⟨failed, waits⟩
    obtain ⟨reason, failure⟩ := Option.isSome_iff_exists.mp failed
    exact ⟨reason, failure, waits⟩

instance (o : Outcome) : Decidable o.Settles := decidable_of_iff _ Outcome.settles_iff.symm

/-! ## The exits -/

namespace Pass

variable {p q : Pass R} {look : Look} {fingerprint : Option String} {t t' : List (Entry R)}
  {o : Outcome} {e : OperatorError} {message : String}

/-- What a pass makes of the clock of its operation, `clock` being what it shows at the exit and
`late` whether that is too much. -/
inductive Clocks (late : Bool) (clock : Option String) (profile : Profile R) (step : Step)
    (t : List (Entry R)) (o : Outcome) : Prop
  | blocked (nothing : t = []) (kept : o.status.operationStartedAt = clock)
      (unsettled : ¬ o.Settles)
  | overdue (unfinished : Calls.Unfinished profile step t) (late : late = true)
      (gaveUp : o.GaveUp .timeout) (cleared : o.status.operationStartedAt = none)
  | inTime (unfinished : Calls.Unfinished profile step t) (early : late = false)
      (kept : o.status.operationStartedAt = clock) (unsettled : ¬ o.Settles)
  | givenUp {reason : Reason} (finished : ¬ Calls.Unfinished profile step t)
      (gaveUp : o.GaveUp reason) (cleared : o.status.operationStartedAt = none)
      (reported : reason = .timeout ↔ Calls.AnsweredTimeout t)
  /-- The pass failed in transport. -/
  | lost (finished : ¬ Calls.Unfinished profile step t) (present : ¬ FoundGone step t)
      (other : ¬ Calls.AnsweredTimeout t) (kept : o.status.operationStartedAt = clock)
      (unsettled : ¬ o.Settles)
  | gone (found : FoundGone step t) (cleared : o.status.operationStartedAt = none)
      (unsettled : ¬ o.Settles)
  | converged (finished : ¬ Calls.Unfinished profile step t) (other : ¬ Calls.AnsweredTimeout t)
      (cleared : o.status.operationStartedAt = none) (connected : o.connectionInfo.isSome = true)
      (silent : o.errorReason = none)

/-- What an exit of a pass makes of the clock. -/
abbrev ClocksOn (p : Pass R) (t : List (Entry R)) (o : Outcome) : Prop :=
  Clocks p.creationTimedOut p.status.operationStartedAt p.profile p.step t o

theorem not_answeredTimeout_of_error {call : Call R} (last : t.getLast? = some ⟨call, .error e⟩)
    (other : e.errorClass ≠ .terminal) : ¬ Calls.AnsweredTimeout t := by
  rintro ⟨call', message, last'⟩
  cases last.symm.trans last'
  exact other rfl

/-- Only the last call counts. -/
theorem Clocks.congr {late : Bool} {clock : Option String} {profile : Profile R} {step : Step}
    (clocks : Clocks late clock profile step t o) (same : t'.getLast? = t.getLast?) :
    Clocks late clock profile step t' o := by
  have finishes (finished : ¬ Calls.Unfinished profile step t) :
      ¬ Calls.Unfinished profile step t' := mt (·.congr same.symm) finished
  have answered : Calls.AnsweredTimeout t' ↔ Calls.AnsweredTimeout t := by
    unfold Calls.AnsweredTimeout
    rw [same]
  cases clocks with
  | blocked nothing kept unsettled =>
      rw [nothing, List.getLast?_nil, List.getLast?_eq_none_iff] at same
      exact .blocked same kept unsettled
  | overdue unfinished late gaveUp cleared =>
      exact .overdue (unfinished.congr same) late gaveUp cleared
  | inTime unfinished early kept unsettled =>
      exact .inTime (unfinished.congr same) early kept unsettled
  | givenUp finished gaveUp cleared reported =>
      exact .givenUp (finishes finished) gaveUp cleared (reported.trans answered.symm)
  | lost finished present other kept unsettled =>
      exact .lost (finishes finished) (mt (foundGone_congr same).mp present)
        (mt answered.mp other) kept unsettled
  | gone found cleared unsettled =>
      exact .gone ((foundGone_congr same).mpr found) cleared unsettled
  | converged finished other cleared connected silent =>
      exact .converged (finishes finished) (mt answered.mp other) cleared connected silent

/-- The calls before the last do not count. -/
theorem Clocks.behind {late : Bool} {clock : Option String} {profile : Profile R} {step : Step}
    (earlier : List (Entry R)) (later : t ≠ []) (clocks : Clocks late clock profile step t o) :
    Clocks late clock profile step (earlier ++ t) o :=
  clocks.congr (by
    rw [List.getLast?_append, List.getLast?_eq_some_getLast later, Option.some_or])

/-- A resource that is not ready goes by the clock. -/
theorem notReady_clocks (fresh : p.Fresh) (unfinished : Calls.Unfinished p.profile p.step t) :
    p.ClocksOn t (p.notReady message) := by
  unfold notReady
  split
  case isTrue late => exact .overdue unfinished late ⟨rfl, rfl⟩ rfl
  case isFalse early =>
      exact .inTime unfinished (Bool.eq_false_iff.mpr early) rfl
        (not_settles_of_timed fresh.unconnected rfl)

/-- A failure that may pass goes by the clock. -/
theorem failRetryable_clocks (fresh : p.Fresh) (unfinished : Calls.Unfinished p.profile p.step t) :
    p.ClocksOn t (p.failRetryable e) := by
  unfold failRetryable
  split
  case isTrue late => exact .overdue unfinished late ⟨rfl, rfl⟩ rfl
  case isFalse early =>
      dsimp only
      split
      · exact .inTime unfinished (Bool.eq_false_iff.mpr early) rfl
          (not_settles_of_timed fresh.unconnected rfl)
      · exact .inTime unfinished (Bool.eq_false_iff.mpr early) rfl
          (not_settles_of_timed fresh.unconnected rfl)

theorem externallyDeleted_clocks (fresh : p.Fresh) (found : FoundGone p.step t) :
    p.ClocksOn t p.externallyDeleted :=
  .gone found rfl (not_settles_of_timed fresh.unconnected rfl)

/-- A failure in transport leaves the clock, unless it was one too many. -/
theorem failTransient_clocks {call : Call R} (fresh : p.Fresh)
    (last : t.getLast? = some ⟨call, .error e⟩) (passing : e.errorClass = .transient)
    (present : ¬ FoundGone p.step t) : p.ClocksOn t (p.failTransient e) := by
  have finished : ¬ Calls.Unfinished p.profile p.step t :=
    not_unfinished_of_error last (.inr passing)
  have other : ¬ Calls.AnsweredTimeout t :=
    not_answeredTimeout_of_error last (by simp [passing])
  unfold failTransient
  dsimp only
  split
  · exact .givenUp finished ⟨rfl, rfl⟩ rfl (iff_of_false (by decide) other)
  · exact .lost finished present other rfl (not_settles_of_timed fresh.unconnected rfl)

/-- Only an error that says so has the time as its reason. -/
theorem reason_eq_timeout_iff : e.reason = .timeout ↔ ∃ message, e = .timeout message := by
  cases e <;> simp [OperatorError.reason]

/-- A pass that fails on the answer to its last call. -/
theorem fail_clocks {call : Call R} (fresh : p.Fresh) (last : t.getLast? = some ⟨call, .error e⟩)
    (present : ¬ FoundGone p.step t) : p.ClocksOn t (p.fail e) := by
  unfold fail
  cases errorClass : e.errorClass with
  | terminal =>
      refine .givenUp (not_unfinished_of_error last (.inl errorClass)) ⟨rfl, rfl⟩ rfl ?_
      rw [reason_eq_timeout_iff]
      constructor
      · rintro ⟨message, rfl⟩
        exact ⟨call, message, last⟩
      · rintro ⟨call', message, last'⟩
        cases last.symm.trans last'
        exact ⟨message, rfl⟩
  | retryable => exact failRetryable_clocks fresh (.failed last (.inl errorClass) present)
  | notFound => exact failRetryable_clocks fresh (.failed last (.inr errorClass) present)
  | transient => exact failTransient_clocks fresh last errorClass present

/-- A resource that has converged takes the clock away. -/
theorem converged_clocks {info : ConnectionInfo} {state : String} {remote : R} (fresh : p.Fresh)
    (last : t.getLast? = some (.connected remote (.ok info))) :
    p.ClocksOn t (p.converged info state) := by
  refine .converged (not_unfinished_of_connected last) ?_ rfl rfl fresh.silent
  rintro ⟨call, message, last'⟩
  cases last.symm.trans last'

/-! ## The courses -/

/-- A look at a resource that was just changed leaves the clock to the operation. -/
theorem fresh_look_clocks (fresh : p.Fresh) (course : LookCourse p .afterMutation t o)
    (mutates : p.step.isMutation = true) (known : p.status.id.isSome = true) :
    t ≠ [] ∧ p.ClocksOn t o := by
  obtain ⟨id, hasId⟩ := Option.isSome_iff_exists.mp known
  have saw {state : String} : (p.sawState state).Fresh := ⟨fresh.unconnected, fresh.silent⟩
  have present {answer : Except OperatorError R} :
      ¬ FoundGone p.step [.got p.status.id answer] := by
    -- Behind a change a get that misses the resource does not find it gone.
    rintro (⟨rests, -, -⟩ | ⟨-, -, last⟩)
    · rcases rests with rests | rests <;> simp [rests, Step.isMutation] at mutates
    · cases last
  cases course with
  | gone absent rest => cases rest
  | @unseen e absent =>
      exact ⟨by simp, notReady_clocks fresh (.failed rfl (.inr (of_decide_eq_true absent)) present)⟩
  | unread => exact ⟨by simp, fail_clocks fresh rfl present⟩
  | corrected rest => cases rest
  | goneUncorrected rest => cases rest
  | uncorrected rest => cases rest
  | waiting steady unready =>
      rw [hasId]
      exact ⟨by simp, notReady_clocks (p := p.sawState _) saw (.notReady rfl unready)⟩
  | unconnected =>
      exact ⟨by simp, fail_clocks (p := p.sawState _) saw rfl (not_foundGone_of_last rfl rfl)⟩
  | converged => exact ⟨by simp, converged_clocks (p := p.sawState _) saw rfl⟩

/-- A look at rest goes on with the operation that is under way, or begins one to correct a
drift. -/
theorem rest_look_clocks (fresh : p.Fresh) (course : LookCourse p .atRest t o)
    (rests : p.step = .awaitReady ∨ p.step = .observe) (known : p.status.id.isSome = true) :
    t ≠ [] ∧ (¬ Calls.Begins p.step t ∧ p.ClocksOn t o ∨
      Calls.Begins p.step t ∧ p.beginOperation.ClocksOn t o) := by
  obtain ⟨id, hasId⟩ := Option.isSome_iff_exists.mp known
  have saw {state : String} : (p.sawState state).Fresh := ⟨fresh.unconnected, fresh.silent⟩
  have corrects {state : String} : (p.sawState state).beginOperation.Fresh :=
    ⟨fresh.unconnected, fresh.silent⟩
  -- At rest only the update that corrects a drift begins an operation.
  have idle (reads : t.any Entry.updates = false) : ¬ Calls.Begins p.step t := by
    rintro (mutates | updates)
    · rcases rests with rests | rests <;> simp [rests, Step.isMutation] at mutates
    · exact Bool.false_ne_true (reads.symm.trans updates)
  cases course with
  | gone absent =>
      exact ⟨by simp, .inl ⟨idle rfl,
        externallyDeleted_clocks fresh (.looking rests absent rfl)⟩⟩
  | unseen absent looked => cases looked
  | unread present =>
      exact ⟨by simp, .inl ⟨idle rfl,
        fail_clocks fresh rfl (not_foundGone_of_last rfl present)⟩⟩
  | corrected =>
      exact ⟨by simp, .inr ⟨.inr rfl, notReady_clocks
        (p := (p.sawState _).beginOperation.mark _) ⟨fresh.unconnected, fresh.silent⟩
        (.corrected rfl)⟩⟩
  | goneUncorrected rest drifted absent =>
      exact ⟨by simp, .inr ⟨.inr rfl, externallyDeleted_clocks (p := (p.sawState _).beginOperation)
        corrects (.updating (.inr rests) absent rfl)⟩⟩
  | uncorrected rest drifted present =>
      exact ⟨by simp, .inr ⟨.inr rfl, fail_clocks (p := (p.sawState _).beginOperation) corrects rfl
        (not_foundGone_of_last rfl present)⟩⟩
  | waiting steady unready =>
      refine ⟨by simp, .inl ⟨idle rfl, ?_⟩⟩
      rw [hasId]
      exact notReady_clocks (p := p.sawState _) saw (.notReady rfl unready)
  | unconnected =>
      exact ⟨by simp, .inl ⟨idle rfl,
        fail_clocks (p := p.sawState _) saw rfl (not_foundGone_of_last rfl rfl)⟩⟩
  | converged =>
      exact ⟨by simp, .inl ⟨idle rfl, converged_clocks (p := p.sawState _) saw rfl⟩⟩

/-- An attempt that comes by nothing fails the operation. -/
theorem ObtainCourse.fail_clocks (fresh : p.Fresh) (course : ObtainCourse p t (.error e))
    (makes : p.step = .create ∨ p.step = .replace) : t ≠ [] ∧ p.ClocksOn t (p.fail e) := by
  have present {t : List (Entry R)} : ¬ FoundGone p.step t :=
    not_foundGone_of_step (by rcases makes with step | step <;> simp [step])
  cases course with
  | refused => exact ⟨by simp, Pass.fail_clocks fresh rfl present⟩
  | unread => exact ⟨by simp, Pass.fail_clocks fresh rfl present⟩
  | foreign =>
      -- The refusal is the pass's own: no answer says so.
      refine ⟨by simp, .givenUp (not_unfinished_of_met rfl) ⟨rfl, rfl⟩ rfl ?_⟩
      refine iff_of_false (by simp [adoptionRefusal, OperatorError.reason]) ?_
      rintro ⟨call, message, last⟩
      cases last
  | unconformed => exact ⟨by simp, Pass.fail_clocks fresh rfl present⟩

/-- A look at a resource that was just accepted goes on with the operation that came by it. -/
theorem accepted_clocks {id : String} {mutation : Option Mutation} (fresh : p.Fresh)
    (mutates : p.step.isMutation = true) (earlier : List (Entry R))
    (course : LookCourse (({ p.beginOperation with mutation := mutation }).accept id fingerprint)
      .afterMutation t o) :
    p.beginOperation.ClocksOn (earlier ++ t) o := by
  let accepted := ({ p.beginOperation with mutation := mutation }).accept id fingerprint
  obtain ⟨later, clocks⟩ := fresh_look_clocks (p := accepted) ⟨fresh.unconnected, fresh.silent⟩
    course mutates rfl
  exact clocks.behind earlier later

/-- A step that changes the resource goes on with the operation, from now on if none was under
way. -/
theorem mutation_clocks (fresh : p.Fresh) (course : StepCourse p fingerprint t o)
    (mutates : p.step.isMutation = true) (known : p.step = .replace → p.status.id.isSome = true) :
    p.beginOperation.ClocksOn t o := by
  have begun : p.beginOperation.Fresh := ⟨fresh.unconnected, fresh.silent⟩
  cases course with
  | looked rests => rcases rests with rests | rests <;> simp [rests, Step.isMutation] at mutates
  | unready => exact fail_clocks begun rfl (not_foundGone_of_last rfl rfl)
  | uncreated step obtains =>
      obtain ⟨later, clocks⟩ := obtains.fail_clocks begun (.inl step)
      exact clocks.behind [_] later
  | created step obtains look =>
      obtain ⟨mutation, rfl⟩ := obtain_subject obtains
      exact accepted_clocks fresh mutates (_ :: _) look
  | goneUnchanged step absent =>
      exact externallyDeleted_clocks begun (.updating (.inl step) absent rfl)
  | unchanged step present => exact fail_clocks begun rfl (not_foundGone_of_last rfl present)
  | changed step look => exact accepted_clocks fresh mutates [_, _] look
  | undeleted step => exact fail_clocks begun rfl (not_foundGone_of_last rfl rfl)
  | unconfirmed step accepted present =>
      exact fail_clocks begun rfl (not_foundGone_of_last rfl present)
  | lingering step =>
      obtain ⟨id, hasId⟩ := Option.isSome_iff_exists.mp (known step)
      rw [hasId]
      exact failRetryable_clocks begun (.lingering step rfl)
  | unreplaced step accepted absent obtains =>
      obtain ⟨later, clocks⟩ := obtains.fail_clocks begun (.inr step)
      exact clocks.behind [_, _, _] later
  | replaced step accepted absent obtains look =>
      obtain ⟨mutation, rfl⟩ := obtain_subject obtains
      exact accepted_clocks fresh mutates (_ :: _ :: _ :: _) look

/-- What the clock of an operation shows behind the calls of a pass. -/
abbrev clock (p : Pass R) (t : List (Entry R)) : Option String :=
  Calls.clock p.status.operationStartedAt p.stamp p.step t

/-- **What a step makes of the clock**, unless its pass is blocked. -/
theorem step_clocks (fresh : p.Fresh) (course : StepCourse p fingerprint t o)
    (replaces : p.step = .replace → p.status.id.isSome = true)
    (rests : p.step = .awaitReady ∨ p.step = .observe → p.status.id.isSome = true) :
    Clocks (p.exceeds (p.clock t) p.settings.creationTimeout) (p.clock t) p.profile p.step t o := by
  unfold clock Calls.clock
  by_cases mutates : p.step.isMutation = true
  · rw [if_pos (.inl mutates)]
    exact mutation_clocks fresh course mutates replaces
  · have looks : p.step = .awaitReady ∨ p.step = .observe := by
      -- All courses but one belong to a step that changes the resource.
      cases course with
      | looked looks => exact looks
      | unready steps => exact absurd steps mutates
      | _ step => simp [step, Step.isMutation] at mutates
    obtain ⟨-, ⟨idle, clocks⟩ | ⟨begun, clocks⟩⟩ :=
      rest_look_clocks fresh (course.look looks) looks (rests looks)
    · rw [if_neg idle]
      exact clocks
    · rw [if_pos begun]
      exact clocks

theorem unresourced_step :
    ((if p.step.isMutation then p.beginOperation else p).fail e).step = p.step := by
  split
  · exact fail_carries.step
  · exact fail_carries.step

/-- A pass that cannot read its source secret starts the clock all the same. -/
theorem unresourced_clocks (fresh : p.Fresh) :
    Clocks (p.exceeds (p.clock [.fingerprinted (.error e)]) p.settings.creationTimeout)
      (p.clock [.fingerprinted (.error e)]) p.profile p.step [.fingerprinted (.error e)]
      ((if p.step.isMutation then p.beginOperation else p).fail e) := by
  have present : ¬ FoundGone (R := R) p.step [.fingerprinted (.error e)] :=
    not_foundGone_of_last rfl rfl
  unfold clock Calls.clock
  by_cases mutates : p.step.isMutation = true
  · rw [if_pos mutates, if_pos (.inl mutates)]
    exact fail_clocks (p := p.beginOperation) ⟨fresh.unconnected, fresh.silent⟩ rfl present
  · have idle : ¬ Calls.Begins (R := R) p.step [.fingerprinted (.error e)] := by
      rintro (begins | updates)
      · exact mutates begins
      · cases updates
    rw [if_neg mutates, if_neg idle]
    exact fail_clocks fresh rfl present

end Pass

/-! ## One pass -/

namespace CompletedPass

/-- The calls of a pass begin an operation, if none is under way. -/
abbrev Begins (pass : CompletedPass R) : Prop := Calls.Begins pass.outcome.step pass.asked

/-- A pass left its operation unfinished: it found the resource not ready, or failed in a way that
may pass. -/
abbrev Unfinished (pass : CompletedPass R) : Prop :=
  Calls.Unfinished pass.profile pass.outcome.step pass.asked

/-- A pass was answered that something took too long. -/
abbrev AnsweredTimeout (pass : CompletedPass R) : Prop := Calls.AnsweredTimeout pass.asked

/-- A pass ended the operation that was under way: it found the resource converged or gone, or gave
the record up. -/
def Closes (pass : CompletedPass R) : Prop :=
  pass.outcome.Settles ∨ FoundGone pass.outcome.step pass.asked

instance (pass : CompletedPass R) : Decidable pass.Closes :=
  inferInstanceAs (Decidable (_ ∨ _))

/-- What the clock of the operation shows behind the calls of a pass. -/
def clock (pass : CompletedPass R) : Option String :=
  Calls.clock pass.subject.status.operationStartedAt pass.now.stamp pass.outcome.step pass.asked

/-- More time has passed since an instant than an operation may take. -/
def Overdue (pass : CompletedPass R) (start : Instant) : Prop :=
  (pass.settings.creationTimeout.nanos : Int) < pass.now.nanosSince start

instance (pass : CompletedPass R) (start : Instant) : Decidable (pass.Overdue start) :=
  inferInstanceAs (Decidable (_ < _))

variable {pass : CompletedPass R}

/-- **The step law.**  A pass over a living record does one of seven things to the clock. -/
theorem clocks (pass : CompletedPass R) (alive : pass.subject.deletionRequested = false) :
    ∃ late, (late = true ↔
        ∃ start, pass.clock.bind Instant.parse? = some start ∧ pass.Overdue start) ∧
      Pass.Clocks late pass.clock pass.profile pass.outcome.step pass.asked pass.outcome := by
  obtain ⟨profile, subject, settings, now, asked, o, yields⟩ := pass
  have fresh (step : Step) : (Pass.start profile subject settings now step).Fresh := ⟨rfl, rfl⟩
  have timed (step : Step) {noted : Option String} :=
    Pass.exceeds_iff noted settings.creationTimeout (Pass.start profile subject settings now step)
  cases reconcileOnce_course yields with
  | deleting requested => simp [requested] at alive
  | blocked _ blocks =>
      refine ⟨_, timed .blocked, .blocked rfl rfl ?_⟩
      rintro (connected | ⟨reason, gaveUp⟩)
      · cases connected
      · cases gaveUp.failure
  | @unresourced p e _ free begun =>
      subst begun
      refine ⟨_, timed (subject.plan none profile.requiresReplace), ?_⟩
      unfold clock
      dsimp only
      rw [Pass.unresourced_step]
      exact Pass.unresourced_clocks (fresh _)
  | @lived fingerprint t _ _ free course =>
      have step : o.step = subject.plan fingerprint profile.requiresReplace := by
        rcases Pass.step_carries course plan_rests with carries | reaches
        · exact carries.step
        · exact reaches.step
      obtain ⟨later, -⟩ := Pass.step_counts (fresh _) course
      have clocks := Pass.step_clocks (fresh _) course known_of_plan_eq_replace
        fun rests => (plan_rests rests).1
      refine ⟨_, timed (subject.plan fingerprint profile.requiresReplace), ?_⟩
      unfold clock
      dsimp only
      rw [step]
      exact clocks.behind [_] later

/-- A pass ends with the time as its reason exactly if it was told so, or left an operation
unfinished whose clock shows too much. -/
theorem timedOut_iff (alive : pass.subject.deletionRequested = false) :
    pass.outcome.GaveUp .timeout ↔ pass.AnsweredTimeout ∨ pass.Unfinished ∧
      ∃ start, pass.clock.bind Instant.parse? = some start ∧ pass.Overdue start := by
  obtain ⟨late, timed, clocks⟩ := pass.clocks alive
  rw [← timed]
  have unsettled (unsettled : ¬ pass.outcome.Settles) : ¬ pass.outcome.GaveUp .timeout :=
    fun gaveUp => unsettled (.inr ⟨_, gaveUp⟩)
  -- Of the ways to end, only the second and the fourth give a record up.
  cases clocks with
  | blocked nothing kept settles =>
      refine iff_of_false (unsettled settles) ?_
      rintro (⟨call, message, last⟩ | ⟨unfinished, -⟩)
      · rw [nothing] at last
        cases last
      · rw [Unfinished, nothing] at unfinished
        exact not_unfinished_nil unfinished
  | overdue unfinished late gaveUp => exact iff_of_true gaveUp (.inr ⟨unfinished, late⟩)
  | inTime unfinished early kept settles =>
      refine iff_of_false (unsettled settles) ?_
      rintro (⟨call, message, last⟩ | ⟨-, late⟩)
      · exact not_unfinished_of_error last (.inl rfl) unfinished
      · exact Bool.false_ne_true (early.symm.trans late)
  | givenUp finished gaveUp cleared reported =>
      rw [or_iff_left fun unfinished => finished unfinished.1]
      refine Iff.trans ?_ reported
      constructor
      · intro timeout
        exact Option.some.inj (gaveUp.failure.symm.trans timeout.failure)
      · rintro rfl
        exact gaveUp
  | lost finished present other kept settles =>
      exact iff_of_false (unsettled settles) (not_or.mpr ⟨other, fun late => finished late.1⟩)
  | gone found cleared settles =>
      refine iff_of_false (unsettled settles) ?_
      rintro (⟨call, message, last⟩ | ⟨unfinished, -⟩)
      · exact not_foundGone_of_error last rfl found
      · exact unfinished.not_foundGone found
  | converged finished other cleared connected silent =>
      refine iff_of_false ?_ (not_or.mpr ⟨other, fun late => finished late.1⟩)
      intro gaveUp
      cases silent.symm.trans gaveUp.failure

/-- A pass that ends the operation takes its clock away. -/
theorem operationStartedAt_of_closes (alive : pass.subject.deletionRequested = false)
    (closes : pass.Closes) : pass.outcome.status.operationStartedAt = none := by
  obtain ⟨late, -, clocks⟩ := pass.clocks alive
  cases clocks with
  | blocked nothing kept unsettled =>
      refine absurd closes (not_or.mpr ⟨unsettled, ?_⟩)
      rw [nothing]
      exact not_foundGone_nil
  | overdue unfinished late gaveUp cleared => exact cleared
  | inTime unfinished early kept unsettled =>
      exact absurd closes (not_or.mpr ⟨unsettled, unfinished.not_foundGone⟩)
  | givenUp finished gaveUp cleared => exact cleared
  | lost finished present other kept unsettled =>
      exact absurd closes (not_or.mpr ⟨unsettled, present⟩)
  | gone found cleared => exact cleared
  | converged finished other cleared => exact cleared

/-- A pass that does not end the operation leaves its clock as it shows. -/
theorem operationStartedAt_of_open (alive : pass.subject.deletionRequested = false)
    (goesOn : ¬ pass.Closes) : pass.outcome.status.operationStartedAt = pass.clock := by
  obtain ⟨unsettled, present⟩ := not_or.mp goesOn
  obtain ⟨late, -, clocks⟩ := pass.clocks alive
  cases clocks with
  | blocked nothing kept => exact kept
  | overdue unfinished late gaveUp => exact absurd (.inr ⟨_, gaveUp⟩) unsettled
  | inTime unfinished early kept => exact kept
  | givenUp finished gaveUp => exact absurd (.inr ⟨_, gaveUp⟩) unsettled
  | lost finished present other kept => exact kept
  | gone found => exact absurd found present
  | converged finished other cleared connected => exact absurd (.inl connected) unsettled

/-- A pass that leaves its operation unfinished ends it in one way only. -/
theorem Unfinished.timedOut_of_closes (unfinished : pass.Unfinished)
    (alive : pass.subject.deletionRequested = false) (closes : pass.Closes) :
    pass.outcome.GaveUp .timeout := by
  obtain ⟨late, -, clocks⟩ := pass.clocks alive
  have present := Calls.Unfinished.not_foundGone unfinished
  cases clocks with
  | blocked nothing kept unsettled => exact absurd closes (not_or.mpr ⟨unsettled, present⟩)
  | overdue unfinished late gaveUp => exact gaveUp
  | inTime unfinished early kept unsettled => exact absurd closes (not_or.mpr ⟨unsettled, present⟩)
  | givenUp finished => exact absurd unfinished finished
  | lost finished => exact absurd unfinished finished
  | gone found => exact absurd found present
  | converged finished => exact absurd unfinished finished

end CompletedPass

end ServiceOperator
