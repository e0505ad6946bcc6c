import ServiceOperator.Proofs.Pass.Replacement
import ServiceOperator.Proofs.Pass.TerminalFailure

/-!
# Transport failures that add up

A pass that fails in transport counts the failure in the status, and gives the record up once the
count has reached a limit.  Three things clear the count: a resource that has converged, a record
that was given up, and a record that was applied to its resource (`Outcome.Settles`,
`CompletedPass.applies`).  Nothing else does.  In particular a pass that reads the resource and
finds it not ready yet leaves the count as it was, and so does one that finds the resource gone or
is asked to come back later.

`Pass.Counts` is what one pass makes of the count.  Over a run the failures therefore add up from
the last of the three things on, whatever lies between them (`gaveUp_inTransport_iff`), and the
failures at which a record is given up need not follow each other.

### Stretches

The count is a number without a memory of the passes that it has counted.  `Uncleared` gives it one:
a stretch of passes at the end of the run, of which none settled, and of which only the first may
have applied the record.  One such stretch accounts for the whole number (`IsRun.counted`), and none
accounts for more (`IsRun.counted_ge`), so that the statement can ask for any of them.
-/

namespace ServiceOperator

open Calls (Entry DeleteAccepted)

variable {R : Type}

/-! ## What the calls of a pass came to -/

/-- The error that a call was answered with. -/
def Calls.Entry.failure? (entry : Entry R) : Option OperatorError :=
  match entry.2 with
  | .ok _ => none
  | .error e => some e

/-- The last call failed in transport. -/
def Calls.endInTransport (t : List (Entry R)) : Bool :=
  match t.getLast?.bind Entry.failure? with
  | some e => decide (e.errorClass = .transient)
  | none => false

/-- Calls with an update that directly follows the check of the preconditions, as the step makes it
that applies a record in place, and that was accepted. -/
def Calls.updateInPlace : List (Entry R) → Bool
  | ⟨.sourceFingerprint, _⟩ :: rest => updateInPlace rest
  | ⟨.checkPreconditions, _⟩ :: ⟨.update _, .ok ()⟩ :: _ => true
  | _ => false

/-- Calls that applied a record: they came by a resource, or updated the one that was known. -/
def Profile.applied (profile : Profile R) (t : List (Entry R)) : Bool :=
  (profile.obtained t).isSome || Calls.updateInPlace t

/-- A pass found its resource converged, or gave its record up. -/
def Outcome.Settles (o : Outcome) : Prop :=
  o.connectionInfo.isSome = true ∨ ∃ reason, o.GaveUp reason

/-- One more failure. -/
def oneMore (before : Nat) : Nat :=
  min (before + 1) (Word.bound 32 - 1)

section Calls

variable {t : List (Entry R)} {entry : Entry R} {e : OperatorError}

theorem endInTransport_append (earlier : List (Entry R)) (later : t ≠ []) :
    Calls.endInTransport (earlier ++ t) = Calls.endInTransport t := by
  unfold Calls.endInTransport
  rw [List.getLast?_append, List.getLast?_eq_some_getLast later, Option.some_or]

theorem endInTransport_cons (later : t ≠ []) :
    Calls.endInTransport (entry :: t) = Calls.endInTransport t :=
  endInTransport_append [entry] later

/-- What is absent was reached. -/
theorem transient_of_absent (absent : e.isNotFound = true) :
    decide (e.errorClass = .transient) = false := by
  have absent : e.errorClass = .notFound := of_decide_eq_true absent
  rw [absent]
  rfl

end Calls

/-! ## The exits -/

namespace Pass

variable {p q : Pass R} {look : Look} {fingerprint : Option String} {t : List (Entry R)}
  {o : Outcome} {e : OperatorError} {message : String}

/-- What a pass makes of the failures before it, with its last call failing in transport or not. -/
inductive Counts (limit before : Nat) (fails : Bool) (o : Outcome) : Prop
  | givenUp {reason : Reason} (gaveUp : o.GaveUp reason) (cleared : o.status.failedAttempts = 0)
      (exhausted : reason = .transportExhausted ↔ fails = true ∧ limit ≤ oneMore before)
  /-- The failure is one that can be borne. -/
  | failed (fails : fails = true) (bearable : oneMore before < limit)
      (counted : o.status.failedAttempts = oneMore before) (unsettled : ¬ o.Settles)
  | passed (reached : fails = false) (same : o.status.failedAttempts = before)
      (unsettled : ¬ o.Settles)
  | converged (reached : fails = false) (cleared : o.status.failedAttempts = 0)
      (connected : o.connectionInfo.isSome = true) (silent : o.errorReason = none)

/-- What an exit of a pass makes of the failures before it. -/
abbrev CountsOn (p : Pass R) (fails : Bool) (o : Outcome) : Prop :=
  Counts p.settings.maxTransientFailures p.status.failedAttempts fails o

/-- A pass that has nothing to report yet, neither how to connect nor why it failed. -/
structure Fresh (p : Pass R) : Prop where
  unconnected : p.connectionInfo = none
  silent : p.errorReason = none

/-- An outcome without connection info that comes back by itself settles nothing. -/
theorem not_settles_of_timed {delay : Duration} (unconnected : o.connectionInfo = none)
    (timed : o.requeue = .after delay) : ¬ o.Settles := by
  rintro (connected | ⟨reason, gaveUp⟩)
  · rw [unconnected] at connected
    cases connected
  · cases timed.symm.trans gaveUp.waits

/-- Only transport failures that are one too many are reported as such. -/
theorem reason_ne_exhausted : e.reason ≠ .transportExhausted := by
  cases e <;> simp [OperatorError.reason]

/-- A record that is given up for another reason has not failed in transport too often. -/
theorem terminal_counts {reason : Reason} (other : reason ≠ .transportExhausted) :
    p.CountsOn false (p.terminal reason message) := by
  refine .givenUp ⟨rfl, rfl⟩ rfl ?_
  simp [other]

/-- A resource that is not ready leaves the count, unless the record is given up for the time. -/
theorem notReady_counts (fresh : p.Fresh) : p.CountsOn false (p.notReady message) := by
  unfold notReady
  split
  · exact terminal_counts (by decide)
  · exact .passed rfl rfl (not_settles_of_timed fresh.unconnected rfl)

theorem externallyDeleted_counts (fresh : p.Fresh) : p.CountsOn false p.externallyDeleted :=
  .passed rfl rfl (not_settles_of_timed fresh.unconnected rfl)

/-- A failure that may pass leaves the count, unless the record is given up for the time. -/
theorem failRetryable_counts (fresh : p.Fresh) : p.CountsOn false (p.failRetryable e) := by
  unfold failRetryable
  split
  · exact terminal_counts (by decide)
  · dsimp only
    split <;> exact .passed rfl rfl (not_settles_of_timed fresh.unconnected rfl)

/-- A failure in transport counts, or is one too many. -/
theorem failTransient_counts (fresh : p.Fresh) : p.CountsOn true (p.failTransient e) := by
  unfold failTransient
  dsimp only
  split
  case isTrue exhausted =>
      have exhausted : p.settings.maxTransientFailures ≤ oneMore p.status.failedAttempts :=
        exhausted
      refine .givenUp ⟨rfl, rfl⟩ rfl ?_
      simp [exhausted]
  case isFalse bearable =>
      have bearable : oneMore p.status.failedAttempts < p.settings.maxTransientFailures :=
        Nat.not_le.mp bearable
      exact .failed rfl bearable rfl (not_settles_of_timed fresh.unconnected rfl)

/-- Every failure counts exactly if it is one in transport. -/
theorem fail_counts (fresh : p.Fresh) :
    p.CountsOn (decide (e.errorClass = .transient)) (p.fail e) := by
  unfold fail
  cases e.errorClass with
  | terminal => exact terminal_counts reason_ne_exhausted
  | retryable => exact failRetryable_counts fresh
  | notFound => exact failRetryable_counts fresh
  | transient => exact failTransient_counts fresh

theorem converged_counts {info : ConnectionInfo} {state : String} (fresh : p.Fresh) :
    p.CountsOn false (p.converged info state) :=
  .converged rfl rfl rfl fresh.silent

/-! ## The courses -/

/-- A look counts exactly if its last call fails in transport. -/
theorem look_counts (fresh : p.Fresh) (course : LookCourse p look t o) :
    t ≠ [] ∧ p.CountsOn (Calls.endInTransport t) o := by
  have saw {state : String} : (p.sawState state).Fresh := ⟨fresh.unconnected, fresh.silent⟩
  have corrects {state : String} : (p.sawState state).beginOperation.Fresh :=
    ⟨fresh.unconnected, fresh.silent⟩
  cases course with
  | @gone e absent =>
      refine ⟨by simp, ?_⟩
      change p.CountsOn (decide (e.errorClass = .transient)) _
      rw [transient_of_absent absent]
      exact externallyDeleted_counts fresh
  | @unseen e absent =>
      refine ⟨by simp, ?_⟩
      change p.CountsOn (decide (e.errorClass = .transient)) _
      rw [transient_of_absent absent]
      exact notReady_counts fresh
  | unread => exact ⟨by simp, fail_counts fresh⟩
  | corrected => exact ⟨by simp, notReady_counts (p := (p.sawState _).beginOperation.mark _)
      ⟨fresh.unconnected, fresh.silent⟩⟩
  | @goneUncorrected remote e rest drifted absent =>
      refine ⟨by simp, ?_⟩
      change p.CountsOn (decide (e.errorClass = .transient)) _
      rw [transient_of_absent absent]
      exact externallyDeleted_counts (p := (p.sawState _).beginOperation) corrects
  | uncorrected => exact ⟨by simp, fail_counts corrects⟩
  | waiting => exact ⟨by simp, notReady_counts saw⟩
  | unconnected => exact ⟨by simp, fail_counts saw⟩
  | converged => exact ⟨by simp, converged_counts saw⟩

/-- An attempt that comes by nothing fails with the error of its last call, or with one that has
nothing to do with transport. -/
theorem ObtainCourse.endInTransport (course : ObtainCourse p t (.error e)) :
    t ≠ [] ∧ Calls.endInTransport t = decide (e.errorClass = .transient) := by
  cases course with
  | refused => exact ⟨by simp, rfl⟩
  | unread => exact ⟨by simp, rfl⟩
  | foreign => exact ⟨by simp, rfl⟩
  | unconformed => exact ⟨by simp, rfl⟩

theorem LookCourse.applied_eq (course : LookCourse p look t o) : p.profile.applied t = false := by
  have inPlace : Calls.updateInPlace t = false := by cases course <;> rfl
  rw [Profile.applied, course.neverCreates.obtained, inPlace]
  rfl

theorem ObtainCourse.not_applied (course : ObtainCourse p t (.error e)) :
    p.profile.applied t = false := by
  have inPlace : Calls.updateInPlace t = false := by cases course <;> rfl
  rw [Profile.applied, course.not_obtained, inPlace]
  rfl

/-- The failures that a pass takes over. -/
def failuresBefore (p : Pass R) (t : List (Entry R)) : Nat :=
  if p.profile.applied t then 0 else p.status.failedAttempts

/-- A look at a resource that was just accepted starts to count anew. -/
theorem accepted_counts {id : String} {mutation : Option Mutation} (fresh : p.Fresh)
    (course : LookCourse (({ p.beginOperation with mutation := mutation }).accept id fingerprint)
      .afterMutation t o) :
    t ≠ [] ∧ Counts p.settings.maxTransientFailures 0 (Calls.endInTransport t) o :=
  look_counts (p := ({ p.beginOperation with mutation := mutation }).accept id fingerprint)
    ⟨fresh.unconnected, fresh.silent⟩ course

theorem failuresBefore_kept (kept : p.profile.applied t = false) :
    p.failuresBefore t = p.status.failedAttempts := by
  rw [failuresBefore, kept]
  rfl

theorem failuresBefore_applied (applied : p.profile.applied t = true) : p.failuresBefore t = 0 := by
  rw [failuresBefore, applied]
  rfl

/-- Where the calls came by a resource, nothing is taken over. -/
theorem failuresBefore_obtained {id : String} (came : p.profile.obtained t = some id) :
    p.failuresBefore t = 0 := by
  apply failuresBefore_applied
  rw [Profile.applied, came]
  rfl

/-- **A step counts its failure**, behind the failures before it or, if it applied the record,
alone. -/
theorem step_counts (fresh : p.Fresh) (course : StepCourse p fingerprint t o) :
    t ≠ [] ∧
      Counts p.settings.maxTransientFailures (p.failuresBefore t) (Calls.endInTransport t) o := by
  have begun : p.beginOperation.Fresh := ⟨fresh.unconnected, fresh.silent⟩
  have failing (e : OperatorError) : Counts p.settings.maxTransientFailures p.status.failedAttempts
      (decide (e.errorClass = .transient)) (p.beginOperation.fail e) := fail_counts begun
  -- What is left to see in each case is whether its calls applied the record: then the count begins
  -- anew.
  cases course with
  | looked rests look =>
      rw [failuresBefore_kept look.applied_eq]
      exact look_counts fresh look
  | unready => exact ⟨by simp, failing _⟩
  | @uncreated t e step obtains =>
      obtain ⟨later, ending⟩ := obtains.endInTransport
      have kept : p.profile.applied (.checked (.ok ()) :: t) = false := by
        obtain ⟨answer, rest, rfl, -⟩ := obtains.creates
        exact obtains.not_applied
      rw [failuresBefore_kept kept, endInTransport_cons later, ending]
      exact ⟨by simp, failing e⟩
  | @created first second id q o step obtains look =>
      have came : p.profile.obtained (.checked (.ok ()) :: (first ++ second)) = some id := by
        rw [Profile.obtained_cons rfl]
        exact obtains.obtained
      obtain ⟨mutation, rfl⟩ := obtain_subject obtains
      obtain ⟨later, counts⟩ := accepted_counts fresh look
      rw [failuresBefore_obtained came, ← List.cons_append, endInTransport_append _ later]
      exact ⟨by simp, counts⟩
  | @goneUnchanged e step absent =>
      refine ⟨by simp, ?_⟩
      change Counts _ p.status.failedAttempts (decide (e.errorClass = .transient)) _
      rw [transient_of_absent absent]
      exact externallyDeleted_counts (p := p.beginOperation) begun
  | unchanged => exact ⟨by simp, failing _⟩
  | @changed t o step look =>
      have applied : p.profile.applied (.checked (.ok ()) ::
          .updated (p.status.id.getD "") (.ok ()) :: t) = true := Bool.or_true _
      obtain ⟨later, counts⟩ := accepted_counts fresh look
      rw [failuresBefore_applied applied, endInTransport_cons (by simp), endInTransport_cons later]
      exact ⟨by simp, counts⟩
  | undeleted => exact ⟨by simp, failing _⟩
  | unconfirmed => exact ⟨by simp, failing _⟩
  | lingering => exact ⟨by simp, failing p.beginOperation.oldResourceError⟩
  | @unreplaced answer gone e t step accepted absent obtains =>
      obtain ⟨later, ending⟩ := obtains.endInTransport
      have kept : p.profile.applied (.checked (.ok ()) :: .deleted p.status.id answer ::
          .got p.status.id (.error gone) :: t) = false := by
        have nothing : p.profile.obtained t = none := obtains.not_obtained
        rw [Profile.applied, Profile.obtained_cons rfl, Profile.obtained_cons rfl,
          Profile.obtained_cons rfl, nothing]
        rfl
      rw [failuresBefore_kept kept, endInTransport_cons (by simp), endInTransport_cons (by simp),
        endInTransport_cons later, ending]
      exact ⟨by simp, failing e⟩
  | @replaced answer gone first second id q o step accepted absent obtains look =>
      have came : p.profile.obtained (.checked (.ok ()) :: .deleted p.status.id answer ::
          .got p.status.id (.error gone) :: (first ++ second)) = some id := by
        rw [Profile.obtained_cons rfl, Profile.obtained_cons rfl, Profile.obtained_cons rfl]
        exact obtains.obtained
      obtain ⟨mutation, rfl⟩ := obtain_subject obtains
      obtain ⟨later, counts⟩ := accepted_counts fresh look
      rw [failuresBefore_obtained came, ← List.cons_append, ← List.cons_append, ← List.cons_append,
        endInTransport_append _ later]
      exact ⟨by simp, counts⟩

end Pass

/-! ## One pass -/

namespace CompletedPass

/-- The last call of a pass failed in transport. -/
def failsInTransport (pass : CompletedPass R) : Bool :=
  Calls.endInTransport pass.asked

/-- A pass applied its record to a resource. -/
def applies (pass : CompletedPass R) : Bool :=
  pass.profile.applied pass.asked

/-- **The step law.**  What a pass over a living record makes of the failures before it. -/
theorem counts (pass : CompletedPass R) (alive : pass.subject.deletionRequested = false) :
    Pass.Counts pass.settings.maxTransientFailures
      (if pass.applies then 0 else pass.subject.status.failedAttempts) pass.failsInTransport
      pass.outcome := by
  obtain ⟨profile, subject, settings, now, asked, o, yields⟩ := pass
  have fresh (step : Step) : (Pass.start profile subject settings now step).Fresh := ⟨rfl, rfl⟩
  cases reconcileOnce_course yields with
  | deleting requested => simp [requested] at alive
  | blocked =>
      refine .passed rfl rfl ?_
      rintro (connected | ⟨reason, gaveUp⟩)
      · cases connected
      · cases gaveUp.failure
  | @unresourced p e _ free begun =>
      change Pass.Counts _ subject.status.failedAttempts (decide (e.errorClass = .transient)) _
      subst begun
      split
      · exact Pass.fail_counts (p := (Pass.start profile subject settings now _).beginOperation)
          ⟨rfl, rfl⟩
      · exact Pass.fail_counts (fresh _)
  | @lived fingerprint t _ _ free course =>
      obtain ⟨later, counts⟩ := Pass.step_counts (fresh _) course
      have ending : Calls.endInTransport (.fingerprinted (.ok fingerprint) :: t) =
          Calls.endInTransport t := endInTransport_cons later
      unfold failsInTransport
      rw [ending]
      exact counts

end CompletedPass

section Counts

variable {limit before : Nat} {fails : Bool} {o : Outcome}

/-- What settles a pass clears the count. -/
theorem Pass.Counts.cleared (counts : Pass.Counts limit before fails o) (settles : o.Settles) :
    o.status.failedAttempts = 0 := by
  cases counts with
  | givenUp gaveUp cleared => exact cleared
  | failed fails bearable counted unsettled => exact absurd settles unsettled
  | passed reached same unsettled => exact absurd settles unsettled
  | converged reached cleared => exact cleared

/-- What settles nothing adds to the count whether the pass failed in transport. -/
theorem Pass.Counts.counted (counts : Pass.Counts limit before fails o)
    (unsettled : ¬ o.Settles) (small : before ≤ Word.bound 32 - 1) :
    o.status.failedAttempts = min (before + fails.toNat) (Word.bound 32 - 1) := by
  cases counts with
  | @givenUp reason gaveUp => exact absurd (.inr ⟨reason, gaveUp⟩) unsettled
  | failed fails bearable counted =>
      rw [counted, fails]
      rfl
  | passed reached same =>
      rw [same, reached]
      exact (Nat.min_eq_left small).symm
  | converged reached cleared connected => exact absurd (.inl connected) unsettled

/-- A record is given up for its transport failures exactly if this one reaches the limit. -/
theorem Pass.Counts.gaveUp_iff (counts : Pass.Counts limit before fails o) :
    o.GaveUp .transportExhausted ↔ fails = true ∧ limit ≤ oneMore before := by
  cases counts with
  | @givenUp reason gaveUp cleared exhausted =>
      rw [← exhausted]
      constructor
      · intro again
        exact Option.some.inj (gaveUp.failure.symm.trans again.failure)
      · rintro rfl
        exact gaveUp
  | failed fails bearable counted unsettled =>
      refine iff_of_false (fun gaveUp => unsettled (.inr ⟨_, gaveUp⟩)) ?_
      exact fun exhausted => Nat.not_le.mpr bearable exhausted.2
  | passed reached same unsettled =>
      refine iff_of_false (fun gaveUp => unsettled (.inr ⟨_, gaveUp⟩)) ?_
      simp [reached]
  | converged reached cleared connected silent =>
      refine iff_of_false (fun gaveUp => ?_) (by simp [reached])
      cases silent.symm.trans gaveUp.failure

end Counts

/-! ## Runs -/

/-- The number of passes that failed in transport. -/
def transportFailures (stretch : List (CompletedPass R)) : Nat :=
  stretch.countP CompletedPass.failsInTransport

/-- Nothing in a stretch of passes cleared the count: none of them settled, and none behind the
first applied the record. -/
structure Uncleared (stretch : List (CompletedPass R)) : Prop where
  unsettled : ∀ pass ∈ stretch, ¬ pass.outcome.Settles
  unapplied : ∀ pass ∈ stretch.tail, pass.applies = false

section Runs

variable {run stretch earlier : List (CompletedPass R)} {pass : CompletedPass R}
  {finish : ResourceStatus}

theorem transportFailures_append :
    transportFailures (stretch ++ [pass]) =
      transportFailures stretch + pass.failsInTransport.toNat := by
  unfold transportFailures
  rw [List.countP_append, List.countP_singleton]
  cases pass.failsInTransport <;> rfl

theorem uncleared_nil : Uncleared ([] : List (CompletedPass R)) :=
  ⟨by simp, by simp⟩

/-- A stretch in which nothing cleared the count goes on with a pass that neither settles nor
applies the record. -/
theorem uncleared_append : Uncleared (stretch ++ [pass]) ↔
    Uncleared stretch ∧ ¬ pass.outcome.Settles ∧ (stretch ≠ [] → pass.applies = false) := by
  constructor
  · rintro ⟨unsettled, unapplied⟩
    rw [List.forall_mem_append, List.forall_mem_singleton] at unsettled
    obtain ⟨unsettledEarlier, unsettledLast⟩ := unsettled
    cases stretch with
    | nil => exact ⟨uncleared_nil, unsettledLast, by simp⟩
    | cons first rest =>
        rw [List.cons_append, List.tail_cons, List.forall_mem_append,
          List.forall_mem_singleton] at unapplied
        exact ⟨⟨unsettledEarlier, unapplied.1⟩, unsettledLast, fun _ => unapplied.2⟩
  · rintro ⟨⟨unsettled, unapplied⟩, unsettledLast, behind⟩
    constructor
    · rw [List.forall_mem_append, List.forall_mem_singleton]
      exact ⟨unsettled, unsettledLast⟩
    · cases stretch with
      | nil => simp
      | cons first rest =>
          rw [List.cons_append, List.tail_cons, List.forall_mem_append, List.forall_mem_singleton]
          exact ⟨unapplied, behind (by simp)⟩

/-- A pass that applied the record stands alone in a stretch in which it can only stand first. -/
theorem alone_of_applies (behind : stretch ≠ [] → pass.applies = false)
    (applies : pass.applies = true) : stretch = [] := by
  cases stretch with
  | nil => rfl
  | cons first rest => cases (behind (List.cons_ne_nil _ _)).symm.trans applies

/-- **What a run has counted**: the failures of a stretch at its end in which nothing cleared the
count. -/
theorem IsRun.counted (isRun : IsRun run finish) : ∃ earlier stretch, run = earlier ++ stretch ∧
    Uncleared stretch ∧
      finish.failedAttempts = min (transportFailures stretch) (Word.bound 32 - 1) := by
  induction isRun with
  | nil => exact ⟨[], [], rfl, uncleared_nil, rfl⟩
  | @snoc run pass before alive ih =>
      obtain ⟨earlier, stretch, split, uncleared, sofar⟩ := ih
      have counts := pass.counts alive
      by_cases settles : pass.outcome.Settles
      · exact ⟨run ++ [pass], [], by simp, uncleared_nil, counts.cleared settles⟩
      cases applies : pass.applies with
      | true =>
          -- The stretch begins anew with the pass that applied the record.
          rw [applies, if_pos rfl] at counts
          have begun : Uncleared ([] ++ [pass]) :=
            uncleared_append.mpr ⟨uncleared_nil, settles, fun behind => absurd rfl behind⟩
          refine ⟨run, [] ++ [pass], rfl, begun, ?_⟩
          rw [transportFailures_append]
          exact counts.counted settles (Nat.zero_le _)
      | false =>
          rw [applies, if_neg Bool.false_ne_true] at counts
          have longer := uncleared_append.mpr ⟨uncleared, settles, fun _ => applies⟩
          refine ⟨earlier, stretch ++ [pass], ?_, longer, ?_⟩
          · rw [split, List.append_assoc]
          · have small : pass.subject.status.failedAttempts ≤ Word.bound 32 - 1 := by
              rw [sofar]
              exact Nat.min_le_right ..
            rw [counts.counted settles small, transportFailures_append, sofar]
            omega

theorem IsRun.counted_small (isRun : IsRun run finish) :
    finish.failedAttempts ≤ Word.bound 32 - 1 := by
  obtain ⟨_, _, -, -, sofar⟩ := isRun.counted
  rw [sofar]
  exact Nat.min_le_right ..

/-- A run has counted no less than the failures of any such stretch. -/
theorem IsRun.counted_ge (isRun : IsRun run finish) (split : run = earlier ++ stretch)
    (uncleared : Uncleared stretch) :
    min (transportFailures stretch) (Word.bound 32 - 1) ≤ finish.failedAttempts := by
  induction isRun generalizing stretch with
  | nil =>
      obtain ⟨-, rfl⟩ := List.append_eq_nil_iff.mp split.symm
      exact Nat.min_le_left ..
  | @snoc run pass before alive ih =>
      rcases List.eq_nil_or_concat stretch with rfl | ⟨shorter, last, rfl⟩
      · exact Nat.le_trans (Nat.min_le_left ..) (Nat.zero_le _)
      rw [List.concat_eq_append, ← List.append_assoc] at split
      obtain ⟨rfl, same⟩ := List.append_inj' split rfl
      obtain rfl : pass = last := by simpa using same
      rw [List.concat_eq_append] at uncleared ⊢
      obtain ⟨uncleared, unsettled, behind⟩ := uncleared_append.mp uncleared
      have sofar := ih rfl uncleared
      have counts := pass.counts alive
      rw [transportFailures_append]
      cases applies : pass.applies with
      | true =>
          rw [applies, if_pos rfl] at counts
          rw [counts.counted unsettled (Nat.zero_le _), alone_of_applies behind applies]
          exact Nat.le_refl _
      | false =>
          rw [applies, if_neg Bool.false_ne_true] at counts
          rw [counts.counted unsettled before.counted_small]
          omega

/-- **When a record is given up for its transport failures.**  Consider passes over a record that is
not being deleted, from no status, of any kind and with any answers.  The last of them gives the
record up because of transport failures exactly if it fails in transport itself and is the end of a
stretch of passes with at least as many such failures as are borne, in which no pass before the last
found the resource converged or gave the record up, and none behind the first applied the record.
What the other passes of the stretch came to makes no difference. -/
theorem gaveUp_inTransport_iff (isRun : IsRun run pass.subject.status)
    (alive : pass.subject.deletionRequested = false)
    (fits : pass.settings.maxTransientFailures < Word.bound 32) :
    pass.outcome.GaveUp .transportExhausted ↔
      pass.failsInTransport = true ∧ ∃ earlier stretch, run = earlier ++ stretch ∧
        Uncleared stretch ∧ (stretch ≠ [] → pass.applies = false) ∧
          pass.settings.maxTransientFailures ≤ transportFailures (stretch ++ [pass]) := by
  rw [(pass.counts alive).gaveUp_iff, and_congr_right_iff]
  intro fails
  have one (stretch : List (CompletedPass R)) :
      transportFailures (stretch ++ [pass]) = transportFailures stretch + 1 := by
    rw [transportFailures_append, fails]
    rfl
  simp only [one]
  unfold oneMore
  constructor
  · intro exhausted
    -- If this pass applied the record, nothing before it counts.
    cases applies : pass.applies with
    | true =>
        rw [applies, if_pos rfl] at exhausted
        exact ⟨run, [], by simp, uncleared_nil, fun behind => absurd rfl behind, by omega⟩
    | false =>
        obtain ⟨earlier, stretch, split, uncleared, sofar⟩ := isRun.counted
        rw [applies, if_neg Bool.false_ne_true, sofar] at exhausted
        exact ⟨earlier, stretch, split, uncleared, fun _ => rfl, by omega⟩
  · rintro ⟨earlier, stretch, split, uncleared, behind, enough⟩
    have sofar := isRun.counted_ge split uncleared
    cases applies : pass.applies with
    | true =>
        rw [alone_of_applies behind applies, transportFailures, List.countP_nil] at enough
        rw [if_pos rfl]
        omega
    | false =>
        rw [if_neg Bool.false_ne_true]
        omega

end Runs

/-! ## Two failures with a look between them -/

namespace Flaky

/-- A resource of this profile is never ready. -/
def profile : Profile Unit := { Steady.profile with isReady _ := false }

/-- Surroundings in which a get is answered as given, and everything else succeeds. -/
def answer (got : Except OperatorError Unit) : (c : Call Unit) → c.Answer
  | .get _ => got
  | call => Steady.answer call

/-- Two transport failures are one too many. -/
def settings : Settings := { Settings.standard with maxTransientFailures := 2 }

/-- A pass from a status at a second. -/
def pass (got : Except OperatorError Unit) (status : ResourceStatus) (second : Int) :
    CompletedPass Unit :=
  .against (answer got) profile ⟨"PostgreSQL", "orders", 1, false, status⟩ settings ⟨second, 0⟩

/-- The answer that is none. -/
def lost : Except OperatorError Unit := .error (.transport "connection refused")

/-- The pass that creates the resource, and fails to read it. -/
def first : CompletedPass Unit := pass lost .initial 0

/-- A pass a minute later, which reads the resource and finds it not ready yet. -/
def second : CompletedPass Unit := pass (.ok ()) first.outcome.status 60

/-- A pass a minute after that, which fails to read the resource. -/
def third : CompletedPass Unit := pass lost second.outcome.status 120

theorem isRun : IsRun [first, second] third.subject.status := by
  have begun : IsRun ([] ++ [first]) first.outcome.status := .snoc .nil rfl
  have lookedAt : IsRun ([first] ++ [second]) second.outcome.status := .snoc begun rfl
  exact lookedAt

end Flaky

/-- A record is given up at its second transport failure although the pass between the two read the
resource. -/
theorem gaveUp_inTransport_iff_flaky :
    Flaky.second.failsInTransport = false ∧
      Flaky.third.outcome.GaveUp .transportExhausted := by
  let first := Flaky.first
  let second := Flaky.second
  let third := Flaky.third
  have unsettled : ∀ pass ∈ [first, second], ¬ pass.outcome.Settles := by
    simp only [List.forall_mem_cons]
    refine ⟨?_, ?_, by simp⟩
    · exact Pass.not_settles_of_timed rfl rfl
    · exact Pass.not_settles_of_timed rfl rfl
  have unapplied : ∀ pass ∈ [first, second].tail, pass.applies = false := by
    rw [List.tail_cons, List.forall_mem_singleton]
    rfl
  have enough : third.settings.maxTransientFailures ≤ transportFailures [first, second, third] := by
    decide
  refine ⟨rfl, (gaveUp_inTransport_iff Flaky.isRun rfl (by decide)).mpr ?_⟩
  exact ⟨rfl, [], [first, second], rfl, ⟨unsettled, unapplied⟩, fun _ => rfl, enough⟩

/-- Transport failures that give a record up need not be consecutive. -/
theorem gaveUp_inTransport_not_consecutive :
    ¬ ∀ (run : List (CompletedPass Unit)) (pass : CompletedPass Unit),
      IsRun run pass.subject.status → pass.subject.deletionRequested = false →
        pass.outcome.GaveUp .transportExhausted →
          ∃ earlier recent, run ++ [pass] = earlier ++ recent ∧
            recent.length = pass.settings.maxTransientFailures ∧
              ∀ failing ∈ recent, failing.failsInTransport = true := by
  intro consecutive
  obtain ⟨earlier, recent, split, two, failing⟩ :=
    consecutive [Flaky.first, Flaky.second] Flaky.third Flaky.isRun rfl
      ⟨rfl, rfl⟩
  have split : [Flaky.first] ++ [Flaky.second, Flaky.third] = earlier ++ recent := split
  obtain ⟨-, same⟩ := List.append_inj' split two.symm
  rw [← same] at failing
  cases failing Flaky.second (List.mem_cons_self ..)

end ServiceOperator
