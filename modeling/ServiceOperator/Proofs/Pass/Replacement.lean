import ServiceOperator.Proofs.Pass.Runs

/-!
# Replacements over many passes

A kind that cannot apply a new generation in place deletes the old resource and creates another one.
Between the two, every call may fail, and the pass is then over: what is half done has to be taken
up again by a later pass, which knows nothing but the status.  Two laws make that safe.

* `CreatesAfterRemoval`: a pass that knows a resource creates another one only behind a delete of
  the one that it knows and a get that finds it gone, both in the same pass.
* `Holding`: the id and the generation applied to it change together.  A replacement changes them
  when it has come by a resource (`Profile.obtained`), and not before.

Both are laws of one pass; the second carries them through a run (`replacement_protocol`).

### Where a replacement may stop

* Before the delete, or at one that fails: the old resource is known, and the next pass replaces it.
* Between the delete and the get that finds it gone: the next pass deletes again, which an absence
  does not hinder, and looks again.
* Between the get and the create, or at a create that fails: the same once more.
* Behind the create: the status knows the new resource, and the replacement is over.

In the first three the id and the generation in the status are those from the start, so a
replacement needs no memory of its own.
-/

namespace ServiceOperator

open Calls (Entry DeleteAccepted)

variable {R : Type}

/-! ## What the calls of a pass came by -/

namespace Profile

/-- The resource that is taken over behind a create that collided: one that fits and, if the record
names it, has been made what the record declares. -/
def adopted (profile : Profile R) : List (Entry R) → Option String
  | ⟨.get none, .ok remote⟩ :: rest =>
      if profile.matchesExisting remote then
        match profile.identity, rest with
        | .server, _ => some (profile.remoteId remote)
        | .name, ⟨.update _, .ok ()⟩ :: _ => some (profile.remoteId remote)
        | .name, _ => none
      else none
  | _ => none

/-- The id of the resource that a pass came by, by a create or by taking over an existing one. -/
def obtained (profile : Profile R) : List (Entry R) → Option String
  | [] => none
  | ⟨.create, .ok id⟩ :: _ => some id
  | ⟨.create, .error met⟩ :: rest => if met.isAlreadyExists then profile.adopted rest else none
  | _ :: rest => profile.obtained rest

end Profile

/-- The call that makes a resource. -/
def Call.creates : Call R → Bool
  | .create => true
  | _ => false

/-- No create is among the calls. -/
def NeverCreates (t : List (Entry R)) : Prop :=
  ∀ entry ∈ t, entry.1.creates = false

/-- Nothing is created unless the resource that was known has been deleted, and was then seen to be
gone. -/
def CreatesAfterRemoval (old : String) (t : List (Entry R)) : Prop :=
  ∀ before answer after, t = before ++ .created answer :: after → ∃ earlier deletion e,
    before = earlier ++ [.deleted (some old) deletion, .got (some old) (.error e)] ∧
      DeleteAccepted deletion ∧ e.isNotFound = true

section Calls

variable {profile : Profile R} {old : String} {entry : Entry R} {t : List (Entry R)}

theorem NeverCreates.tail (never : NeverCreates (entry :: t)) : NeverCreates t :=
  fun _ member => never _ (List.mem_cons_of_mem _ member)

theorem NeverCreates.not_mem {answer : Except OperatorError String} (never : NeverCreates t) :
    .created answer ∉ t := by
  intro member
  have := never _ member
  simp [Call.creates] at this

/-- Calls that create nothing, one list behind the other, create nothing. -/
theorem NeverCreates.append {later : List (Entry R)} (never : NeverCreates t)
    (neverLater : NeverCreates later) : NeverCreates (t ++ later) := by
  intro entry member
  rcases List.mem_append.mp member with member | member
  · exact never _ member
  · exact neverLater _ member

/-- Only a create can lead to a resource. -/
theorem Profile.obtained_cons (other : entry.1.creates = false) :
    profile.obtained (entry :: t) = profile.obtained t := by
  obtain ⟨call, answer⟩ := entry
  cases call with
  | create => cases other
  | _ => rfl

theorem NeverCreates.obtained (never : NeverCreates t) : profile.obtained t = none := by
  induction t with
  | nil => rfl
  | cons entry t ih =>
      rw [Profile.obtained_cons (never entry (List.mem_cons_self ..))]
      exact ih never.tail

theorem NeverCreates.createsAfterRemoval (never : NeverCreates t) : CreatesAfterRemoval old t := by
  rintro before answer after rfl
  exact (never.not_mem (List.mem_append_right _ (List.mem_cons_self ..))).elim

theorem mem_of_mem_cons {answer : Except OperatorError String} (other : entry.1.creates = false)
    (made : .created answer ∈ entry :: t) : .created answer ∈ t := by
  rcases List.mem_cons.mp made with rfl | made
  · simp [Call.creates] at other
  · exact made

/-- A call in front that creates nothing is as good as one more of the calls that come before the
removal. -/
theorem CreatesAfterRemoval.cons (creates : CreatesAfterRemoval old t)
    (other : entry.1.creates = false) : CreatesAfterRemoval old (entry :: t) := by
  intro before answer after split
  cases before with
  | nil =>
      obtain ⟨rfl, -⟩ := List.cons.inj split
      simp [Call.creates] at other
  | cons first before =>
      obtain ⟨rfl, same⟩ := List.cons.inj split
      obtain ⟨earlier, deletion, e, rfl, removed⟩ := creates _ _ _ same
      exact ⟨entry :: earlier, deletion, e, rfl, removed⟩

/-- A create directly behind the removal, and no other one. -/
theorem CreatesAfterRemoval.removed {deletion : Except OperatorError Unit} {gone : OperatorError}
    {answer : Except OperatorError String} (accepted : DeleteAccepted deletion)
    (absent : gone.isNotFound = true) (never : NeverCreates t) :
    CreatesAfterRemoval old
      (.deleted (some old) deletion :: .got (some old) (.error gone) :: .created answer :: t) := by
  intro before created after split
  match before, split with
  | [_, _], split =>
      cases split
      exact ⟨[], deletion, gone, rfl, accepted, absent⟩
  | _ :: _ :: _ :: before, split =>
      cases split
      exact (never.not_mem (List.mem_append_right before (List.mem_cons_self ..))).elim

end Calls

namespace Pass

variable {p : Pass R} {look : Look} {t rest : List (Entry R)} {o : Outcome}

theorem LookCourse.neverCreates (course : LookCourse p look t o) : NeverCreates t := by
  cases course <;> simp [NeverCreates, Call.creates]

/-- An attempt to come by a resource makes one create, as its first call. -/
theorem ObtainCourse.creates {result : Except OperatorError (String × Pass R)}
    (course : ObtainCourse p t result) :
    ∃ answer later, t = .created answer :: later ∧ NeverCreates later := by
  cases course <;> exact ⟨_, _, rfl, by simp [NeverCreates, Call.creates]⟩

/-- An attempt that succeeds came by the resource that it hands on. -/
theorem ObtainCourse.obtained {id : String} {q : Pass R}
    (course : ObtainCourse p t (.ok (id, q))) : p.profile.obtained (t ++ rest) = some id := by
  cases course with
  | created => rfl
  | adopted taken fits server => simp [Profile.obtained, Profile.adopted, taken, fits, server]
  | conformed taken fits named => simp [Profile.obtained, Profile.adopted, taken, fits, named]

/-- An attempt that fails came by none. -/
theorem ObtainCourse.not_obtained {e : OperatorError} (course : ObtainCourse p t (.error e)) :
    p.profile.obtained t = none := by
  cases course with
  | refused fresh => simp [Profile.obtained, fresh]
  | unread taken => simp [Profile.obtained, Profile.adopted]
  | foreign taken differs => simp [Profile.obtained, Profile.adopted, differs]
  | unconformed taken fits named => simp [Profile.obtained, Profile.adopted, taken, fits, named]

/-! ## One step -/

variable {fingerprint : Option String}

/-- A look retains the resource, or forgets one that it was to find in place. -/
theorem look_retains (course : LookCourse p look t o) :
    p.Retains o ∨
      look = .atRest ∧ o.status.id = none ∧ o.status.observedGeneration = none := by
  cases course with
  | gone absent rest => exact .inr ⟨rest, rfl, rfl⟩
  | unseen => exact .inl notReady_retains
  | unread => exact .inl fail_retains
  | corrected => exact .inl (notReady_retains.of_same rfl rfl rfl)
  | goneUncorrected rest => exact .inr ⟨rest, rfl, rfl⟩
  | uncorrected => exact .inl (fail_retains.of_same rfl rfl rfl)
  | waiting => exact .inl (notReady_retains.of_same rfl rfl rfl)
  | unconnected => exact .inl (fail_retains.of_same rfl rfl rfl)
  | converged => exact .inl (converged_retains.of_same rfl rfl rfl)

/-- What a pass leaves of the resource that it knew and of the generation that was applied to it. -/
inductive Holding (p : Pass R) (t : List (Entry R)) (o : Outcome) : Prop
  | kept (nothing : p.profile.obtained t = none) (id : o.status.id = p.status.id)
      (observed : o.status.observedGeneration = p.status.observedGeneration)
  | obtained {id : String} (came : p.profile.obtained t = some id) (id : o.status.id = some id)
      (observed : o.status.observedGeneration = some p.subject.generation)
  | applied (step : p.step = .update) (id : o.status.id = some (p.status.id.getD ""))
      (observed : o.status.observedGeneration = some p.subject.generation)
  | forgotten (step : p.step = .update ∨ p.step = .awaitReady ∨ p.step = .observe)
      (id : o.status.id = none) (observed : o.status.observedGeneration = none)

/-- A call in front that creates nothing does not change what is held. -/
theorem Holding.cons {entry : Entry R} (holding : p.Holding t o)
    (other : entry.1.creates = false) : p.Holding (entry :: t) o := by
  have same : p.profile.obtained (entry :: t) = p.profile.obtained t := Profile.obtained_cons other
  cases holding with
  | kept nothing id observed => exact .kept (same.trans nothing) id observed
  | obtained came id observed => exact .obtained (same.trans came) id observed
  | applied step id observed => exact .applied step id observed
  | forgotten step id observed => exact .forgotten step id observed

theorem Holding.of_retains (nothing : p.profile.obtained t = none) (retains : p.Retains o) :
    p.Holding t o :=
  .kept nothing retains.id retains.observedGeneration

/-- A look at a resource that was just accepted leaves that one, with the present generation and
with the source secret that was read before. -/
theorem accepted_holds {q : Pass R} {id : String}
    (course : LookCourse (q.accept id fingerprint) .afterMutation t o) :
    o.status.id = some id ∧ o.status.observedGeneration = some q.subject.generation ∧
      o.status.sourceFingerprint = fingerprint := by
  rcases look_retains course with retains | ⟨rest, -⟩
  · exact ⟨retains.id, retains.observedGeneration, retains.sourceFingerprint⟩
  · cases rest

/-- **The id and the generation applied to it change together**, whatever the step. -/
theorem step_holding (course : StepCourse p fingerprint t o) : p.Holding t o := by
  have failing (e : OperatorError) : p.Retains (p.beginOperation.fail e) :=
    fail_retains.of_same rfl rfl rfl
  cases course with
  | looked rests look =>
      rcases look_retains look with retains | ⟨-, id, observed⟩
      · exact .of_retains look.neverCreates.obtained retains
      · exact .forgotten (.inr rests) id observed
  | unready => exact .of_retains rfl (failing _)
  | uncreated step obtains => exact .of_retains obtains.not_obtained (failing _)
  | created step obtains look =>
      obtain ⟨mutation, rfl⟩ := obtain_subject obtains
      obtain ⟨id, observed, -⟩ := accepted_holds look
      exact .obtained obtains.obtained id observed
  | goneUnchanged step => exact .forgotten (.inl step) rfl rfl
  | unchanged => exact .of_retains rfl (failing _)
  | changed step look =>
      obtain ⟨id, observed, -⟩ := accepted_holds look
      exact .applied step id observed
  | undeleted => exact .of_retains rfl (failing _)
  | unconfirmed => exact .of_retains rfl (failing _)
  | lingering => exact .of_retains rfl (failing _)
  | unreplaced step accepted absent obtains => exact .of_retains obtains.not_obtained (failing _)
  | replaced step accepted absent obtains look =>
      obtain ⟨mutation, rfl⟩ := obtain_subject obtains
      obtain ⟨id, observed, -⟩ := accepted_holds look
      exact .obtained obtains.obtained id observed

/-- A step that is not a plain create removes the resource that is known before it makes another. -/
theorem step_createsAfterRemoval {old : String} (course : StepCourse p fingerprint t o)
    (known : p.status.id = some old) (other : p.step ≠ .create) : CreatesAfterRemoval old t := by
  cases course with
  | looked rests look => exact look.neverCreates.createsAfterRemoval
  | uncreated step => exact absurd step other
  | created step => exact absurd step other
  | changed step look =>
      exact (look.neverCreates.createsAfterRemoval.cons rfl).cons rfl
  | unreplaced step accepted absent obtains =>
      obtain ⟨answer, later, rfl, never⟩ := obtains.creates
      rw [known]
      exact (CreatesAfterRemoval.removed accepted absent never).cons rfl
  | replaced step accepted absent obtains look =>
      obtain ⟨answer, later, rfl, never⟩ := obtains.creates
      rw [known]
      exact (CreatesAfterRemoval.removed accepted absent (never.append look.neverCreates)).cons rfl
  | _ => exact NeverCreates.createsAfterRemoval (by simp [NeverCreates, Call.creates])

end Pass

/-! ## One pass -/

/-- A status names a resource exactly if a generation is applied to one. -/
def ResourceStatus.Paired (s : ResourceStatus) : Prop :=
  s.id.isSome = s.observedGeneration.isSome

namespace CompletedPass

variable {old : String} {observed : Int}

/-- A pass leaves the resource of its record and the generation applied to it as they are, or, if it
came by a resource, leaves that one with the generation of the record. -/
def TurnsOver (pass : CompletedPass R) : Prop :=
  match pass.profile.obtained pass.asked with
  | none =>
      pass.outcome.status.id = pass.subject.status.id ∧
        pass.outcome.status.observedGeneration = pass.subject.status.observedGeneration
  | some id =>
      pass.outcome.status.id = some id ∧
        pass.outcome.status.observedGeneration = some pass.subject.generation

/-- What a pass over a living record holds, with the step that was planned for it. -/
theorem holding (pass : CompletedPass R) (alive : pass.subject.deletionRequested = false) :
    ∃ step, (step = .blocked ∨ ∃ fingerprint,
        ¬ pass.subject.status.Blocks pass.subject.generation ∧
          step = pass.subject.plan fingerprint pass.profile.requiresReplace) ∧
      (Pass.start pass.profile pass.subject pass.settings pass.now step).Holding pass.asked
        pass.outcome := by
  obtain ⟨profile, subject, settings, now, asked, o, yields⟩ := pass
  cases reconcileOnce_course yields with
  | deleting requested => simp [requested] at alive
  | blocked => exact ⟨.blocked, .inl rfl, .kept rfl rfl rfl⟩
  | unresourced _ free begun =>
      refine ⟨_, .inr ⟨none, free, rfl⟩, .of_retains rfl ?_⟩
      rw [← begun]
      split
      · exact Pass.fail_retains.of_same rfl rfl rfl
      · exact Pass.fail_retains
  | @lived fingerprint t _ _ free course =>
      exact ⟨_, .inr ⟨fingerprint, free, rfl⟩, (Pass.step_holding course).cons rfl⟩

/-- A pass that finds an id and a generation, or neither, leaves it at that. -/
theorem paired (pass : CompletedPass R) (alive : pass.subject.deletionRequested = false)
    (paired : pass.subject.status.Paired) : pass.outcome.status.Paired := by
  obtain ⟨step, -, holding⟩ := pass.holding alive
  unfold ResourceStatus.Paired
  cases holding with
  | kept nothing id observed =>
      rw [id, observed]
      exact paired
  | obtained came id observed => simp [id, observed]
  | applied step id observed => simp [id, observed]
  | forgotten step id observed => simp [id, observed]

/-- A pass that knows a resource with a generation applied to it removes that one before it makes
another, whatever the generations. -/
theorem createsAfterRemoval (pass : CompletedPass R)
    (alive : pass.subject.deletionRequested = false) (paired : pass.subject.status.Paired)
    (known : pass.subject.status.id = some old) : CreatesAfterRemoval old pass.asked := by
  have applied : pass.subject.status.observedGeneration ≠ none := by
    intro unapplied
    rw [ResourceStatus.Paired, known, unapplied] at paired
    cases paired
  obtain ⟨profile, subject, settings, now, asked, o, yields⟩ := pass
  change CreatesAfterRemoval old asked
  cases reconcileOnce_course yields with
  | deleting requested => simp [requested] at alive
  | blocked => exact NeverCreates.createsAfterRemoval (by simp [NeverCreates])
  | unresourced =>
      exact NeverCreates.createsAfterRemoval (by simp [NeverCreates, Call.creates])
  | @lived fingerprint t _ _ free course =>
      refine (Pass.step_createsAfterRemoval course known ?_).cons rfl
      intro creates
      rcases plan_eq_create creates with unknown | unapplied
      · cases known.symm.trans unknown
      · exact applied unapplied

/-- A pass over a record whose resource has to be replaced keeps to the old resource and its
generation until it has come by another one. -/
theorem turnsOver (pass : CompletedPass R) (alive : pass.subject.deletionRequested = false)
    (replaces : pass.profile.requiresReplace = true) (known : pass.subject.status.id = some old)
    (applied : pass.subject.status.observedGeneration = some observed)
    (behind : pass.subject.generation ≠ observed) : pass.TurnsOver := by
  obtain ⟨step, planned, holding⟩ := pass.holding alive
  have known : pass.subject.status.id.isSome = true := by simp [known]
  have planned : step = .blocked ∨ step = .replace := by
    rcases planned with rfl | ⟨fingerprint, free, rfl⟩
    · exact .inl rfl
    · rw [replaces]
      exact .inr (plan_eq_replace alive free known applied behind)
  unfold TurnsOver
  cases holding with
  | kept nothing id observed =>
      rw [show pass.profile.obtained pass.asked = none from nothing]
      exact ⟨id, observed⟩
  | @obtained id came sameId observed =>
      rw [show pass.profile.obtained pass.asked = some id from came]
      exact ⟨sameId, observed⟩
  | applied updates => rcases planned with rfl | rfl <;> cases updates
  | forgotten rests => rcases planned with rfl | rfl <;> simp [Pass.start] at rests

end CompletedPass

/-! ## Runs -/

section Runs

variable {start finish : ResourceStatus} {run : List (CompletedPass R)} {old : String}
  {observed : Int}

theorem RunsFrom.paired (runs : RunsFrom start run finish) (paired : start.Paired)
    (alive : ∀ pass ∈ run, pass.subject.deletionRequested = false) : finish.Paired := by
  induction runs with
  | nil => exact paired
  | @cons pass run finish later ih =>
      exact ih (pass.paired (alive _ (List.mem_cons_self ..)) paired)
        fun other member => alive other (List.mem_cons_of_mem _ member)

/-- As long as no pass comes by a resource, the status keeps the old one and its generation. -/
theorem RunsFrom.keeps (runs : RunsFrom start run finish) (known : start.id = some old)
    (applied : start.observedGeneration = some observed)
    (alive : ∀ pass ∈ run, pass.subject.deletionRequested = false)
    (replaces : ∀ pass ∈ run, pass.profile.requiresReplace = true)
    (behind : ∀ pass ∈ run, pass.subject.generation ≠ observed)
    (nothing : ∀ pass ∈ run, pass.profile.obtained pass.asked = none) :
    finish.id = some old ∧ finish.observedGeneration = some observed := by
  induction runs with
  | nil => exact ⟨known, applied⟩
  | @cons pass run finish later ih =>
      simp only [List.forall_mem_cons] at alive replaces behind nothing
      have turns := pass.turnsOver alive.1 replaces.1 known applied behind.1
      rw [CompletedPass.TurnsOver, nothing.1] at turns
      exact ih (turns.1.trans known) (turns.2.trans applied) alive.2 replaces.2 behind.2 nothing.2

/-- **Replacements over whole runs.**  Consider passes over a record that is not being deleted, of a
kind that replaces, from a status that names a resource with a generation applied to it, all at
other generations than that.

Every pass that starts from a resource creates another one only once the delete of that one was
accepted and a get found it gone.  Until a pass has come by a resource, by a create or by taking
over the one that the create met, the status keeps the old resource and its generation, whatever
failed.  The pass that comes by one leaves it in the status together with the generation of the
record. -/
theorem replacement_protocol {earlier later : List (CompletedPass R)} {pass : CompletedPass R}
    (runs : RunsFrom start run finish) (known : start.id = some old)
    (applied : start.observedGeneration = some observed)
    (alive : ∀ pass ∈ run, pass.subject.deletionRequested = false)
    (replaces : ∀ pass ∈ run, pass.profile.requiresReplace = true)
    (behind : ∀ pass ∈ run, pass.subject.generation ≠ observed)
    (split : run = earlier ++ pass :: later) :
    (∀ stored, pass.subject.status.id = some stored → CreatesAfterRemoval stored pass.asked) ∧
      ((∀ other ∈ earlier, other.profile.obtained other.asked = none) →
        pass.subject.status.id = some old ∧
          pass.subject.status.observedGeneration = some observed ∧ pass.TurnsOver) := by
  subst split
  -- The run is cut in front of the pass.
  obtain ⟨middle, runsEarlier, runsLater⟩ := runsFrom_append.mp runs
  have handedOn : middle = pass.subject.status := by
    cases runsLater
    rfl
  subst handedOn
  simp only [List.forall_mem_append, List.forall_mem_cons] at alive replaces behind
  obtain ⟨aliveEarlier, alivePass, -⟩ := alive
  obtain ⟨replacesEarlier, replacesPass, -⟩ := replaces
  obtain ⟨behindEarlier, behindPass, -⟩ := behind
  constructor
  · intro stored knows
    have paired : start.Paired := by simp [ResourceStatus.Paired, known, applied]
    exact pass.createsAfterRemoval alivePass (runsEarlier.paired paired aliveEarlier) knows
  · intro nothing
    obtain ⟨knows, appliedStill⟩ := runsEarlier.keeps known applied aliveEarlier replacesEarlier
      behindEarlier nothing
    exact ⟨knows, appliedStill,
      pass.turnsOver alivePass replacesPass knows appliedStill behindPass⟩

end Runs

/-! ## A replacement in three passes -/

namespace HalfReplaced

/-- Resources are their ids, which the control plane assigns, and none can be changed in place. -/
def profile : Profile String where
  identity := .server
  requiresReplace := true
  isReady _ := true
  observedState _ := "ACTIVE"
  remoteId remote := remote
  matchesExisting _ := true
  needsUpdate _ := false

/-- A control plane whose delete and whose get of the old resource are answered as given.  Another
resource is there already, so that a create collides. -/
def answer (deletion : Except OperatorError Unit) (old : Except OperatorError String) :
    (c : Call String) → c.Answer
  | .sourceFingerprint => .ok none
  | .checkPreconditions => .ok ()
  | .create => .error (.alreadyExists "vpc")
  | .update _ => .ok ()
  | .get (some id) => if id = "old" then old else .ok id
  | .get none => .ok "new"
  | .delete _ => deletion
  | .connectionInfo _ => .ok .empty

/-- A resource with the first generation applied to it. -/
def status : ResourceStatus :=
  { ResourceStatus.initial with id := some "old", observedGeneration := some 1 }

/-- A pass over the second generation, from a status. -/
def pass (deletion : Except OperatorError Unit) (old : Except OperatorError String)
    (status : ResourceStatus) : CompletedPass String :=
  .against (answer deletion old) profile ⟨"ProjectVpc", "vpc", 2, false, status⟩ .standard ⟨0, 0⟩

/-- The delete fails. -/
def first : CompletedPass String := pass (.error (.retryLater 503 "")) (.ok "old") status

/-- The old resource is still there behind the delete. -/
def second : CompletedPass String := pass (.ok ()) (.ok "old") first.outcome.status

/-- The old resource is gone, and the one that is there is taken over. -/
def third : CompletedPass String :=
  pass (.error (.notFound "vpc")) (.error (.notFound "vpc")) second.outcome.status

end HalfReplaced

/-- A replacement that is taken up again twice ends with the other resource and the second
generation. -/
theorem replacement_protocol_half :
    .created (.error (.alreadyExists "vpc")) ∈ HalfReplaced.third.asked ∧
      CreatesAfterRemoval "old" HalfReplaced.third.asked ∧
      HalfReplaced.third.subject.status.observedGeneration = some 1 ∧
      HalfReplaced.third.outcome.status.id = some "new" ∧
      HalfReplaced.third.outcome.status.observedGeneration = some 2 := by
  let first := HalfReplaced.first
  let second := HalfReplaced.second
  let third := HalfReplaced.third
  have last : RunsFrom third.subject.status [third] third.outcome.status := .cons (.nil _)
  have lastTwo : RunsFrom second.subject.status [second, third] third.outcome.status := .cons last
  have runs : RunsFrom first.subject.status [first, second, third] third.outcome.status :=
    .cons lastTwo
  have known : first.subject.status.id = some "old" := rfl
  have applied : first.subject.status.observedGeneration = some 1 := rfl
  have alive : ∀ pass ∈ [first, second, third], pass.subject.deletionRequested = false := by
    simp only [List.forall_mem_cons]
    exact ⟨rfl, rfl, rfl, by simp⟩
  have replaces : ∀ pass ∈ [first, second, third], pass.profile.requiresReplace = true := by
    simp only [List.forall_mem_cons]
    exact ⟨rfl, rfl, rfl, by simp⟩
  have behind : ∀ pass ∈ [first, second, third], pass.subject.generation ≠ 1 := by
    simp only [List.forall_mem_cons]
    exact ⟨by decide, by decide, by decide, by simp⟩
  have split : [first, second, third] = [first, second] ++ third :: [] := rfl
  have nothing : ∀ other ∈ [first, second], other.profile.obtained other.asked = none := by
    simp only [List.forall_mem_cons]
    exact ⟨rfl, rfl, by simp⟩
  obtain ⟨creates, keeps⟩ := replacement_protocol runs known applied alive replaces behind split
  obtain ⟨knownStill, appliedStill, id, observed⟩ := keeps nothing
  have created : .created (.error (.alreadyExists "vpc")) ∈ third.asked :=
    .tail _ (.tail _ (.tail _ (.tail _ (.head _))))
  exact ⟨created, creates "old" knownStill, appliedStill, id, observed⟩

end ServiceOperator
