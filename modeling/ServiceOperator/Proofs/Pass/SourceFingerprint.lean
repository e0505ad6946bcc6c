import ServiceOperator.Proofs.Pass.Courses
import ServiceOperator.Proofs.Program.Abreast

/-!
# What a pass makes of a fingerprint

A pass learns the fingerprint of the source secret before it does anything, compares it with the one
that is noted, and has it noted once it is applied.  It does nothing else with it.  So two passes
over the same record that learn different fingerprints, neither of which is the noted one, make the
same calls as long as they get the same answers, and what they leave behind differs in the noted
fingerprint alone (`reconcileOnce_abreast`).

What is noted reaches the exits, but they hand it on without a look (`Pass.Blind`).

### Why two runs

That a pass does nothing else with a fingerprint is no property of one run: whatever a run did, it
did under one fingerprint.  It takes two of them, side by side, and the relation between them
(`Program.Abreast`) has to survive the one question whose answers differ.  What is asked behind it
is asked by passes that differ in the noted fingerprint alone, and `Blind` says that their exits
differ in no more.
-/

namespace ServiceOperator

open Program (Abreast Likeness)

/-- Two fingerprints that are compared alike with the noted one: they are the same, or neither is
the noted one. -/
inductive Indistinct (noted : Option String) : Option String → Option String → Prop
  | same (f : Option String) : Indistinct noted f f
  | changed {f g : String} (first : noted ≠ some f) (second : noted ≠ some g) :
      Indistinct noted (some f) (some g)

/-- An outcome with another fingerprint noted. -/
def Outcome.noting (o : Outcome) (f : Option String) : Outcome :=
  { o with status := { o.status with sourceFingerprint := f } }

/-- Two outcomes that differ at most in the fingerprint that they note, and there without a
difference to one who knows what was noted before. -/
def Outcome.Alike (noted : Option String) (o o' : Outcome) : Prop :=
  ∃ g, o' = o.noting g ∧ Indistinct noted o.status.sourceFingerprint g

theorem Outcome.Alike.refl {noted : Option String} (o : Outcome) : o.Alike noted o :=
  ⟨o.status.sourceFingerprint, rfl, .same _⟩

/-- Whether a resource carries the present source secret is decided alike. -/
theorem plan_eq_of_indistinct {s : ResourceStatus} {generation : Int} {deletes replaces : Bool}
    {f g : Option String} (indistinct : Indistinct s.sourceFingerprint f g) :
    plan s ⟨generation, deletes, f⟩ replaces = plan s ⟨generation, deletes, g⟩ replaces := by
  cases indistinct with
  | same f => rfl
  | changed first second =>
      have news : some _ ≠ s.sourceFingerprint ∧ some _ ≠ s.sourceFingerprint :=
        ⟨first.symm, second.symm⟩
      simp only [plan, Option.isSome_some, true_and, if_pos news.1, if_pos news.2]

/-! ## Calls -/

namespace Calls

variable {R : Type} {α β : Type} {noted : Option String}

/-- Two answers to a call that differ at most if it asks for the fingerprint of the source
secret. -/
inductive AnsweredAlike (noted : Option String) : (c c' : Call R) → c.Answer → c'.Answer → Prop
  | same {c : Call R} (answer : c.Answer) : AnsweredAlike noted c c answer answer
  | fingerprint {f g : Option String} (indistinct : Indistinct noted f g) :
      AnsweredAlike noted .sourceFingerprint .sourceFingerprint (.ok f) (.ok g)

/-- The same calls, and answers that differ at most in the fingerprint of the source secret. -/
def likeness (noted : Option String) : Likeness (Call.Answer (R := R)) where
  Questions := Eq
  Answers := AnsweredAlike noted

/-- Any other call is answered the same. -/
theorem call_abreast {S : α → β → Prop} {c : Call R} {f : c.Answer → Calls R α}
    {g : c.Answer → Calls R β} (other : c ≠ .sourceFingerprint)
    (rest : ∀ answer, Abreast (likeness noted) S (f answer) (g answer)) :
    Abreast (likeness noted) S (.question c >>= f) (.question c >>= g) := by
  refine .ask rfl fun x y answered => ?_
  cases answered with
  | same => exact rest x
  | fingerprint indistinct => exact absurd rfl other

end Calls

namespace Pass

open Calls (likeness call_abreast)

variable {R : Type} {p : Pass R} {noted f g : Option String} {e : OperatorError} {message : String}

/-! ## Exits -/

/-- A pass with another fingerprint noted. -/
def noting (p : Pass R) (f : Option String) : Pass R :=
  { p with status := { p.status with sourceFingerprint := f } }

/-- An exit hands the noted fingerprint on, and is the same whatever it is. -/
def Blind (exit : Pass R → Outcome) : Prop :=
  ∀ p f, exit (p.noting f) = (exit p).noting f

/-- A blind exit turns passes that differ in what they note into outcomes that differ in no more. -/
theorem Blind.alike {exit : Pass R → Outcome} (blind : Blind exit)
    (indistinct : Indistinct noted p.status.sourceFingerprint g) :
    (exit p).Alike noted (exit (p.noting g)) := by
  have kept : (exit p).status.sourceFingerprint = p.status.sourceFingerprint :=
    congrArg (fun o => o.status.sourceFingerprint) (blind p p.status.sourceFingerprint)
  refine ⟨g, blind p g, ?_⟩
  rw [kept]
  exact indistinct

/-- An exit that takes one of two ways, without a look at the noted fingerprint. -/
theorem Blind.ite {condition : Pass R → Prop} [∀ p, Decidable (condition p)]
    {yes no : Pass R → Outcome} (yesBlind : Blind yes) (noBlind : Blind no)
    (steady : ∀ p f, condition (p.noting f) ↔ condition p) :
    Blind fun p => if condition p then yes p else no p := by
  intro p f
  by_cases holds : condition p
  · simp only [if_pos holds, if_pos ((steady p f).mpr holds), yesBlind p f]
  · simp only [if_neg holds, if_neg fun again => holds ((steady p f).mp again), noBlind p f]

theorem terminal_blind {reason : Reason} : Blind (R := R) fun p => p.terminal reason message :=
  fun _ _ => rfl

theorem notReady_blind : Blind (R := R) fun p => p.notReady message :=
  .ite (fun _ _ => rfl) (fun _ _ => rfl) fun _ _ => Iff.rfl

theorem externallyDeleted_blind : Blind (R := R) externallyDeleted := fun _ _ => rfl

theorem converged_blind {info : ConnectionInfo} {state : String} :
    Blind (R := R) fun p => p.converged info state :=
  fun _ _ => rfl

/-- A failure that may pass looks at the clock and at the conditions, and not at what is noted. -/
theorem failRetryable_blind : Blind (R := R) fun p => p.failRetryable e := by
  refine .ite (fun _ _ => rfl) ?_ fun _ _ => Iff.rfl
  intro p f
  have running : ((p.noting f).setError true e.reason e.message).status.isRunning =
      (p.setError true e.reason e.message).status.isRunning := rfl
  dsimp only
  rw [running]
  cases (p.setError true e.reason e.message).status.isRunning <;> rfl

theorem failTransient_blind : Blind (R := R) fun p => p.failTransient e :=
  .ite (fun _ _ => rfl) (fun _ _ => rfl) fun _ _ => Iff.rfl

theorem fail_blind : Blind (R := R) fun p => p.fail e := by
  unfold fail
  cases e.errorClass with
  | terminal => exact terminal_blind
  | retryable => exact failRetryable_blind
  | notFound => exact failRetryable_blind
  | transient => exact failTransient_blind

/-! ## Steps -/

/-- Two runs over one record, of which the first ends as the second does, up to the noted
fingerprint. -/
abbrev RunsAlike (noted : Option String) (first second : Calls R Outcome) : Prop :=
  Abreast (likeness noted) (Outcome.Alike noted) first second

theorem runsAlike_done (o : Outcome) : RunsAlike (R := R) noted (.done o) (.done o) :=
  .done (.refl o)

/-- To correct a drift goes the same way whatever is noted. -/
theorem correctDrift_alike (indistinct : Indistinct noted p.status.sourceFingerprint g) :
    RunsAlike noted p.correctDrift (p.noting g).correctDrift := by
  refine call_abreast nofun fun answer => ?_
  cases answer with
  | ok u => exact .done (notReady_blind.alike (p := p.beginOperation.mark .updated) indistinct)
  | error e =>
      dsimp only
      split
      · exact .done (externallyDeleted_blind.alike (p := p.beginOperation) indistinct)
      · exact .done (fail_blind.alike (p := p.beginOperation) indistinct)

/-- A look at the resource goes the same way whatever is noted. -/
theorem converge_alike {look : Look} (indistinct : Indistinct noted p.status.sourceFingerprint g) :
    RunsAlike noted (p.converge look) ((p.noting g).converge look) := by
  unfold converge
  refine call_abreast nofun fun answer => ?_
  cases answer with
  | error e =>
      dsimp only
      split
      · cases look with
        | atRest => exact .done (externallyDeleted_blind.alike indistinct)
        | afterMutation => exact .done (notReady_blind.alike indistinct)
      · exact .done (fail_blind.alike indistinct)
  | ok remote =>
      let saw : Pass R := p.sawState (p.profile.observedState remote)
      have sawIndistinct : Indistinct noted saw.status.sourceFingerprint g := indistinct
      have same : (p.noting g).profile = p.profile := rfl
      dsimp only
      rw [same]
      split
      · exact correctDrift_alike sawIndistinct
      · split
        · exact .done (notReady_blind.alike sawIndistinct)
        · refine call_abreast nofun fun answer => ?_
          cases answer with
          | ok info => exact .done (converged_blind.alike sawIndistinct)
          | error e => exact .done (fail_blind.alike sawIndistinct)

theorem acceptAndLook_alike {id : String} (indistinct : Indistinct noted f g) :
    RunsAlike noted (p.acceptAndLook id f) (p.acceptAndLook id g) :=
  converge_alike (p := p.accept id f) indistinct

/-- To take over a resource has nothing to do with the fingerprint. -/
theorem adopt_abreast : Abreast (likeness noted) Eq p.adopt p.adopt := by
  refine call_abreast nofun fun answer => ?_
  cases answer with
  | error e => exact .done rfl
  | ok remote =>
      dsimp only
      split
      · split
        · exact .done rfl
        · refine call_abreast nofun fun answer => ?_
          cases answer <;> exact .done rfl
      · exact .done rfl

theorem createOrAdopt_abreast : Abreast (likeness noted) Eq p.createOrAdopt p.createOrAdopt := by
  refine call_abreast nofun fun answer => ?_
  cases answer with
  | ok id => exact .done rfl
  | error e =>
      dsimp only
      split
      · exact adopt_abreast
      · exact .done rfl

/-- What goes the same way behind the preconditions goes the same way with them. -/
theorem whenReady_alike {go go' : Pass R → Calls R Outcome}
    (alike : ∀ p, RunsAlike noted (go p) (go' p)) :
    RunsAlike noted (p.whenReady go) (p.whenReady go') := by
  refine call_abreast nofun fun answer => ?_
  cases answer with
  | ok u => exact alike _
  | error e => exact runsAlike_done _

/-- A step that creates goes the same way. -/
theorem create_alike (indistinct : Indistinct noted f g) :
    RunsAlike noted (p.create f) (p.create g) := by
  refine whenReady_alike fun p => ?_
  refine (likeness noted).comparison.bind_same createOrAdopt_abreast fun result => ?_
  cases result with
  | ok made => exact acceptAndLook_alike indistinct
  | error e => exact runsAlike_done _

theorem update_alike (indistinct : Indistinct noted f g) :
    RunsAlike noted (p.update f) (p.update g) := by
  refine whenReady_alike fun p => call_abreast nofun fun answer => ?_
  cases answer with
  | ok u => exact acceptAndLook_alike indistinct
  | error e =>
      dsimp only
      split <;> exact runsAlike_done _

/-- A step that replaces goes the same way. -/
theorem replace_alike (indistinct : Indistinct noted f g) :
    RunsAlike noted (p.replace f) (p.replace g) := by
  have anew (p : Pass R) : RunsAlike noted (p.createAnew f) (p.createAnew g) := by
    refine (likeness noted).comparison.bind_same createOrAdopt_abreast fun result => ?_
    cases result with
    | ok made => exact acceptAndLook_alike indistinct
    | error e => exact runsAlike_done _
  have confirm (p : Pass R) (old : Option String) :
      RunsAlike noted (replace.confirm f p old) (replace.confirm g p old) := by
    refine call_abreast nofun fun answer => ?_
    cases answer with
    | ok remote => exact runsAlike_done _
    | error e =>
        dsimp only
        split
        · exact anew p
        · exact runsAlike_done _
  refine whenReady_alike fun p => call_abreast nofun fun answer => ?_
  cases answer with
  | ok u => exact confirm p _
  | error e =>
      dsimp only
      split
      · exact confirm p _
      · exact runsAlike_done _

/-- A deletion knows no fingerprint. -/
theorem delete_alike : RunsAlike noted p.delete p.delete := by
  have confirm (p : Pass R) : RunsAlike noted (delete.confirm p) (delete.confirm p) := by
    refine call_abreast nofun fun answer => ?_
    cases answer with
    | ok remote =>
        dsimp only
        split <;> exact runsAlike_done _
    | error e =>
        dsimp only
        split <;> exact runsAlike_done _
  refine call_abreast nofun fun answer => ?_
  cases answer with
  | ok u => exact confirm _
  | error e =>
      dsimp only
      split
      · exact confirm _
      · exact runsAlike_done _

/-- Whichever step is planned, it goes the same way. -/
theorem take_alike (indistinct : Indistinct noted f g) :
    RunsAlike noted (p.take f) (p.take g) := by
  have look : RunsAlike noted (p.converge .atRest) (p.converge .atRest) :=
    converge_alike (g := p.status.sourceFingerprint) (.same _)
  unfold take
  cases p.step with
  | blocked => exact runsAlike_done _
  | delete => exact delete_alike
  | create => exact create_alike indistinct
  | update => exact update_alike indistinct
  | replace => exact replace_alike indistinct
  | awaitReady => exact look
  | observe => exact look

end Pass

/-! ## A whole pass -/

/-- **A pass does not mind which new fingerprint it is told.**  Let two passes over one record get
the same answers, except that they learn fingerprints of the source secret of which neither is the
noted one.  Then they make the same calls, and leave the same behind up to the noted fingerprint. -/
theorem reconcileOnce_abreast {R : Type} (profile : Profile R) (subject : Subject)
    (settings : Settings) (now : Instant) :
    Abreast (Calls.likeness subject.status.sourceFingerprint)
      (Outcome.Alike subject.status.sourceFingerprint)
      (reconcileOnce profile subject settings now)
      (reconcileOnce profile subject settings now) := by
  -- A deletion or a blocked record is settled before the source secret is asked for.
  by_cases free : subject.plan none profile.requiresReplace ≠ .delete ∧
      subject.plan none profile.requiresReplace ≠ .blocked
  case neg =>
    rcases not_and_or.mp free with early | early
    · simp only [reconcileOnce, not_not.mp early]
      exact Pass.take_alike (.same none)
    · simp only [reconcileOnce, not_not.mp early]
      exact Pass.take_alike (.same none)
  case pos =>
    rw [reconcileOnce_of_free free.1 free.2]
    refine .ask rfl fun x y answered => ?_
    have took {f g : Option String} (indistinct : Indistinct subject.status.sourceFingerprint f g) :
        Pass.RunsAlike subject.status.sourceFingerprint
          ((Pass.start profile subject settings now
            (subject.plan f profile.requiresReplace)).take f)
          ((Pass.start profile subject settings now
            (subject.plan g profile.requiresReplace)).take g) := by
      have planned : subject.plan f profile.requiresReplace =
          subject.plan g profile.requiresReplace := plan_eq_of_indistinct indistinct
      rw [planned]
      exact Pass.take_alike indistinct
    cases answered with
    | fingerprint indistinct => exact took indistinct
    | same =>
        cases x with
        | ok f => exact took (.same f)
        | error e => exact Pass.runsAlike_done _

end ServiceOperator
