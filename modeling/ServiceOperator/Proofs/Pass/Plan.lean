import ServiceOperator.Proofs.Status.Conditions
import ServiceOperator.Reconcile.Steps

/-!
# When each step is planned

`plan` reads a status in a fixed order, and each of its steps is characterized here by what the
status says.  Two things are worth pointing out.

* Whether a pass deletes or is blocked does not depend on the source secret
  (`plan_eq_delete_iff`, `plan_eq_blocked_iff`), so a pass may settle it before it asks for one.
* Blocking reads two entries that different exits write: the generation that failed, and the reason
  of the failure condition.

The questions are asked in this order: whether the record is being deleted, whether its generation
has failed for good, whether a resource is known, which generation and which source secret it
carries, and whether it runs.  So a statement about a step has the answers to all earlier questions
among its hypotheses.  The resource itself is not looked at: what it is like has no part in which
step is planned.
-/

namespace ServiceOperator

variable {s : ResourceStatus} {o : Observation} {replaces : Bool}

/-- A generation failed for good, for want of nothing that may still appear. -/
def ResourceStatus.Blocks (s : ResourceStatus) (generation : Int) : Prop :=
  s.failedGeneration = some generation ∧ s.errorReason? ≠ some Reason.dependencyMissing.text

theorem plan_eq_delete_iff : plan s o replaces = .delete ↔ o.deletionRequested = true := by
  unfold plan
  grind

/-- A pass is blocked exactly if the record lives on and its generation has failed for good. -/
theorem plan_eq_blocked_iff :
    plan s o replaces = .blocked ↔ o.deletionRequested = false ∧ s.Blocks o.generation := by
  unfold plan ResourceStatus.Blocks ResourceStatus.errorReason?
  grind

/-- A pass that rests is planned for a resource that carries the present generation and the present
source secret. -/
theorem plan_rests (rests : plan s o replaces = .awaitReady ∨ plan s o replaces = .observe) :
    s.id.isSome = true ∧ s.observedGeneration = some o.generation ∧
      (o.sourceFingerprint.isSome = true → o.sourceFingerprint = s.sourceFingerprint) := by
  unfold plan at rests
  grind

/-- A pass creates only where the status does not name a resource with a generation applied to
it. -/
theorem plan_eq_create (creates : plan s o replaces = .create) :
    s.id = none ∨ s.observedGeneration = none := by
  cases known : s.id with
  | none => exact .inl rfl
  | some id =>
      cases applied : s.observedGeneration with
      | none => exact .inr rfl
      | some observed =>
          simp only [plan, known, applied] at creates
          grind

/-- A resource that carries another generation is replaced, if the kind cannot apply the present one
in place. -/
theorem plan_eq_replace (alive : o.deletionRequested = false) (free : ¬ s.Blocks o.generation)
    (known : s.id.isSome = true) {observed : Int} (applied : s.observedGeneration = some observed)
    (behind : o.generation ≠ observed) : plan s o true = .replace := by
  obtain ⟨id, hasId⟩ := Option.isSome_iff_exists.mp known
  unfold ResourceStatus.Blocks ResourceStatus.errorReason? at free
  rw [plan, if_neg (Bool.eq_false_iff.mp alive), if_neg free, applied, hasId]
  simp [Ne.symm behind]

/-- A pass replaces only a resource that the status names. -/
theorem known_of_plan_eq_replace (replaced : plan s o replaces = .replace) :
    s.id.isSome = true := by
  unfold plan at replaced
  grind

/-- Whether a pass creates or replaces does not depend on the source secret either. -/
theorem plan_eq_of_makes {generation : Int} {deletes : Bool} {fingerprint other : Option String}
    (makes : plan s ⟨generation, deletes, fingerprint⟩ replaces = .create ∨
      plan s ⟨generation, deletes, fingerprint⟩ replaces = .replace) :
    plan s ⟨generation, deletes, other⟩ replaces =
      plan s ⟨generation, deletes, fingerprint⟩ replaces := by
  unfold plan at makes ⊢
  grind

/-- A converged resource that carries the present generation and the present source secret is
observed. -/
theorem plan_eq_observe (alive : o.deletionRequested = false) (free : s.failedGeneration = none)
    (known : s.id.isSome = true) (observed : s.observedGeneration = some o.generation)
    (resourced : o.sourceFingerprint.isSome = true → o.sourceFingerprint = s.sourceFingerprint)
    (running : s.isRunning = true) : plan s o replaces = .observe := by
  obtain ⟨id, hasId⟩ := Option.isSome_iff_exists.mp known
  have notBlocked : ¬ s.Blocks o.generation := by
    rintro ⟨failed, -⟩
    simp [free] at failed
  have current :
      ¬ (o.sourceFingerprint.isSome = true ∧ o.sourceFingerprint ≠ s.sourceFingerprint) := by
    rintro ⟨given, other⟩
    exact other (resourced given)
  rw [plan, if_neg (Bool.eq_false_iff.mp alive)]
  unfold ResourceStatus.Blocks ResourceStatus.errorReason? at notBlocked
  rw [if_neg notBlocked, observed, hasId]
  simp [current, running]

namespace Subject

variable {subject : Subject} {fingerprint : Option String}

theorem plan_eq_delete_iff :
    subject.plan fingerprint replaces = .delete ↔ subject.deletionRequested = true :=
  ServiceOperator.plan_eq_delete_iff

theorem plan_eq_blocked_iff :
    subject.plan fingerprint replaces = .blocked ↔
      subject.deletionRequested = false ∧ subject.status.Blocks subject.generation :=
  ServiceOperator.plan_eq_blocked_iff

end Subject

end ServiceOperator
