import ServiceOperator.Proofs.Pass.Application
import ServiceOperator.Proofs.Pass.Runs

/-!
# Kinds that are never changed in place

A pass comes to an update in four ways.  One is planned for a new generation, and one for a new
source secret; one corrects a drift; and one makes a resource that a create met what the record
declares.  A kind shuts each of them by itself: its new generations are replacements, its records
have no source secret, its resources do not drift, and the control plane assigns their ids.

`CompletedPass.updatesNothing` says that this is all it takes.  The status that the pass starts from
has no part in it.

The law has one hypothesis for each of the four ways: three of them are fields of the profile
(`Profile.Remade`), and the fourth is about the calls, as whether a record has a source secret is
seen only when it is asked for (`Unsourced`).
-/

namespace ServiceOperator

open Calls (Entry)

variable {R : Type}

/-- The calls that change a resource in place. -/
def Call.updates : Call R → Bool
  | .update _ => true
  | _ => false

/-- Nothing among some calls changes a resource in place. -/
def UpdatesNothing (t : List (Entry R)) : Prop :=
  ∀ entry ∈ t, entry.1.updates = false

/-- A kind whose resources have assigned ids, never drift, and are remade for a new generation. -/
structure Profile.Remade (profile : Profile R) : Prop where
  assigned : profile.identity = .server
  replaced : profile.requiresReplace = true
  steady : ∀ remote, profile.needsUpdate remote = false

/-- The source secret was asked for in vain: there is none. -/
def Unsourced (t : List (Entry R)) : Prop :=
  ∀ fingerprint, .fingerprinted (.ok fingerprint) ∈ t → fingerprint = none

/-- What applies nothing updates nothing. -/
theorem AppliesNothing.updatesNothing {t : List (Entry R)} (nothing : AppliesNothing t) :
    UpdatesNothing t := by
  intro entry member
  have rests := nothing entry member
  obtain ⟨call, answer⟩ := entry
  cases call with
  | update id => cases rests
  | _ => rfl

/-- A kind that is remade is updated for its source secret alone. -/
theorem plan_ne_update {s : ResourceStatus} {generation : Int} {deletes : Bool} :
    plan s ⟨generation, deletes, none⟩ true ≠ .update := by
  unfold plan
  grind

namespace Pass

variable {p : Pass R} {fingerprint : Option String} {t : List (Entry R)} {o : Outcome}
  {result : Except OperatorError (String × Pass R)}

/-- A resource whose id the control plane assigns is not updated when a create meets it. -/
theorem ObtainCourse.updatesNothing (course : ObtainCourse p t result)
    (assigned : p.profile.identity = .server) : UpdatesNothing t := by
  cases course with
  | conformed taken fits named => cases named.symm.trans assigned
  | unconformed taken fits named => cases named.symm.trans assigned
  | _ => simp [UpdatesNothing, Call.updates]

/-- A step of such a kind that is not an update itself makes none. -/
theorem step_updatesNothing (remade : p.profile.Remade) (course : StepCourse p fingerprint t o)
    (other : p.step ≠ .update) : UpdatesNothing t := by
  have behind {earlier later : List (Entry R)} (before : UpdatesNothing earlier)
      (after : UpdatesNothing later) : UpdatesNothing (earlier ++ later) :=
    List.forall_mem_append.mpr ⟨before, after⟩
  have checked {later : List (Entry R)} (after : UpdatesNothing later) :
      UpdatesNothing (.checked (.ok ()) :: later) := List.forall_mem_cons.mpr ⟨rfl, after⟩
  have replacing {id : Option String} {answer : Except OperatorError Unit}
      {gone : Except OperatorError R} {later : List (Entry R)} (after : UpdatesNothing later) :
      UpdatesNothing (.checked (.ok ()) :: .deleted id answer :: .got id gone :: later) :=
    checked (List.forall_mem_cons.mpr ⟨rfl, List.forall_mem_cons.mpr ⟨rfl, after⟩⟩)
  cases course with
  | looked step look => exact (look.appliesNothing remade.steady).updatesNothing
  | unready => simp [UpdatesNothing, Call.updates]
  | uncreated step obtains => exact checked (obtains.updatesNothing remade.assigned)
  | created step obtains look =>
      have before := obtains.updatesNothing remade.assigned
      obtain ⟨mutation, rfl⟩ := obtain_subject obtains
      exact checked (behind before (look.appliesNothing remade.steady).updatesNothing)
  | goneUnchanged step => exact absurd step other
  | unchanged step => exact absurd step other
  | changed step => exact absurd step other
  | undeleted => simp [UpdatesNothing, Call.updates]
  | unconfirmed => simp [UpdatesNothing, Call.updates]
  | lingering => simp [UpdatesNothing, Call.updates]
  | unreplaced step accepted absent obtains =>
      exact replacing (obtains.updatesNothing remade.assigned)
  | replaced step accepted absent obtains look =>
      have before := obtains.updatesNothing remade.assigned
      obtain ⟨mutation, rfl⟩ := obtain_subject obtains
      exact replacing (behind before (look.appliesNothing remade.steady).updatesNothing)

end Pass

/-- **A pass over a kind that is remade updates nothing**, unless its record has a source secret. -/
theorem CompletedPass.updatesNothing (pass : CompletedPass R) (remade : pass.profile.Remade)
    (unsourced : Unsourced pass.asked) :
    UpdatesNothing pass.asked ∧ pass.outcome.step ≠ .update := by
  obtain ⟨profile, subject, settings, now, asked, o, yields⟩ := pass
  have unplanned : subject.plan none profile.requiresReplace ≠ .update := by
    have replaced : profile.requiresReplace = true := remade.replaced
    rw [replaced]
    exact plan_ne_update
  cases reconcileOnce_course yields with
  | deleting requested course =>
      have step := (Pass.delete_keeps course).1
      refine ⟨course.retains.2.updatesNothing, ?_⟩
      rw [step]
      exact Step.noConfusion
  | blocked => exact ⟨by simp [UpdatesNothing], Step.noConfusion⟩
  | unresourced alive free begun =>
      refine ⟨by simp [UpdatesNothing, Call.updates], ?_⟩
      subst begun
      dsimp only
      split
      · rw [Pass.fail_carries.step]
        exact unplanned
      · rw [Pass.fail_carries.step]
        exact unplanned
  | @lived fingerprint t _ alive free course =>
      obtain rfl := unsourced fingerprint List.mem_cons_self
      have step := (Pass.step_leaves course).step
      have nothing := Pass.step_updatesNothing remade course unplanned
      refine ⟨List.forall_mem_cons.mpr ⟨rfl, nothing⟩, ?_⟩
      rw [step]
      exact unplanned

end ServiceOperator
