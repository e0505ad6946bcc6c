import ServiceOperator.Proofs.Pass.Replacement

/-!
# What a pass applies

A create and an update apply to the resource what the record declares at the time of the call.  What
the status notes as applied is what the pass read before, and it notes that only if the call
succeeds.  `Application` says what becomes of the two in one pass, for a kind that is named by its
records, is changed in place and does not drift (`Profile.Plain`): nothing was applied and nothing
is noted, or one call was the last to apply something, and it succeeded or it did not.

The order of the two reads is the reason for this module.  A pass reads the source secret before it
asks for anything else, and a create or an update reads it once more when it is carried out; only
the first value can be noted and only the second one is applied.  Here nothing is known of the
second read, and the law speaks of calls alone; what a call applies is a matter of its kind, as in
`Proofs.Kinds.Rotation`.
-/

namespace ServiceOperator

open Calls (Entry)

variable {R : Type}

/-- The calls that apply to a resource what its record declares. -/
def Call.applies : Call R → Bool
  | .create => true
  | .update _ => true
  | _ => false

/-- A kind whose resources are named by their records, are changed in place and never drift. -/
structure Profile.Plain (profile : Profile R) : Prop where
  named : profile.identity = .name
  inPlace : profile.requiresReplace = false
  steady : ∀ remote, profile.needsUpdate remote = false

/-- A call succeeded to apply to the resource with an id what the record declares. -/
inductive Calls.Entry.AppliedTo (id : String) : Entry R → Prop
  | created : AppliedTo id (.created (.ok id))
  | updated : AppliedTo id (.updated id (.ok ()))

/-- Nothing among some calls applies anything. -/
def AppliesNothing (t : List (Entry R)) : Prop :=
  ∀ entry ∈ t, entry.1.applies = false

/-- What a pass applied, behind a read of the source secret with a fingerprint, and what became of
the status that it started from. -/
inductive Application (s : ResourceStatus) (fingerprint : Option String) (t : List (Entry R))
    (o : Outcome) : Prop
  | rested (nothing : AppliesNothing t) (id : o.status.id = s.id)
      (noted : o.status.sourceFingerprint = s.sourceFingerprint)
  /-- The resource is not known, or not any more. -/
  | unknown (unknown : o.status.id = none)
  /-- The last call was to apply something, and failed. -/
  | refused {id : String} {e : OperatorError} (known : s.id = some id)
      (asked : t = [.checked (.ok ()), .updated id (.error e)]) (id : o.status.id = s.id)
      (noted : o.status.sourceFingerprint = s.sourceFingerprint)
  | applied {id : String} {before after : List (Entry R)} {entry : Entry R}
      (asked : t = before ++ entry :: after) (applied : entry.AppliedTo id)
      (nothing : AppliesNothing after) (known : o.status.id = some id)
      (noted : o.status.sourceFingerprint = fingerprint)

/-- A kind that is changed in place is never replaced. -/
theorem plan_ne_replace {s : ResourceStatus} {o : Observation} : plan s o false ≠ .replace := by
  unfold plan
  grind

/-- A pass updates only a resource that the status names. -/
theorem known_of_plan_eq_update {s : ResourceStatus} {o : Observation} {replaces : Bool}
    (updates : plan s o replaces = .update) : s.id.isSome = true := by
  unfold plan at updates
  grind

namespace Pass

variable {p q : Pass R} {look : Look} {fingerprint : Option String} {t : List (Entry R)}
  {o : Outcome} {id : String}

/-- A look at a resource that never drifts applies nothing. -/
theorem LookCourse.appliesNothing (course : LookCourse p look t o)
    (steady : ∀ remote, p.profile.needsUpdate remote = false) : AppliesNothing t := by
  cases course with
  | corrected rest drifted => cases drifted.symm.trans (steady _)
  | goneUncorrected rest drifted => cases drifted.symm.trans (steady _)
  | uncorrected rest drifted => cases drifted.symm.trans (steady _)
  | _ => simp [AppliesNothing, Call.applies]

/-- An attempt that came by a resource ends with the call that applied the record to it. -/
theorem ObtainCourse.appliedTo (course : ObtainCourse p t (.ok (id, q)))
    (named : p.profile.identity = .name) :
    ∃ before entry, t = before ++ [entry] ∧ entry.AppliedTo id := by
  cases course with
  | created => exact ⟨[], _, rfl, .created⟩
  | adopted taken fits server => cases server.symm.trans named
  | conformed => exact ⟨[_, _], _, rfl, .updated⟩

/-- A step of a plain kind, planned for a status that names a resource exactly if a generation is
applied to one. -/
theorem step_application (plain : p.profile.Plain) (course : StepCourse p fingerprint t o)
    (creates : p.step = .create → p.status.id = none)
    (updates : p.step = .update → p.status.id.isSome = true) (inPlace : p.step ≠ .replace) :
    Application p.status fingerprint t o := by
  have failing (e : OperatorError) : p.Retains (p.beginOperation.fail e) :=
    fail_retains.of_same rfl rfl rfl
  cases course with
  | looked step look =>
      rcases look_retains look with retains | ⟨-, unknown, -⟩
      · have nothing := look.appliesNothing plain.steady
        exact .rested nothing retains.id retains.sourceFingerprint
      · exact .unknown unknown
  | unready =>
      refine .rested ?_ (failing _).id (failing _).sourceFingerprint
      simp [AppliesNothing, Call.applies]
  | uncreated step => exact .unknown ((failing _).id.trans (creates step))
  | created step obtains look =>
      obtain ⟨before, entry, rfl, applied⟩ := obtains.appliedTo plain.named
      obtain ⟨mutation, rfl⟩ := obtain_subject obtains
      obtain ⟨known, -, noted⟩ := accepted_holds look
      have asked (after : List (Entry R)) : .checked (.ok ()) :: (before ++ [entry] ++ after) =
          (.checked (.ok ()) :: before) ++ entry :: after := by simp
      exact .applied (asked _) applied (look.appliesNothing plain.steady) known noted
  | goneUnchanged => exact .unknown rfl
  | unchanged step =>
      obtain ⟨id, known⟩ := Option.isSome_iff_exists.mp (updates step)
      rw [known]
      exact .refused known rfl (failing _).id (failing _).sourceFingerprint
  | changed step look =>
      obtain ⟨known, -, noted⟩ := accepted_holds look
      exact .applied (List.singleton_append ..).symm .updated (look.appliesNothing plain.steady)
        known noted
  -- The other courses are those of a replacement.
  | undeleted step => exact absurd step inPlace
  | unconfirmed step => exact absurd step inPlace
  | lingering step => exact absurd step inPlace
  | unreplaced step => exact absurd step inPlace
  | replaced step => exact absurd step inPlace

/-- A deletion applies nothing, and forgets neither the resource nor what is noted of it. -/
theorem DeleteCourse.retains (course : DeleteCourse p t o) : p.Retains o ∧ AppliesNothing t := by
  have failed {e : OperatorError} : p.Retains (p.beginDeletion.deleteFailed e) := by
    unfold deleteFailed
    split
    · exact ⟨rfl, rfl, rfl⟩
    · dsimp only
      split <;> exact ⟨rfl, rfl, rfl⟩
  have nothing : AppliesNothing t := by
    obtain ⟨answer, rfl | ⟨found, rfl⟩⟩ := course.calls <;> simp [AppliesNothing, Call.applies]
  refine ⟨?_, nothing⟩
  cases course with
  | undeleted => exact failed
  | unconfirmed => exact failed
  | confirmed => exact ⟨rfl, rfl, rfl⟩
  | overdue => exact ⟨rfl, rfl, rfl⟩
  | lingering => exact ⟨rfl, rfl, rfl⟩

end Pass

/-- **What a pass applies.**  A pass over a record of a plain kind does without the source secret,
and then applies nothing, or reads it before it applies anything. -/
theorem CompletedPass.application (pass : CompletedPass R) (plain : pass.profile.Plain)
    (paired : pass.subject.status.Paired) :
    (AppliesNothing pass.asked ∧ pass.outcome.status.id = pass.subject.status.id ∧
        pass.outcome.status.sourceFingerprint = pass.subject.status.sourceFingerprint) ∨
      ∃ fingerprint rest, pass.asked = .fingerprinted (.ok fingerprint) :: rest ∧
        Application pass.subject.status fingerprint rest pass.outcome := by
  obtain ⟨profile, subject, settings, now, asked, o, yields⟩ := pass
  cases reconcileOnce_course yields with
  | deleting requested course =>
      obtain ⟨retains, nothing⟩ := course.retains
      exact .inl ⟨nothing, retains.id, retains.sourceFingerprint⟩
  | blocked => exact .inl ⟨by simp [AppliesNothing], rfl, rfl⟩
  | unresourced alive free begun =>
      subst begun
      refine .inl ⟨by simp [AppliesNothing, Call.applies], ?_⟩
      dsimp only
      split <;> exact ⟨Pass.fail_retains.id, Pass.fail_retains.sourceFingerprint⟩
  | @lived fingerprint t _ _ free course =>
      refine .inr ⟨fingerprint, t, rfl, Pass.step_application plain course ?_ ?_ ?_⟩
      · intro creates
        rcases plan_eq_create creates with unknown | unapplied
        · exact unknown
        · rw [ResourceStatus.Paired, unapplied] at paired
          exact Option.not_isSome_iff_eq_none.mp (Bool.eq_false_iff.mp paired)
      · exact known_of_plan_eq_update
      · change plan _ _ profile.requiresReplace ≠ _
        rw [plain.inPlace]
        exact plan_ne_replace

end ServiceOperator
