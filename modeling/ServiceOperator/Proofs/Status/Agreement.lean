import Mathlib.Data.List.Find
import Mathlib.Data.List.Nodup
import Mathlib.Data.List.Perm.Subperm
import ServiceOperator.Proofs.Status.Conditions
import ServiceOperator.Reconcile.Plan
import ServiceOperator.Record.Basic

/-!
# Statuses that are not written

A status is written only if it differs from the stored one, and the comparison of their conditions
is one-sided: as many conditions as before, each of which agrees with a stored one.  For conditions
that report each aspect once this is enough.

* **Counting.**  Conditions of distinct types stay distinct without their times, so that as many of
  them as there are stored ones, each found among those, are all of them (`listAgrees_iff_perm`).
* **Reading.**  The first condition of a type is the only one, and so is found in any order
  (`find?_eq_of_perm`); nothing that is read from it is its time.

So a write that is skipped changes no later decision (`skipped_write_decides_alike`).  With two
conditions of one type it could, as the example behind the theorem shows.

### Where the one-sidedness is paid for

The comparison does not look for the stored conditions among the new ones.  A new list that says one
thing twice, and leaves another one out, would pass for agreeing.  The counting argument excludes it
from one hypothesis, that the new conditions are of distinct types; of the stored ones nothing is
assumed, as they come from outside.
-/

namespace ServiceOperator

namespace Condition

variable {c d : Condition} {a b current new : List Condition} {type : String}

/-- A condition without the time of its last transition. -/
def untimed (c : Condition) : Condition := { c with lastTransitionTime := none }

@[simp] theorem type_untimed (c : Condition) : c.untimed.type = c.type := rfl

theorem agrees_iff : c.agrees d = true ↔ c.untimed = d.untimed := by
  simp [agrees, untimed, and_assoc]

theorem map_type_untimed (conditions : List Condition) :
    (conditions.map untimed).map Condition.type = conditions.map Condition.type := by
  simp [Function.comp_def]

theorem nodup_untimed (once : (new.map Condition.type).Nodup) : (new.map untimed).Nodup := by
  rw [← map_type_untimed] at once
  exact once.of_map

/-- Lists that agree have the same length, and the new one holds nothing that is new. -/
theorem listAgrees_iff :
    listAgrees current new = true ↔
      current.length = new.length ∧ ∀ d ∈ new, d.untimed ∈ current.map untimed := by
  simp only [listAgrees, Bool.and_eq_true, decide_eq_true_eq, List.all_eq_true, List.any_eq_true,
    agrees_iff, List.mem_map]

/-- **If the new conditions report each aspect once, the comparison is symmetric**: the two lists
hold the same conditions up to their order and their times. -/
theorem listAgrees_iff_perm (once : (new.map Condition.type).Nodup) :
    listAgrees current new = true ↔ (current.map untimed).Perm (new.map untimed) := by
  rw [listAgrees_iff]
  constructor
  · rintro ⟨sameLength, known⟩
    have inside : (new.map untimed).Subperm (current.map untimed) :=
      List.subperm_of_subset (nodup_untimed once) (List.forall_mem_map.mpr known)
    have full : (current.map untimed).length ≤ (new.map untimed).length := by
      simp [sameLength]
    exact (inside.perm_of_length_le full).symm
  · intro perm
    refine ⟨by simpa using perm.length_eq, ?_⟩
    intro d member
    exact perm.symm.subset (List.mem_map_of_mem member)

/-! ## What is read from conditions -/

/-- To look a condition up and to leave its time out may be done in either order. -/
theorem find?_untimed (conditions : List Condition) (type : String) :
    (find? conditions type).map untimed = find? (conditions.map untimed) type := by
  rw [find?, find?, List.find?_map]
  rfl

/-- Among conditions that report each aspect once, the order does not matter. -/
theorem find?_eq_of_perm (perm : a.Perm b) (once : (a.map Condition.type).Nodup) (type : String) :
    find? a type = find? b type := by
  refine List.find?_eq_find?_of_perm perm ?_
  rintro c ⟨inA, ofType⟩ d ⟨inA', ofType'⟩
  refine List.inj_on_of_nodup_map once inA inA' ?_
  exact (of_decide_eq_true ofType).trans (of_decide_eq_true ofType').symm

/-- Two lists hold the same conditions, up to their order and their times, and report each aspect
once. -/
structure Alike (a b : List Condition) : Prop where
  perm : (a.map untimed).Perm (b.map untimed)
  once : (b.map Condition.type).Nodup

/-- What is found in two lists that are alike is the same up to its time. -/
theorem Alike.find? (alike : Alike a b) (type : String) :
    (Condition.find? a type).map untimed = (Condition.find? b type).map untimed := by
  rw [find?_untimed, find?_untimed]
  refine (find?_eq_of_perm alike.perm.symm ?_ type).symm
  rw [map_type_untimed]
  exact alike.once

/-- Whether a condition holds is read without its time. -/
theorem isTrue_eq_untimed (conditions : List Condition) (type : String) :
    isTrue conditions type =
      match (find? conditions type).map untimed with
      | some c => decide (c.status = "True")
      | none => false := by
  rw [isTrue]
  cases find? conditions type <;> rfl

theorem reason?_eq_untimed (conditions : List Condition) (type : String) :
    reason? conditions type = ((find? conditions type).map untimed).bind Condition.reason := by
  rw [reason?]
  cases find? conditions type <;> rfl

theorem Alike.isTrue (alike : Alike a b) (type : String) :
    Condition.isTrue a type = Condition.isTrue b type := by
  rw [isTrue_eq_untimed, isTrue_eq_untimed, alike.find?]

theorem Alike.reason? (alike : Alike a b) (type : String) :
    Condition.reason? a type = Condition.reason? b type := by
  rw [reason?_eq_untimed, reason?_eq_untimed, alike.find?]

end Condition

/-! ## Statuses -/

namespace ResourceStatus

open Condition (untimed Alike)

variable {a b : ResourceStatus}

/-- Two statuses agree in every field, up to the order of their conditions and the times of their
last transitions. -/
structure Matches (a b : ResourceStatus) : Prop where
  conditions : (a.conditions.map untimed).Perm (b.conditions.map untimed)
  state : a.state = b.state
  id : a.id = b.id
  observed : a.observedGeneration = b.observedGeneration
  failed : a.failedGeneration = b.failedGeneration
  operation : a.operationStartedAt = b.operationStartedAt
  deletion : a.deletionStartedAt = b.deletionStartedAt
  fingerprint : a.sourceFingerprint = b.sourceFingerprint
  attempts : a.failedAttempts = b.failedAttempts

/-- A write is skipped exactly if the statuses match. -/
theorem changed_eq_false_iff (once : (b.conditions.map Condition.type).Nodup) :
    changed (some a) b = false ↔ a.Matches b := by
  have same : changed (some a) b = false ↔
      (a.conditions.map untimed).Perm (b.conditions.map untimed) ∧
        { a with conditions := [] } = { b with conditions := [] } := by
    simp [changed, agrees, Condition.listAgrees_iff_perm once]
  rw [same]
  constructor
  · rintro ⟨perm, rest⟩
    obtain ⟨-, state, id, observed, failed, operation, deletion, fingerprint, attempts⟩ :=
      (mk.injEq ..).mp rest
    exact ⟨perm, state, id, observed, failed, operation, deletion, fingerprint, attempts⟩
  · intro m
    refine ⟨m.conditions, ?_⟩
    rw [m.state, m.id, m.observed, m.failed, m.operation, m.deletion, m.fingerprint, m.attempts]

/-- Two statuses on which everything that is read from a status decides the same. -/
structure DecidesAs (a b : ResourceStatus) : Prop where
  /-- The step of a pass. -/
  plan : ∀ o replaces, plan a o replaces = plan b o replaces
  /-- The phase that is reported. -/
  phase : ∀ deletionRequested, Phase.of a deletionRequested = Phase.of b deletionRequested
  /-- Whether others may use the resource. -/
  usable : ∀ r : Record, { r with status := some a }.isUsable = { r with status := some b }.isUsable
  /-- What those that depend on it are told. -/
  readiness : ∀ r : Record,
    { r with status := some a }.readiness = { r with status := some b }.readiness
  /-- The annotations of the record. -/
  markers : a.markers = b.markers

theorem Matches.alike (m : a.Matches b) (once : (b.conditions.map Condition.type).Nodup) :
    Alike a.conditions b.conditions := ⟨m.conditions, once⟩

/-- Whether any condition reports convergence is read without times, and from all of them at once:
no aspect need be reported once. -/
theorem isUsable_eq_any (s : ResourceStatus) :
    s.isUsable = (s.conditions.map untimed).any fun c => c.type = Condition.running &&
      c.status = "True" := by
  rw [isUsable, List.any_map]
  rfl

theorem Matches.isUsable (m : a.Matches b) : a.isUsable = b.isUsable := by
  rw [isUsable_eq_any, isUsable_eq_any]
  exact m.conditions.any_eq

/-- **Statuses that match decide alike.**  Every field is the same, and of the conditions nothing
is read that could differ. -/
theorem Matches.decidesAs (m : a.Matches b) (once : (b.conditions.map Condition.type).Nodup) :
    a.DecidesAs b := by
  have running : a.isRunning = b.isRunning := (m.alike once).isTrue _
  have failing : a.isFailing = b.isFailing := (m.alike once).isTrue _
  have reason := (m.alike once).reason? Condition.error
  exact {
    plan o replaces := by
      simp only [ServiceOperator.plan, m.id, m.observed, m.failed, m.fingerprint, running, reason]
    phase deletionRequested := by simp only [Phase.of, running, failing, m.observed]
    usable _ := m.isUsable
    readiness r := by
      change (if a.isUsable then _ else Readiness.notReady (_ ++ a.state.getD _)) = _
      rw [m.isUsable, m.state]
      rfl
    markers := by simp only [ResourceStatus.markers, running, m.observed] }

/-- **Skipping a write changes no later decision.**  If a status whose conditions report each aspect
once has not changed from the stored one, the two agree in every field up to the order and the
times of the conditions, and they decide the same for every record. -/
theorem skipped_write_decides_alike (once : (b.conditions.map Condition.type).Nodup)
    (skipped : changed (some a) b = false) : a.Matches b ∧ a.DecidesAs b := by
  have m := (changed_eq_false_iff once).mp skipped
  exact ⟨m, m.decidesAs once⟩

namespace Reordered

/-- What is stored of a resource that runs. -/
def stored : ResourceStatus where
  conditions := [
    ⟨Condition.running, "True", some "Running", some "converged", some "2025-01-01T00:00:00Z"⟩,
    ⟨Condition.error, "False", some "Reconciled", none, some "2025-01-01T00:00:00Z"⟩]
  state := some "RUNNING"
  id := some "orders"
  observedGeneration := some 1
  failedGeneration := none
  operationStartedAt := none
  deletionStartedAt := none
  sourceFingerprint := none
  failedAttempts := 0

/-- The same later, with the conditions in another order. -/
def later : ResourceStatus :=
  { stored with
    conditions := [
      ⟨Condition.error, "False", some "Reconciled", none, none⟩,
      ⟨Condition.running, "True", some "Running", some "converged", some "2025-01-02T00:00:00Z"⟩] }

end Reordered

open Reordered in
/-- The write is skipped although the order of the conditions and a time have changed, and
nothing is decided differently. -/
theorem skipped_write_decides_alike_reordered :
    (later.conditions.map Condition.type).Nodup ∧ changed (some stored) later = false ∧
      stored.Matches later ∧ stored.DecidesAs later := by
  have once : (later.conditions.map Condition.type).Nodup := by decide
  have skipped : changed (some stored) later = false := by decide
  exact ⟨once, skipped, skipped_write_decides_alike once skipped⟩

/-- With two conditions of one type a skipped write can hide that the resource has converged. -/
example :
    let reports (status : String) : Condition := ⟨Condition.running, status, none, none, none⟩
    let old := { initial with conditions := [reports "False", reports "True"] }
    let new := { initial with conditions := [reports "True", reports "True"] }
    changed (some old) new = false ∧ old.isRunning = false ∧ new.isRunning = true := by
  decide

end ResourceStatus

end ServiceOperator
