import ServiceOperator.Manifest.Rule
import ServiceOperator.Proofs.Json.MergePatch
import ServiceOperator.Record.Basic

/-!
# What an edit of a record cannot change

Kubernetes lets a record be edited only as the rules of its kind allow (`EditRule.Allows`).  A
record keeps its name and its namespace anyway, so what it provides for others never changes
(`Record.IsVersionOf.provides`): of a service and of a VPC that is the name, of a database and of a
service user it takes fields as well, and just those are fixed by rules.

The rules are about documents and not about records, and a document may leave a field out, so that a
rule for an optional field also fixes its absence.  What a record provides is read off its
specification; that the rules fix enough of it is checked here kind by kind.
-/

namespace ServiceOperator

open Json (valuesOf_append valuesOf_cons_of_ne valuesOf_member?_of_ne valuesOf_member?_self)

namespace Manifest.EditRule

/-- What a rule asks of a specification before and after an edit: the member that it is about keeps
its value, or its absence. -/
def Allows (before after : Json) : EditRule → Prop
  | fixed field => after.get? field = before.get? field
  | fixedOptional field => after.get? field = before.get? field
  | fixedAtCreation field => after.get? field = before.get? field
  | whole _ => after = before

end Manifest.EditRule

open Manifest (EditRule)

/-! ## Members that are fixed -/

theorem ServiceUserSpec.get?_serviceName (s : ServiceUserSpec) :
    s.encode.get? "serviceName" = some (.string s.serviceName) := by
  simp [encode, Json.get?, Json.members, Json.lastOf_eq_getLast?, valuesOf_append,
    valuesOf_cons_of_ne, valuesOf_member?_of_ne]

theorem DatabaseSpec.get?_serviceName (s : DatabaseSpec) :
    s.encode.get? "serviceName" = some (.string s.serviceName) := by
  simp [encode, Json.get?, Json.members, Json.lastOf_eq_getLast?, valuesOf_append,
    valuesOf_cons_of_ne, valuesOf_member?_of_ne]

theorem DatabaseSpec.get?_databaseName (s : DatabaseSpec) :
    s.encode.get? "databaseName" = s.databaseName.map Json.string := by
  cases declared : s.databaseName <;>
    simp [encode, Json.get?, Json.members, Json.lastOf_eq_getLast?, valuesOf_append,
      valuesOf_cons_of_ne, valuesOf_member?_of_ne, valuesOf_member?_self, declared]

/-! ## Versions of a record -/

namespace Record

/-- A version of a record, earlier or later: of the same kind, called the same, and apart from it by
what an edit may change. -/
structure IsVersionOf (v r : Record) : Prop where
  kind : v.kind = r.kind
  namespaceName : v.namespaceName = r.namespaceName
  name : v.name = r.name
  rules : ∀ rule ∈ EditRule.ofKind r.kind, rule.Allows r.spec.encode v.spec.encode

/-- **All versions of a record provide the same.** -/
theorem IsVersionOf.provides {v r : Record} (version : v.IsVersionOf r) :
    v.provides? = r.provides? := by
  obtain ⟨kind, namespaceName, name, rules⟩ := version
  unfold Record.kind at kind rules
  unfold provides?
  rw [namespaceName, name]
  cases spec : r.spec <;> cases spec' : v.spec <;>
    simp only [spec, spec', Spec.kind, reduceCtorEq] at kind
  case serviceUser s s' =>
    rw [spec, spec'] at rules
    have service : s'.encode.get? "serviceName" = s.encode.get? "serviceName" :=
      rules (.fixed "serviceName") (by simp [EditRule.ofKind, Spec.kind])
    rw [s.get?_serviceName, s'.get?_serviceName] at service
    simp only [Option.some.injEq, Json.string.injEq] at service
    simp only [service]
  case database s s' =>
    rw [spec, spec'] at rules
    have service : s'.encode.get? "serviceName" = s.encode.get? "serviceName" :=
      rules (.fixed "serviceName") (by simp [EditRule.ofKind, Spec.kind])
    have database : s'.encode.get? "databaseName" = s.encode.get? "databaseName" :=
      rules (.fixedOptional "databaseName") (by simp [EditRule.ofKind, Spec.kind])
    rw [s.get?_serviceName, s'.get?_serviceName] at service
    rw [s.get?_databaseName, s'.get?_databaseName] at database
    simp only [Option.some.injEq, Json.string.injEq] at service
    have databaseName : s'.databaseName = s.databaseName :=
      Option.map_injective (fun a b => Json.string.inj) database
    simp only [service, databaseName]
  all_goals rfl

end Record

end ServiceOperator
