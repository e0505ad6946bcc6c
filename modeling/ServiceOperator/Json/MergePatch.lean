import ServiceOperator.Json.Basic

/-!
# Merge patches

A merge patch is itself a document. A member that is an object is merged into the member of the
target with the same name, `null` removes that member, and any other value takes its place. A patch
that is not an object replaces the whole target.
-/

namespace ServiceOperator.Json

/-- The members without those named `key`. -/
def eraseMember (key : String) (ms : List (String × Json)) : List (String × Json) :=
  ms.filter fun m => m.1 != key

/-- The members with `key` set: in its place if it is there, else at the end. -/
def setMember (key : String) (value : Json) : List (String × Json) → List (String × Json)
  | [] => [(key, value)]
  | m :: rest => if m.1 = key then (key, value) :: rest else m :: setMember key value rest

mutual

/-- The target with a merge patch applied. -/
def mergePatch (target : Json) : Json → Json
  | .object patch => .object (mergeMembers target.members patch)
  | patch => patch

/-- The members of a target with the members of a patch applied in order. -/
def mergeMembers (target : List (String × Json)) : List (String × Json) → List (String × Json)
  | [] => target
  | (k, v) :: rest =>
    let target' :=
      if v.isNull then eraseMember k target
      else setMember k (mergePatch ((lastOf k target).getD .null) v) target
    mergeMembers target' rest

end

end ServiceOperator.Json
