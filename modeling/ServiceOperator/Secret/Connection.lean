import ServiceOperator.Reconcile.Adapter
import ServiceOperator.Record.Basic
import ServiceOperator.Text.Base64
import ServiceOperator.Text.Percent

/-!
# Connection secrets

Connection info is written into a secret in the namespace of its record. The keys begin with a text
of the kind, or of the record's choice; labels name the owner, and a record that is stored owns its
secret, so that it goes with the record.
-/

namespace ServiceOperator

namespace Record

/-- The name of the connection secret. -/
def secretName (r : Record) : String :=
  (r.secretTarget?.bind SecretTarget.name).getD r.name

/-- What the keys of the connection secret begin with, for a kind that has one. -/
def secretKeyStart? (r : Record) : Option String :=
  r.kind.secretKeyStart?.map fun start => (r.secretTarget?.bind SecretTarget.keyStart).getD start

/-- The record has connection info to write. -/
def hasConnectionSecret (r : Record) : Bool :=
  r.kind.secretKeyStart?.isSome && !r.secretTargetDisabled

/-- The labels of the connection secret. -/
def secretLabels (r : Record) : StringMap String :=
  ((((r.secretTarget?.bind SecretTarget.labels).getD .empty).insert
    "app.kubernetes.io/managed-by" "msop").insert
    "msop.dev/owner-kind" r.kind.name).insert
    "msop.dev/owner-name" r.name

/-- The reference by which the record owns its secret, once it has a name and an id. -/
def ownerReference? (r : Record) : Option Json :=
  match r.metadata.name, r.metadata.uid with
  | some name, some uid =>
    some (.object [("apiVersion", .string (apiGroup ++ "/" ++ apiVersion)),
      ("kind", .string r.kind.name), ("name", .string name), ("uid", .string uid),
      ("controller", .bool true)])
  | _, _ => none

/-- The connection secret as a document. -/
def connectionSecret? (r : Record) (info : ConnectionInfo) : Option Json :=
  if r.hasConnectionSecret then
    r.secretKeyStart?.map fun start =>
      let data := StringMap.ofList (info.toList.map fun e =>
        (start ++ e.1, Json.string (String.ofList (Text.base64Encode (Text.utf8Bytes e.2.toList)))))
      .object [
        ("apiVersion", .string "v1"),
        ("kind", .string "Secret"),
        ("metadata", .object <|
          [("name", .string r.secretName), ("namespace", .string r.namespaceName),
            ("labels", r.secretLabels.encode .string)] ++
          Json.member? "annotations" (StringMap.encode .string)
            (r.secretTarget?.bind SecretTarget.annotations) ++
          Json.member? "ownerReferences" (fun o => .array [o]) r.ownerReference?),
        ("data", data.encode id),
        ("type", .string "Opaque")]
  else none

end Record

end ServiceOperator
