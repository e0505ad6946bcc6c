import ServiceOperator.Record.Metadata
import ServiceOperator.Text.Base64

/-!
# Secrets

A secret holds bytes under keys. In a document they are written as base64; texts may be written as
they are under a second member.
-/

namespace ServiceOperator

/-- A secret, as far as it is read. -/
structure Secret where
  /-- The name of the secret. -/
  name : String
  /-- The bytes by key. -/
  data : StringMap (List UInt8)
  /-- Texts by key, which count where there are no bytes. -/
  stringData : StringMap String

namespace Secret

/-- Bytes written as base64; `null` is no bytes. -/
def bytes : Json.Decoder (List UInt8)
  | .null => some []
  | .string s => Text.base64Decode? s.toList
  | _ => none

/-- A member that has to have one text wherever it stands. -/
def fixed (key value : String) (ms : List (String × Json)) : Option Unit :=
  if (ms.filter fun m => m.1 = key).all fun m => m.2.text? = some value then some () else none

/-- The secret that a document writes. -/
def decode : Json.Decoder Secret
  | .object ms => do
    fixed "apiVersion" "v1" ms
    fixed "kind" "Secret" ms
    Metadata.checked "immutable" Json.Decode.bool ms
    Metadata.checked "type" Json.Decode.text ms
    let metadata ← Metadata.member ms "metadata" Metadata.decode
    let data ← Metadata.member ms "data" (Json.Decode.map bytes)
    let stringData ← Metadata.member ms "stringData" (Json.Decode.map Json.Decode.text)
    some ⟨(metadata.getD .empty).displayName, data.getD .empty, stringData.getD .empty⟩
  | _ => none

end Secret

end ServiceOperator
