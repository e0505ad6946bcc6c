import ServiceOperator.Digest.Sha256
import ServiceOperator.Error
import ServiceOperator.Secret.Document
import ServiceOperator.Text.Percent

/-!
# Values from source secrets

A value that a record takes from a secret is remembered by a fingerprint, a digest salted with the
id of the record, so that a change of the value is noticed and the value itself is never stored.
-/

namespace ServiceOperator

/-- The fingerprint of a value taken by the record with an id. -/
def fingerprint (uid value : String) : String :=
  Sha256.hexDigest (Text.utf8Bytes uid.toList ++ Text.utf8Bytes [':'] ++
    Text.utf8Bytes value.toList)

/-- The text that bytes encode in UTF-8. -/
def textOfBytes? (bytes : List UInt8) : Option String :=
  String.fromUTF8? ⟨bytes.toArray⟩

namespace Secret

/-- The bytes under a key, those of a text if there are none. -/
def bytesAt? (s : Secret) (key : String) : Option (List UInt8) :=
  match s.data.get? key with
  | some bytes => some bytes
  | none => (s.stringData.get? key).map fun t => Text.utf8Bytes t.toList

/-- The text under a key. An empty value counts as no value. -/
def valueAt (s : Secret) (key : String) : Except OperatorError String :=
  match s.bytesAt? key with
  | none => .error (.dependencyNotReady ("secret " ++ s.name ++ " has no key " ++ key))
  | some bytes =>
    if bytes.isEmpty then
      .error (.dependencyNotReady ("secret " ++ s.name ++ " has no key " ++ key))
    else match textOfBytes? bytes with
      | some value => .ok value
      | none =>
        .error (.invalidSpec ("key " ++ key ++ " of secret " ++ s.name ++ " is not UTF-8"))

end Secret

/-- A value from a source secret with its fingerprint. -/
structure SourceValue where
  value : String
  fingerprint : String
  deriving DecidableEq

/-- The value under a key of a secret, for the record with an id. -/
def SourceValue.ofSecret (s : Secret) (key uid : String) : Except OperatorError SourceValue :=
  match s.valueAt key with
  | .ok value => .ok ⟨value, ServiceOperator.fingerprint uid value⟩
  | .error e => .error e

/-- A source value for logs, which must not show the value. -/
def SourceValue.redacted (v : SourceValue) : String :=
  "SourceValue \x7b value: \"<redacted>\", fingerprint: \"" ++ v.fingerprint ++ "\" \x7d"

end ServiceOperator
