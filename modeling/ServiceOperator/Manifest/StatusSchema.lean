import ServiceOperator.Manifest.Schema

/-!
# The schema of a status

All kinds have the same status.
-/

namespace ServiceOperator.Manifest

/-- The fields of a condition. -/
def conditionFields : List (Field Schema) :=
  [required "type" .anyText "Type of condition: `Running` or `Error`.",
    required "status" .anyText "Status of the condition: True, False, or Unknown.",
    optional "reason" .anyText "Brief CamelCase reason for the condition's last transition.",
    optional "message" .anyText "Human-readable message indicating details about the transition.",
    optional "lastTransitionTime" .anyText
      "Last time the condition transitioned from one status to another (RFC3339 format)."]

/-- The description of a condition. -/
def conditionDoc : String :=
  inLines
    ["Condition represents an observation of a resource's current state.", "",
      "Conditions are used in status subresources to communicate the state of",
      "a resource to users and controllers."]

/-- The fields of a status. -/
def statusFields : List (Field Schema) :=
  [standard "conditions" (.list conditionDoc (.object conditionFields)) (.array [])
      "`Running` and `Error` conditions.",
    optional "state" .anyText
      "Free-form state string reported by the control plane (e.g. `RUNNING`, `REBUILDING`).",
    optional "id" .anyText
      "External identifier. Server-assigned for id-addressed kinds, the external name otherwise.",
    optional "observedGeneration" .whole
      "Last generation whose mutation was accepted by the control plane.",
    optional "failedGeneration" .whole
      "Generation that failed terminally. Automatic retries stop until the generation changes.",
    optional "operationStartedAt" .anyText
      "When the current create or update operation first started (RFC3339).",
    optional "deletionStartedAt" .anyText "When external deletion was first attempted (RFC3339).",
    optional "sourceFingerprint" .anyText "Salted SHA-256 of the source-secret value last applied.",
    standard "failedAttempts" (.count 0 none) (.ofNat 0) "Consecutive transport failures."]

/-- The description of a status. -/
def statusDoc : String :=
  inLines
    ["Status shared by every managed resource kind.", "",
      "`Option` fields serialize as `null` when unset so that a JSON merge patch of the",
      "whole status clears them on the server."]

/-- The status as a field of a record. -/
def statusField : Field Schema :=
  optional "status" (.object statusFields) statusDoc

end ServiceOperator.Manifest
