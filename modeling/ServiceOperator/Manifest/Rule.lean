import ServiceOperator.Json.Basic
import ServiceOperator.Record.Kind

/-!
# Rules on edits

What may not change once a record is there. Kubernetes checks a rule with the record before and
after each edit, `oldSelf` and `self`.
-/

namespace ServiceOperator.Manifest

/-- A rule on the edits of a specification. -/
inductive EditRule where
  /-- A field that is always there keeps its value. -/
  | fixed (field : String)
  /-- A field that may be left out keeps its value, or its absence. -/
  | fixedOptional (field : String)
  /-- Whether connection info is written is decided when the record is created. -/
  | fixedAtCreation (field : String)
  /-- Nothing changes. -/
  | whole (kind : Kind)
  deriving DecidableEq, Repr

namespace EditRule

/-- A field has the same value before and after. -/
def same (field : String) : String :=
  "self." ++ field ++ " == oldSelf." ++ field

/-- A field is there before if it is there after, with the same value. -/
def sameOptional (field : String) : String :=
  "has(oldSelf." ++ field ++ ") == has(self." ++ field ++ ") && (!has(self." ++ field ++ ") || " ++
    same field ++ ")"

/-- What is checked. -/
def condition : EditRule → String
  | fixed field => same field
  | fixedOptional field => sameOptional field
  | fixedAtCreation field => sameOptional field
  | whole _ => "self == oldSelf"

/-- What is said when the check fails. -/
def message : EditRule → String
  | fixed field => field ++ " is immutable"
  | fixedOptional field => field ++ " is immutable"
  | fixedAtCreation field => field ++ " can only be set during resource creation"
  | whole kind => kind.name ++ " spec is immutable"

/-- A rule as a document. -/
def document (r : EditRule) : Json :=
  .object [("rule", .string r.condition), ("message", .string r.message)]

/-- The rules of a kind. -/
def ofKind : Kind → List EditRule
  | .postgreSql =>
    [fixedAtCreation "connInfoSecretTargetDisabled", fixed "project",
      fixedOptional "forkFromServiceName"]
  | .kafka => [fixedAtCreation "connInfoSecretTargetDisabled", fixed "project"]
  | .serviceUser =>
    [fixedAtCreation "connInfoSecretTargetDisabled", fixed "project", fixed "serviceName"]
  | .database => [fixed "project", fixed "serviceName", fixedOptional "databaseName"]
  | .connectionPool =>
    [fixedAtCreation "connInfoSecretTargetDisabled", fixed "project", fixed "serviceName"]
  | .kafkaTopic => [fixed "project", fixed "serviceName", fixedOptional "topicName"]
  | .kafkaAcl => [fixed "project", fixed "serviceName"]
  | .projectVpc => [whole .projectVpc]
  | .serviceIntegration =>
    [fixed "project", fixed "integrationType", fixed "sourceServiceName",
      fixed "destinationServiceName"]

end EditRule

end ServiceOperator.Manifest
