import ServiceOperator.Json.Printer
import ServiceOperator.Manifest.Rule
import ServiceOperator.Manifest.SpecSchema
import ServiceOperator.Manifest.StatusSchema

/-!
# Manifests

The manifest of a kind is the document that teaches Kubernetes the kind: its names, the schema of
its records, the rules on edits, and the columns of a listing. Manifests are written one to a file,
under lines of comment. A JSON text is also a YAML text, so a file is read as either.
-/

namespace ServiceOperator.Manifest

/-- A column of a listing. -/
structure Column where
  name : String
  path : String
  deriving DecidableEq, Repr

/-- A column as a document. -/
def Column.document (c : Column) : Json :=
  .object [("name", .string c.name), typed "string", ("jsonPath", .string c.path)]

/-- The columns of the listing of a kind. -/
def columns : Kind → List Column
  | .postgreSql | .kafka => [⟨"Project", ".spec.project"⟩, ⟨"State", ".status.state"⟩]
  | .serviceUser => [⟨"Service", ".spec.serviceName"⟩, ⟨"Type", ".status.state"⟩]
  | .database => [⟨"Service", ".spec.serviceName"⟩]
  | .connectionPool => [⟨"Service", ".spec.serviceName"⟩, ⟨"Database", ".spec.databaseName"⟩]
  | .kafkaTopic => [⟨"Service", ".spec.serviceName"⟩, ⟨"State", ".status.state"⟩]
  | .kafkaAcl =>
    [⟨"Service", ".spec.serviceName"⟩, ⟨"Permission", ".spec.permission"⟩, ⟨"Id", ".status.id"⟩]
  | .projectVpc => [⟨"Cloud", ".spec.cloudName"⟩, ⟨"State", ".status.state"⟩]
  | .serviceIntegration =>
    [⟨"Type", ".spec.integrationType"⟩, ⟨"Source", ".spec.sourceServiceName"⟩,
      ⟨"Destination", ".spec.destinationServiceName"⟩]

/-- What a kind is, in one sentence. -/
def summary : Kind → String
  | .postgreSql => "PostgreSQL is a managed PostgreSQL service provisioned on the control plane."
  | .kafka => "Kafka is a managed Kafka service provisioned on the control plane."
  | .serviceUser => "ServiceUser is a user account on a managed service."
  | .database => "Database is a logical database on a managed PostgreSQL service."
  | .connectionPool =>
    "ConnectionPool is a PgBouncer connection pool on a managed PostgreSQL service."
  | .kafkaTopic => "KafkaTopic is a topic on a managed Kafka service."
  | .kafkaAcl => "KafkaACL is an access control entry on a managed Kafka service."
  | .projectVpc => "ProjectVPC is a VPC on the control plane hosting managed services."
  | .serviceIntegration =>
    "ServiceIntegration links a source and a destination service on the control plane."

/-- The schema of the specifications of a kind, with the rules on their edits. -/
def specDocument (k : Kind) : Json :=
  .object ((described (specDoc k) :: (Schema.object (specFields k)).members) ++
    [("x-kubernetes-validations", .array ((EditRule.ofKind k).map EditRule.document))])

/-- The schema of the records of a kind. -/
def recordDocument (k : Kind) : Json :=
  .object [described (summary k), ("title", .string k.name), typed "object",
    ("properties", .object (("spec", specDocument k) :: properties [statusField])),
    ("required", .array [.string "spec"])]

/-- The name of the manifest of a kind. -/
def name (k : Kind) : String :=
  k.plural ++ "." ++ apiGroup

/-- The only version of a kind, which is served and stored. -/
def versionDocument (k : Kind) : Json :=
  .object [("name", .string apiVersion), ("served", .bool true), ("storage", .bool true),
    ("schema", .object [("openAPIV3Schema", recordDocument k)]),
    ("subresources", .object [("status", .object [])]),
    ("additionalPrinterColumns", .array ((columns k).map Column.document))]

/-- The manifest of a kind. -/
def document (k : Kind) : Json :=
  .object [("apiVersion", .string "apiextensions.k8s.io/v1"),
    ("kind", .string "CustomResourceDefinition"),
    ("metadata", .object [("name", .string (name k))]),
    ("spec", .object [("group", .string apiGroup),
      ("names", .object [("kind", .string k.name), ("plural", .string k.plural),
        ("singular", .string k.name.toLower), ("categories", .array []),
        ("shortNames", .array [])]),
      ("scope", .string "Namespaced"),
      ("versions", .array [versionDocument k])])]

/-- A file with the manifest of a kind. -/
structure File where
  kind : Kind
  /-- The lines of comment at its head. -/
  banner : List String

namespace File

/-- The name of a file. -/
def name (f : File) : String :=
  f.kind.plural ++ ".crd.yaml"

/-- The text of a file. -/
def text (f : File) : String :=
  String.join (f.banner.map (· ++ "\n")) ++ (document f.kind).print ++ "\n"

/-- The files of all kinds, in the order in which they are written. -/
def all (banner : List String) : List File :=
  Kind.all.map fun k => ⟨k, banner⟩

end File

end ServiceOperator.Manifest
