import ServiceOperator.Manifest.Schema
import ServiceOperator.Record.Spec

/-!
# The schemas of specifications

What a record of each kind may declare, with the names under which `Spec` reads it.
-/

namespace ServiceOperator.Manifest

/-- What the size of a disk looks like. -/
def diskSpacePattern : String := "^[1-9][0-9]* ?(MiB|GiB|TiB)$"

/-! ### Parts that several kinds share -/

/-- A reference to another record. -/
def referenceSchema : Schema :=
  .object
    [required "name" .anyText "Name of the referenced resource.",
      optional "namespace" .anyText
        "Namespace of the referenced resource. Defaults to the referencing resource's namespace."]

/-- Where connection info is written. -/
def secretTargetSchema : Schema :=
  .object
    [optional "name" (.text { minLength := some 1, maxLength := some 253 })
        "Name of the secret. Defaults to the resource name.",
      optional "prefix" .anyText "Key prefix. Defaults to the kind prefix (e.g. `POSTGRESQL_`).",
      optional "annotations" .textMap "Annotations added to the secret.",
      optional "labels" .textMap "Labels added to the secret."]

/-- Where a password comes from. -/
def secretSourceSchema : Schema :=
  .object
    [required "name" .anyText "Name of the source secret.",
      optional "namespace" .anyText
        "Namespace of the source secret. Defaults to the resource namespace.",
      required "passwordKey" .anyText "Key holding the password."]

/-- The fields of a kind that writes connection info. -/
def connectionFields : List (Field Schema) :=
  [optional "connInfoSecretTarget" secretTargetSchema "Where to write connection information.",
    optional "connInfoSecretTargetDisabled" .flag
      "Do not write connection information. Fixed at creation time."]

/-- The fields of something that lives on a service. -/
def onServiceFields (guest : String) : List (Field Schema) :=
  [required "project" .anyText "Project the service belongs to.",
    required "serviceName" .anyText ("Service hosting the " ++ guest ++ ".")]

/-! ### Services -/

/-- A service that a new service is integrated with from the start. -/
def initialIntegrationSchema : Schema :=
  .object
    [required "integrationType" (.text { pattern := some "^read_replica$" })
        "Integration type. Only `read_replica` is accepted at service creation.",
      required "sourceServiceName" .anyText "Service to replicate from."]

/-- The fields of services of every kind. -/
def serviceFields : List (Field Schema) :=
  [required "project" (.text { maxLength := some 63 }) "Project the service belongs to.",
    required "plan" .anyText "Subscription plan (e.g. `startup-4`).",
    optional "cloudName" .anyText "Cloud and region (e.g. `google-europe-west1`).",
    optional "projectVPCRef" referenceSchema "`ProjectVPC` resource hosting the service.",
    optional "projectVpcId" .anyText
      "Raw VPC id, for VPCs not managed by msop. Ignored when `projectVPCRef` is set.",
    optional "powered" .flag
      "Run (`true`, the default) or suspend (`false`) the service without deleting it.",
    optional "terminationProtection" .flag "Prevent deletion of the external service.",
    optional "diskSpace" (.text { pattern := some diskSpacePattern })
      "Disk space override (e.g. `80GiB`).",
    optional "tags" .textMap "Tags attached to the external service.",
    optional "serviceIntegrations"
      (.list "An integration created together with a service." initialIntegrationSchema)
      "Integrations created with the service (read replicas).",
    optional "userConfig" .free "Kind-specific service configuration passed through unchanged."] ++
  connectionFields

/-! ### The kinds -/

/-- The configuration of a topic. -/
def topicConfigSchema : Schema :=
  .object
    [optional "retentionMs" .whole "Retention in milliseconds (`-1` for unlimited).",
      optional "cleanupPolicy" (.text { pattern := some "^(delete|compact|compact,delete)$" })
        "`delete`, `compact` or `compact,delete`.",
      optional "minInsyncReplicas" (.count 1 none)
        "Minimum in-sync replicas for acknowledged writes."]

/-- The fields of the specification of a kind. -/
def specFields : Kind → List (Field Schema)
  | .postgreSql =>
    serviceFields ++
      [optional "forkFromServiceName" .anyText
        "Create the service as a fork of an existing service."]
  | .kafka =>
    serviceFields ++ [optional "karapace" .flag "Enable the schema registry (Karapace)."]
  | .serviceUser =>
    onServiceFields "user" ++
      [optional "authentication"
        (.text { pattern := some "^(caching_sha2_password|mysql_native_password)$" })
        "Authentication plugin (`PostgreSQL` and `MySQL` only)."] ++
      connectionFields ++
      [optional "connInfoSecretSource" secretSourceSchema "Secret supplying the user's password."]
  | .database =>
    onServiceFields "database" ++
      [optional "databaseName" (.text { maxLength := some 40 })
          "External database name. Defaults to the resource name.",
        optional "lcCollate" .anyText "Default string sort order.",
        optional "lcCtype" .anyText "Default character classification.",
        optional "terminationProtection" .flag
          "Refuse to drop the external database on deletion."]
  | .connectionPool =>
    onServiceFields "pool" ++
      [required "databaseName" .anyText "External database the pool connects to.",
        required "username" .anyText "External user the pool connects as.",
        optional "poolSize" (.count 1 (some 10000)) "Number of server connections.",
        optional "poolMode" (.oneOf (PoolMode.spellings.map (·.1))) "`PgBouncer` pooling mode."] ++
      connectionFields
  | .kafkaTopic =>
    onServiceFields "topic" ++
      [optional "topicName" (.text { maxLength := some 249 })
          "External topic name. Defaults to the resource name.",
        required "partitions" (.count 1 (some 1000000)) "Number of partitions.",
        required "replication" (.count 2 none) "Replication factor.",
        optional "config" topicConfigSchema "Topic configuration.",
        optional "tags" .textMap "Tags attached to the topic.",
        optional "terminationProtection" .flag "Refuse to delete the external topic on deletion."]
  | .kafkaAcl =>
    onServiceFields "ACL" ++
      [required "permission" (.oneOf (Permission.spellings.map (·.1))) "Granted permission.",
        required "topic" .anyText "Topic name pattern (wildcards allowed).",
        required "username" .anyText "Username pattern (wildcards allowed)."]
  | .projectVpc =>
    [required "project" .anyText "Project the VPC belongs to.",
      required "cloudName" .anyText "Cloud and region.",
      required "networkCidr" .anyText "IPv4 network range (CIDR)."]
  | .serviceIntegration =>
    [required "project" .anyText "Project both services belong to.",
      required "integrationType" .anyText
        "Integration type (e.g. `metrics`, `logs`, `kafka_connect`).",
      required "sourceServiceName" .anyText "Source service.",
      required "destinationServiceName" .anyText "Destination service.",
      optional "userConfig" .free
        "Integration-specific configuration passed through unchanged."]

/-- The description of the specification of a kind. -/
def specDoc : Kind → String
  | .postgreSql =>
    inLines
      ["`PostgreSQL` is a managed `PostgreSQL` service.", "", "# Example", "", "```yaml",
        "apiVersion: msop.dev/v1alpha1", "kind: PostgreSQL", "metadata:", "  name: orders-db",
        "spec:", "  project: acme", "  plan: business-4", "  cloudName: google-europe-west1",
        "  projectVPCRef:", "    name: acme-vpc", "  userConfig:", "    pg_version: \"16\"", "```"]
  | .kafka => "`Kafka` is a managed Kafka service."
  | .serviceUser =>
    inLines
      ["`ServiceUser` is a user on a service.", "",
        "When `connInfoSecretSource` is set, the user's password is taken from that secret",
        "and rotated whenever the secret changes."]
  | .database => "`Database` is a logical database on a `PostgreSQL` service."
  | .connectionPool => "`ConnectionPool` is a `PgBouncer` pool on a `PostgreSQL` service."
  | .kafkaTopic => "`KafkaTopic` is a topic on a Kafka service."
  | .kafkaAcl =>
    inLines
      ["`KafkaACL` grants a user access to topics on a Kafka service.", "",
        "ACL entries cannot be changed in place on the control plane: every spec change",
        "deletes the old entry and creates a new one, and `status.id` changes accordingly."]
  | .projectVpc => "`ProjectVPC` is a VPC in which services can be placed."
  | .serviceIntegration =>
    "`ServiceIntegration` links two services (metrics, logs, replication, ...)."

end ServiceOperator.Manifest
