import ServiceOperator.Config.CommandLine
import ServiceOperator.Config.Flag
import ServiceOperator.Config.OperatorConfig
import ServiceOperator.ControlPlane.Client
import ServiceOperator.ControlPlane.DiskSpace
import ServiceOperator.ControlPlane.Document
import ServiceOperator.ControlPlane.Endpoints
import ServiceOperator.ControlPlane.Host
import ServiceOperator.ControlPlane.HttpStatus
import ServiceOperator.ControlPlane.RequestBody
import ServiceOperator.ControlPlane.Url
import ServiceOperator.Controller.Reconcile
import ServiceOperator.Controller.Watches
import ServiceOperator.Digest.Sha256
import ServiceOperator.Double
import ServiceOperator.Error
import ServiceOperator.Json.Basic
import ServiceOperator.Json.Decode
import ServiceOperator.Json.MergePatch
import ServiceOperator.Json.Printer
import ServiceOperator.Json.Reader
import ServiceOperator.Kinds.Adapter
import ServiceOperator.Kinds.Adapters
import ServiceOperator.Kinds.ConnectionPool
import ServiceOperator.Kinds.Database
import ServiceOperator.Kinds.KafkaAcl
import ServiceOperator.Kinds.KafkaTopic
import ServiceOperator.Kinds.Lookup
import ServiceOperator.Kinds.ProjectVpc
import ServiceOperator.Kinds.Service
import ServiceOperator.Kinds.ServiceIntegration
import ServiceOperator.Kinds.ServiceUser
import ServiceOperator.Kubernetes.Client
import ServiceOperator.Kubernetes.Records
import ServiceOperator.Locks.Keyed
import ServiceOperator.Main
import ServiceOperator.Manifest.Definition
import ServiceOperator.Manifest.Rule
import ServiceOperator.Manifest.Schema
import ServiceOperator.Manifest.SpecSchema
import ServiceOperator.Manifest.StatusSchema
import ServiceOperator.Metrics.Event
import ServiceOperator.Metrics.Exposition
import ServiceOperator.Metrics.Family
import ServiceOperator.Metrics.Probe
import ServiceOperator.Program
import ServiceOperator.Proofs.ControlPlane.Calls
import ServiceOperator.Proofs.ControlPlane.DiskSizes
import ServiceOperator.Proofs.ControlPlane.Lookups
import ServiceOperator.Proofs.ControlPlane.Targets
import ServiceOperator.Proofs.Controller.Finalizer
import ServiceOperator.Proofs.Controller.FinalizerFirst
import ServiceOperator.Proofs.Controller.ForeignFinalizers
import ServiceOperator.Proofs.Controller.Frames
import ServiceOperator.Proofs.Controller.Markers
import ServiceOperator.Proofs.Controller.References
import ServiceOperator.Proofs.Controller.SingleFlight
import ServiceOperator.Proofs.Controller.SourceOverwrite
import ServiceOperator.Proofs.Controller.SourceSecrecy
import ServiceOperator.Proofs.Controller.StoredRecords
import ServiceOperator.Proofs.Controller.Watches
import ServiceOperator.Proofs.Json.MergePatch
import ServiceOperator.Proofs.Json.RoundTrip
import ServiceOperator.Proofs.Kinds.Absence
import ServiceOperator.Proofs.Kinds.AclUpdates
import ServiceOperator.Proofs.Kinds.ConnectionKeys
import ServiceOperator.Proofs.Kinds.Dependencies
import ServiceOperator.Proofs.Kinds.Echoes
import ServiceOperator.Proofs.Kinds.Forgetting
import ServiceOperator.Proofs.Kinds.Frames
import ServiceOperator.Proofs.Kinds.Gate
import ServiceOperator.Proofs.Kinds.Lookups
import ServiceOperator.Proofs.Kinds.Ownership
import ServiceOperator.Proofs.Kinds.Passwords
import ServiceOperator.Proofs.Kinds.PoolUri
import ServiceOperator.Proofs.Kinds.Rotation
import ServiceOperator.Proofs.Kinds.Secrecy
import ServiceOperator.Proofs.Kinds.ServiceEdits
import ServiceOperator.Proofs.Kinds.Updates
import ServiceOperator.Proofs.Kubernetes.Places
import ServiceOperator.Proofs.Kubernetes.Requests
import ServiceOperator.Proofs.Locks.Exclusion
import ServiceOperator.Proofs.Locks.Lingering
import ServiceOperator.Proofs.Manifest.Edits
import ServiceOperator.Proofs.Manifest.Patterns
import ServiceOperator.Proofs.Pass.Acceptance
import ServiceOperator.Proofs.Pass.Application
import ServiceOperator.Proofs.Pass.Backoff
import ServiceOperator.Proofs.Pass.Bookkeeping
import ServiceOperator.Proofs.Pass.Causes
import ServiceOperator.Proofs.Pass.Conclusions
import ServiceOperator.Proofs.Pass.Consistency
import ServiceOperator.Proofs.Pass.Convergence
import ServiceOperator.Proofs.Pass.Courses
import ServiceOperator.Proofs.Pass.CreationTimeout
import ServiceOperator.Proofs.Pass.Deletion
import ServiceOperator.Proofs.Pass.Entries
import ServiceOperator.Proofs.Pass.Exits
import ServiceOperator.Proofs.Pass.InPlace
import ServiceOperator.Proofs.Pass.LostWrite
import ServiceOperator.Proofs.Pass.MissingDependency
import ServiceOperator.Proofs.Pass.OperationClock
import ServiceOperator.Proofs.Pass.Outcomes
import ServiceOperator.Proofs.Pass.Plan
import ServiceOperator.Proofs.Pass.Recreation
import ServiceOperator.Proofs.Pass.Replacement
import ServiceOperator.Proofs.Pass.Reports
import ServiceOperator.Proofs.Pass.Requeues
import ServiceOperator.Proofs.Pass.Running
import ServiceOperator.Proofs.Pass.Runs
import ServiceOperator.Proofs.Pass.SourceFingerprint
import ServiceOperator.Proofs.Pass.TerminalFailure
import ServiceOperator.Proofs.Pass.TransportFailures
import ServiceOperator.Proofs.Peers.Attempts
import ServiceOperator.Proofs.Program.Abreast
import ServiceOperator.Proofs.Program.Actions
import ServiceOperator.Proofs.Program.InStep
import ServiceOperator.Proofs.Program.Yields
import ServiceOperator.Proofs.Record.RoundTrip
import ServiceOperator.Proofs.Status.Agreement
import ServiceOperator.Proofs.Status.Bookkeeping
import ServiceOperator.Proofs.Status.Conditions
import ServiceOperator.Proofs.Status.Patches
import ServiceOperator.Proofs.StringMap
import ServiceOperator.Proofs.Text.Paths
import ServiceOperator.Proofs.Text.Trimming
import ServiceOperator.Proofs.Text.Uris
import ServiceOperator.Proofs.Time.Calendar
import ServiceOperator.Proofs.Time.Stamps
import ServiceOperator.Reason
import ServiceOperator.Reconcile.Adapter
import ServiceOperator.Reconcile.Backoff
import ServiceOperator.Reconcile.Pass
import ServiceOperator.Reconcile.Plan
import ServiceOperator.Reconcile.Readiness
import ServiceOperator.Reconcile.Settings
import ServiceOperator.Reconcile.Steps
import ServiceOperator.Record.Basic
import ServiceOperator.Record.Dependency
import ServiceOperator.Record.Kind
import ServiceOperator.Record.Metadata
import ServiceOperator.Record.Spec
import ServiceOperator.Record.Subject
import ServiceOperator.Secret.Connection
import ServiceOperator.Secret.Document
import ServiceOperator.Secret.Source
import ServiceOperator.Simulation.Dependencies
import ServiceOperator.Simulation.Peers
import ServiceOperator.Simulation.Scripted
import ServiceOperator.Simulation.Waiters
import ServiceOperator.Status.Condition
import ServiceOperator.Status.ResourceStatus
import ServiceOperator.StringMap
import ServiceOperator.Text.Base64
import ServiceOperator.Text.Percent
import ServiceOperator.Text.Punycode
import ServiceOperator.Text.Quoted
import ServiceOperator.Text.Unprintable
import ServiceOperator.Text.WhiteSpace
import ServiceOperator.Time.Duration
import ServiceOperator.Time.Instant
import ServiceOperator.Word
import ServiceOperator.World
