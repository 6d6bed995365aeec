import EnvironmentOperator.Api
import EnvironmentOperator.Api.Body
import EnvironmentOperator.Api.Gateway
import EnvironmentOperator.Api.Route
import EnvironmentOperator.Binary64
import EnvironmentOperator.Binary64.Shortest
import EnvironmentOperator.Cluster
import EnvironmentOperator.Cluster.Difference
import EnvironmentOperator.Cluster.Key
import EnvironmentOperator.Cluster.Operation
import EnvironmentOperator.CommandLine
import EnvironmentOperator.CommandLine.Page
import EnvironmentOperator.CommandLine.UsageError
import EnvironmentOperator.DatabaseEngine
import EnvironmentOperator.Decoding
import EnvironmentOperator.Decoding.FromSource
import EnvironmentOperator.Decoding.Record
import EnvironmentOperator.Definition
import EnvironmentOperator.Desired.Database
import EnvironmentOperator.Desired.Ide
import EnvironmentOperator.Desired.Issuing
import EnvironmentOperator.Desired.Label
import EnvironmentOperator.Desired.Namespace
import EnvironmentOperator.Desired.Overlay
import EnvironmentOperator.Desired.Storage
import EnvironmentOperator.Desired.Tools
import EnvironmentOperator.Dict
import EnvironmentOperator.Environment
import EnvironmentOperator.Environment.Spec
import EnvironmentOperator.Environment.Status
import EnvironmentOperator.Http.Method
import EnvironmentOperator.Http.Status
import EnvironmentOperator.Http.Target
import EnvironmentOperator.Json
import EnvironmentOperator.Json.Edit
import EnvironmentOperator.Json.MergePatch
import EnvironmentOperator.Json.Numeral
import EnvironmentOperator.Json.Parse
import EnvironmentOperator.Json.Render
import EnvironmentOperator.Json.Source
import EnvironmentOperator.Json.Yaml
import EnvironmentOperator.Json.Zero
import EnvironmentOperator.Log
import EnvironmentOperator.Log.Filter
import EnvironmentOperator.Main
import EnvironmentOperator.Manifest
import EnvironmentOperator.Manifest.Claim
import EnvironmentOperator.Manifest.ConfigMap
import EnvironmentOperator.Manifest.Deployment
import EnvironmentOperator.Manifest.Ingress
import EnvironmentOperator.Manifest.Issuing
import EnvironmentOperator.Manifest.Kind
import EnvironmentOperator.Manifest.Metadata
import EnvironmentOperator.Manifest.Namespace
import EnvironmentOperator.Manifest.Object
import EnvironmentOperator.Manifest.Pod
import EnvironmentOperator.Manifest.Scalar
import EnvironmentOperator.Manifest.Secret
import EnvironmentOperator.Manifest.Service
import EnvironmentOperator.Metrics
import EnvironmentOperator.Metrics.Family
import EnvironmentOperator.Names
import EnvironmentOperator.Power
import EnvironmentOperator.Probe
import EnvironmentOperator.Program
import EnvironmentOperator.Proofs.Binary64
import EnvironmentOperator.Proofs.Cluster.Accounting
import EnvironmentOperator.Proofs.Cluster.Call
import EnvironmentOperator.Proofs.Cluster.Generation
import EnvironmentOperator.Proofs.Cluster.Kept
import EnvironmentOperator.Proofs.Cluster.Lifetime
import EnvironmentOperator.Proofs.Cluster.Moves
import EnvironmentOperator.Proofs.Cluster.Order
import EnvironmentOperator.Proofs.Cluster.Scene
import EnvironmentOperator.Proofs.Cluster.Status
import EnvironmentOperator.Proofs.Cluster.Version
import EnvironmentOperator.Proofs.Cluster.WellFormed
import EnvironmentOperator.Proofs.Decoding
import EnvironmentOperator.Proofs.Desired.Capacity
import EnvironmentOperator.Proofs.Desired.Overlay
import EnvironmentOperator.Proofs.Desired.Portions
import EnvironmentOperator.Proofs.Desired.References
import EnvironmentOperator.Proofs.Dict
import EnvironmentOperator.Proofs.Environment
import EnvironmentOperator.Proofs.Json.Zero
import EnvironmentOperator.Proofs.Manifest.Exchange
import EnvironmentOperator.Proofs.Manifest.Faithful
import EnvironmentOperator.Proofs.Manifest.Members
import EnvironmentOperator.Proofs.Manifest.Metadata
import EnvironmentOperator.Proofs.Manifest.Object
import EnvironmentOperator.Proofs.Password
import EnvironmentOperator.Proofs.Program.Along
import EnvironmentOperator.Proofs.Program.Amid
import EnvironmentOperator.Proofs.Reconcile.Account
import EnvironmentOperator.Proofs.Reconcile.Aside
import EnvironmentOperator.Proofs.Reconcile.Benign
import EnvironmentOperator.Proofs.Reconcile.Beside
import EnvironmentOperator.Proofs.Reconcile.Chain
import EnvironmentOperator.Proofs.Reconcile.Concurrent
import EnvironmentOperator.Proofs.Reconcile.Convergence
import EnvironmentOperator.Proofs.Reconcile.Declaration
import EnvironmentOperator.Proofs.Reconcile.Echo
import EnvironmentOperator.Proofs.Reconcile.Ensure
import EnvironmentOperator.Proofs.Reconcile.Finalizer
import EnvironmentOperator.Proofs.Reconcile.Foreign
import EnvironmentOperator.Proofs.Reconcile.Frame
import EnvironmentOperator.Proofs.Reconcile.Freshness
import EnvironmentOperator.Proofs.Reconcile.Halted
import EnvironmentOperator.Proofs.Reconcile.Interrupted
import EnvironmentOperator.Proofs.Reconcile.Isolation
import EnvironmentOperator.Proofs.Reconcile.Lineage
import EnvironmentOperator.Proofs.Reconcile.Marking
import EnvironmentOperator.Proofs.Reconcile.Orphans
import EnvironmentOperator.Proofs.Reconcile.Overtaken
import EnvironmentOperator.Proofs.Reconcile.Pass
import EnvironmentOperator.Proofs.Reconcile.Periodic
import EnvironmentOperator.Proofs.Reconcile.Preparation
import EnvironmentOperator.Proofs.Reconcile.Provision
import EnvironmentOperator.Proofs.Reconcile.Release
import EnvironmentOperator.Proofs.Reconcile.Retry
import EnvironmentOperator.Proofs.Reconcile.Rewriting
import EnvironmentOperator.Proofs.Reconcile.Schedule
import EnvironmentOperator.Proofs.Reconcile.Secrecy
import EnvironmentOperator.Proofs.Reconcile.Snapshot
import EnvironmentOperator.Proofs.Reconcile.Stage
import EnvironmentOperator.Proofs.Reconcile.Status
import EnvironmentOperator.Proofs.Reconcile.Steady
import EnvironmentOperator.Proofs.Reconcile.Survey
import EnvironmentOperator.Proofs.Reconcile.Teardown
import EnvironmentOperator.Proofs.Reconcile.Verdict
import EnvironmentOperator.Proofs.Reconcile.Vouched
import EnvironmentOperator.Proofs.Spec
import EnvironmentOperator.Proofs.Text.Base64
import EnvironmentOperator.Proofs.Text.Numeral
import EnvironmentOperator.Proofs.Text.Order
import EnvironmentOperator.Proofs.Time.Calendar
import EnvironmentOperator.Proofs.Time.Lenient
import EnvironmentOperator.Proofs.Time.Rfc3339
import EnvironmentOperator.Reconcile
import EnvironmentOperator.Reconcile.Echo
import EnvironmentOperator.Reconcile.Ensure
import EnvironmentOperator.Reconcile.Failure
import EnvironmentOperator.Reconcile.Finalizer
import EnvironmentOperator.Reconcile.Pass
import EnvironmentOperator.Reconcile.Stage
import EnvironmentOperator.Reconcile.Status
import EnvironmentOperator.Reconcile.Teardown
import EnvironmentOperator.Scenario
import EnvironmentOperator.Scope
import EnvironmentOperator.Script
import EnvironmentOperator.Settings
import EnvironmentOperator.Store.Address
import EnvironmentOperator.Store.Call
import EnvironmentOperator.Store.Error
import EnvironmentOperator.Text.Alphanumeric
import EnvironmentOperator.Text.Base64
import EnvironmentOperator.Text.Blank
import EnvironmentOperator.Text.CharClass
import EnvironmentOperator.Text.Numeral
import EnvironmentOperator.Text.Octet
import EnvironmentOperator.Text.Order
import EnvironmentOperator.Text.Pattern
import EnvironmentOperator.Text.Quoted
import EnvironmentOperator.Text.Similarity
import EnvironmentOperator.Time.Calendar
import EnvironmentOperator.Time.Instant
import EnvironmentOperator.Time.Rfc3339
import EnvironmentOperator.Time.Span
import EnvironmentOperator.Toolchain
import EnvironmentOperator.Watch
import EnvironmentOperator.Watch.Agenda
import EnvironmentOperator.Watch.Fault
import EnvironmentOperator.Watch.Notice
import EnvironmentOperator.Watch.Session
import EnvironmentOperator.Proofs.Reconcile.Timestamp
import EnvironmentOperator.Proofs.Cluster.StatusPatch
import EnvironmentOperator.Proofs.Reconcile.Quiet
import EnvironmentOperator.Proofs.Script
import EnvironmentOperator.Proofs.Settings
import EnvironmentOperator.Proofs.Json.Patched
