import PriceOverlay.Calendar.Date
import PriceOverlay.Calendar.Instant
import PriceOverlay.Capacity.Aggregate
import PriceOverlay.Capacity.Analysis
import PriceOverlay.Capacity.Commitment
import PriceOverlay.Capacity.Decision
import PriceOverlay.Capacity.Settings
import PriceOverlay.Capacity.Source
import PriceOverlay.Cli.Age
import PriceOverlay.Cli.Analyze
import PriceOverlay.Cli.Arguments
import PriceOverlay.Cli.Grid
import PriceOverlay.Cli.Help
import PriceOverlay.Cli.Lint
import PriceOverlay.Cli.Options
import PriceOverlay.Cli.Output
import PriceOverlay.Cli.Overlays
import PriceOverlay.Cli.Run
import PriceOverlay.Cluster.Call
import PriceOverlay.Cluster.Metadata
import PriceOverlay.Cluster.NodeOverlay
import PriceOverlay.Cluster.NodePools
import PriceOverlay.Cluster.OverlayStore
import PriceOverlay.Cluster.WatchLine
import PriceOverlay.Controller.Configuration
import PriceOverlay.Controller.Decisions
import PriceOverlay.Controller.Endpoint
import PriceOverlay.Controller.Operator
import PriceOverlay.Controller.Preferences
import PriceOverlay.Controller.Schedule
import PriceOverlay.Controller.Watch
import PriceOverlay.Decimal.Exact
import PriceOverlay.Decimal.Reader
import PriceOverlay.Decimal.Shortest
import PriceOverlay.Decimal.Text
import PriceOverlay.Decimal.Word
import PriceOverlay.Http.Address
import PriceOverlay.Http.Domain.Character
import PriceOverlay.Http.Domain.Name
import PriceOverlay.Http.Domain.Punycode
import PriceOverlay.Http.Target
import PriceOverlay.Http.Transport
import PriceOverlay.Http.Url
import PriceOverlay.Json.Basic
import PriceOverlay.Json.Reader
import PriceOverlay.Json.Start
import PriceOverlay.Json.Writer
import PriceOverlay.Main
import PriceOverlay.Overlay.Basic
import PriceOverlay.Overlay.Label
import PriceOverlay.Overlay.Name
import PriceOverlay.Overlay.Rendering
import PriceOverlay.Overlay.Requirement
import PriceOverlay.Preference.Annotation
import PriceOverlay.Preference.Basic
import PriceOverlay.Preference.Reader
import PriceOverlay.Prometheus.Reply
import PriceOverlay.Prometheus.Selector
import PriceOverlay.Prometheus.Source
import PriceOverlay.Reconcile.Counts
import PriceOverlay.Reconcile.Pass
import PriceOverlay.Reconcile.Plan
import PriceOverlay.Reconcile.Scope
import PriceOverlay.Settings.Environment
import PriceOverlay.Settings.File
import PriceOverlay.Settings.KeyPath
import PriceOverlay.Settings.Setting
import PriceOverlay.Store.Basic
import PriceOverlay.Store.Faults
import PriceOverlay.Store.Objects
import PriceOverlay.Table
import PriceOverlay.Telemetry.Duration
import PriceOverlay.Telemetry.Exposition
import PriceOverlay.Telemetry.Health
import PriceOverlay.Telemetry.Log
import PriceOverlay.Telemetry.Metric
import PriceOverlay.Telemetry.Signal
import PriceOverlay.Text.Blank
import PriceOverlay.Text.Codes
import PriceOverlay.Text.Columns
import PriceOverlay.Text.Composition
import PriceOverlay.Text.Direction
import PriceOverlay.Text.Emoji
import PriceOverlay.Text.Hidden
import PriceOverlay.Text.Joining
import PriceOverlay.Text.Lower
import PriceOverlay.Text.Marks
import PriceOverlay.Text.Quoted
import PriceOverlay.Text.Ranges
import PriceOverlay.Text.Utf8
import PriceOverlay.Text.Width
import PriceOverlay.Toml.Document
import PriceOverlay.Toml.Number
import PriceOverlay.Toml.Reader
import PriceOverlay.Toml.Text
import PriceOverlay.Toml.Time
import PriceOverlay.Proofs.Capacity.Accounting
import PriceOverlay.Proofs.Capacity.Analysis
import PriceOverlay.Proofs.Capacity.Counts
import PriceOverlay.Proofs.Capacity.Totals
import PriceOverlay.Proofs.Cli.Lint
import PriceOverlay.Proofs.Cluster.Conversion
import PriceOverlay.Proofs.Controller.Coverage
import PriceOverlay.Proofs.Controller.Decisions
import PriceOverlay.Proofs.Controller.Freshness
import PriceOverlay.Proofs.Controller.Gauge
import PriceOverlay.Proofs.Controller.Isolation
import PriceOverlay.Proofs.Controller.Loop
import PriceOverlay.Proofs.Controller.Preferences
import PriceOverlay.Proofs.Controller.Resync
import PriceOverlay.Proofs.Controller.Schedule
import PriceOverlay.Proofs.Controller.TextSettings
import PriceOverlay.Proofs.Decimal.Integers
import PriceOverlay.Proofs.Decimal.Order
import PriceOverlay.Proofs.Decimal.Overflow
import PriceOverlay.Proofs.Lookup
import PriceOverlay.Proofs.Overlay.Names
import PriceOverlay.Proofs.Overlay.Numbered
import PriceOverlay.Proofs.Overlay.ObjectNames
import PriceOverlay.Proofs.Overlay.PriceForm
import PriceOverlay.Proofs.Overlay.Prices
import PriceOverlay.Proofs.Overlay.Rendering
import PriceOverlay.Proofs.Preference.Declared
import PriceOverlay.Proofs.Preference.Percentage
import PriceOverlay.Proofs.Preference.Reading
import PriceOverlay.Proofs.Preference.Writable
import PriceOverlay.Proofs.Prometheus.Age
import PriceOverlay.Proofs.Prometheus.Malformed
import PriceOverlay.Proofs.Prometheus.Selector
import PriceOverlay.Proofs.Reconcile.Attempts
import PriceOverlay.Proofs.Reconcile.Convergence
import PriceOverlay.Proofs.Reconcile.Divided
import PriceOverlay.Proofs.Reconcile.Drift
import PriceOverlay.Proofs.Reconcile.Failures
import PriceOverlay.Proofs.Reconcile.Interleaving
import PriceOverlay.Proofs.Reconcile.Isolation
import PriceOverlay.Proofs.Reconcile.Modes
import PriceOverlay.Proofs.Reconcile.Overlapping
import PriceOverlay.Proofs.Reconcile.Pass
import PriceOverlay.Proofs.Reconcile.Plan
import PriceOverlay.Proofs.Reconcile.Recovery
import PriceOverlay.Proofs.Reconcile.Replicas
import PriceOverlay.Proofs.Reconcile.Settling
import PriceOverlay.Proofs.Settings.Assignment
import PriceOverlay.Proofs.Settings.Environment
import PriceOverlay.Proofs.Settings.Reprinting
import PriceOverlay.Proofs.Store.Owners
import PriceOverlay.Proofs.Store.Versions
import PriceOverlay.Proofs.Store.Writes
import PriceOverlay.Proofs.Telemetry.Metrics
import PriceOverlay.Proofs.Text.Ends
import PriceOverlay.Proofs.Text.Lower
import PriceOverlay.Proofs.Text.Words
import PriceOverlay.Proofs.Preference.Tokens
import PriceOverlay.Proofs.Preference.Grammar
import PriceOverlay.Proofs.Preference.Printing
import PriceOverlay.Proofs.Preference.Numbering
import PriceOverlay.Proofs.Reconcile.Partition
import PriceOverlay.Proofs.Controller.Cleanup
import PriceOverlay.Proofs.Store.Atomicity
