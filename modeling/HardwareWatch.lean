import HardwareWatch.Text.Pieces
import HardwareWatch.Text.Lowercase
import HardwareWatch.Decimal.Text
import HardwareWatch.NameMap
import HardwareWatch.Error
import HardwareWatch.Table.Reference
import HardwareWatch.Table.Column
import HardwareWatch.Json.Basic
import HardwareWatch.Json.Number
import HardwareWatch.Json.Printer
import HardwareWatch.Json.Reader
import HardwareWatch.Json.Shape
import HardwareWatch.Operator.Basic
import HardwareWatch.Operator.Document
import HardwareWatch.Operator.Arithmetic
import HardwareWatch.Operator.Cells
import HardwareWatch.Operator.Translation
import HardwareWatch.Operator.Flatten
import HardwareWatch.Text.Category
import HardwareWatch.Pattern.Basic
import HardwareWatch.Pattern.Bracket
import HardwareWatch.Pattern.Reader
import HardwareWatch.Operator.Apply
import HardwareWatch.Connector.Source
import HardwareWatch.Settings.Host
import HardwareWatch.Settings.Engine
import HardwareWatch.Connector.Basic
import HardwareWatch.Connector.Document
import HardwareWatch.Connector.Store
import HardwareWatch.Connector.Waves
import HardwareWatch.Octets.Encoding
import HardwareWatch.Octets.Sha256
import HardwareWatch.Placeholder.Escape
import HardwareWatch.Placeholder.Expand
import HardwareWatch.Connector.Staging
import HardwareWatch.Detect.Local
import HardwareWatch.Extension.Registry
import HardwareWatch.Telemetry.Instant
import HardwareWatch.Telemetry.Monitor
import HardwareWatch.Telemetry.Record
import HardwareWatch.Telemetry.Resource
import HardwareWatch.Mapping.Apply
import HardwareWatch.Telemetry.Document
import HardwareWatch.Connector.Derived
import HardwareWatch.Connector.Template
import HardwareWatch.Activity.Basic
import HardwareWatch.Activity.Poll
import HardwareWatch.Activity.Progress
import HardwareWatch.Activity.Run
import HardwareWatch.Visit.Basic
import HardwareWatch.Visit.Detection
import HardwareWatch.Visit.Sources
import HardwareWatch.Visit.Host
import HardwareWatch.Extension.Script
import HardwareWatch.Activity.Trace
import HardwareWatch.Scheduler.Basic
import HardwareWatch.Scheduler.Progress
import HardwareWatch.Scheduler.Watch
import HardwareWatch.Pattern.Marked
import HardwareWatch.Proofs.Json.Scanning
import HardwareWatch.Proofs.Json.Shapes
import HardwareWatch.Proofs.Table.Naming
import HardwareWatch.Proofs.Json.Quoted
import HardwareWatch.Proofs.Documents.Operators
import HardwareWatch.Proofs.Documents.Sources
import HardwareWatch.Proofs.Documents.Criteria
import HardwareWatch.Proofs.Documents.Connectors
import HardwareWatch.Proofs.Activity.Runs
import HardwareWatch.Proofs.Activity.AtSite
import HardwareWatch.Proofs.Activity.Prompt
import HardwareWatch.Proofs.Activity.Finish
import HardwareWatch.Proofs.Activity.Moves
import HardwareWatch.Proofs.Activity.InTime
import HardwareWatch.Proofs.Activity.Respondents
import HardwareWatch.Proofs.Sources.Failing
import HardwareWatch.Proofs.Sources.Course
import HardwareWatch.Proofs.Sources.Waves
import HardwareWatch.Proofs.Sources.InOrder
import HardwareWatch.Proofs.Sources.Filling
import HardwareWatch.Proofs.Sources.Lookups
import HardwareWatch.Proofs.Sources.References
import HardwareWatch.Proofs.Sources.Rows
import HardwareWatch.Proofs.Sources.Accounting
import HardwareWatch.Proofs.Sources.Isolation
import HardwareWatch.Proofs.Connector.Places
import HardwareWatch.Proofs.Telemetry.Monitors
import HardwareWatch.Proofs.Telemetry.Confined
import HardwareWatch.Proofs.Telemetry.Reachable
import HardwareWatch.Proofs.Telemetry.Ownership
import HardwareWatch.Proofs.Telemetry.Recollection
import HardwareWatch.Proofs.Telemetry.Rediscovery
import HardwareWatch.Proofs.Telemetry.Collecting
import HardwareWatch.Proofs.Telemetry.Identification
import HardwareWatch.Proofs.Telemetry.Apart
import HardwareWatch.Proofs.Visit.JobChanges
import HardwareWatch.Proofs.Visit.Discovery
import HardwareWatch.Proofs.Visit.Verdicts
import HardwareWatch.Proofs.Visit.Pass
import HardwareWatch.Proofs.Visit.Retries
import HardwareWatch.Proofs.Visit.Outage
import HardwareWatch.Proofs.Scheduler.Interleaving
import HardwareWatch.Proofs.Scheduler.Exclusion
import HardwareWatch.Proofs.Scheduler.Registrations
import HardwareWatch.Proofs.Scheduler.Revisits
import HardwareWatch.Proofs.Visit.Selection
import HardwareWatch.Proofs.Visit.Superseding
import HardwareWatch.Proofs.Visit.Reuse
import HardwareWatch.Proofs.Activity.Agreement
import HardwareWatch.Proofs.Telemetry.Alike
import HardwareWatch.Proofs.Telemetry.Endpoint
import HardwareWatch.Proofs.Sources.EitherMode
import HardwareWatch.Proofs.Visit.JobModes
import HardwareWatch.Proofs.Visit.Phases
import HardwareWatch.Proofs.Visit.Staleness
import HardwareWatch.Proofs.Visit.EitherMode
import HardwareWatch.Proofs.Visit.Staging
import HardwareWatch.Proofs.Visit.Tags
import HardwareWatch.Proofs.Scheduler.Orders
import HardwareWatch.Proofs.Scheduler.Tokens
import HardwareWatch.Proofs.Scheduler.Reports
import HardwareWatch.Proofs.Visit.ProbeStages
import HardwareWatch.Proofs.Visit.TurnsKept
import HardwareWatch.Proofs.Visit.HostCalls
import HardwareWatch.Proofs.Mapping.Literals
import HardwareWatch.Proofs.Telemetry.Baselines
import HardwareWatch.Proofs.Table.RoundTrip
import HardwareWatch.Proofs.Table.Joining
import HardwareWatch.Proofs.Table.Merging
import HardwareWatch.Proofs.Telemetry.ById
import HardwareWatch.Proofs.Sources.Merged
import HardwareWatch.Proofs.Sources.Templates
import HardwareWatch.Proofs.Operators.Trails
import HardwareWatch.Proofs.Sources.PerRow
import HardwareWatch.Proofs.Operators.Records
import HardwareWatch.Proofs.Operators.Inverses
import HardwareWatch.Proofs.Operators.Hexadecimal
import HardwareWatch.Proofs.Operators.Bits
import HardwareWatch.Proofs.Xml.Attributes
import HardwareWatch.Proofs.Placeholder.Expansion
import HardwareWatch.Proofs.Placeholder.Escaping
import HardwareWatch.Proofs.Json.Bodies
import HardwareWatch.Proofs.Operators.ObjectPaths
import HardwareWatch.Proofs.Placeholder.ShellText
import HardwareWatch.Proofs.Placeholder.Pieces
import HardwareWatch.Proofs.Detect.Versions
import HardwareWatch.Proofs.Operators.Columns
import HardwareWatch.Proofs.Sources.Chains
import HardwareWatch.Proofs.Connector.Usable
import HardwareWatch.Proofs.Activity.Seen
import HardwareWatch.Proofs.Visit.CollectionStates
import HardwareWatch.Proofs.Activity.Looks
import HardwareWatch.Proofs.Visit.ProbeCourses
import HardwareWatch.Proofs.Visit.CriteriaInOrder
