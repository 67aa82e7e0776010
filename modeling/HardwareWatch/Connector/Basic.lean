import HardwareWatch.Connector.Criterion
import HardwareWatch.Connector.SourceDocument
import HardwareWatch.Text.Lowercase

/-!
# Connectors

A connector says how one kind of hardware or software is watched: the criteria by which it is
detected, the sources that read its data, and the mappings that turn rows of data into monitors.

* `Connector` is a connector; `Connector.allSources` are its sources in order of declaration.
* `MonitorJob` gets the monitors of one type; `Mapping` projects rows onto monitors.
* `Connector.metricDefinition?` is what is declared about a metric.
-/

namespace HardwareWatch

/-- How a connector is detected. -/
structure Detection where
  /-- The kinds of hosts it applies to. -/
  appliesTo : List DeviceKind
  /-- Whether it only runs where it is asked for. -/
  disableAutoDetection : Bool
  /-- The connectors it takes the place of. -/
  supersedes : List String
  criteria : List Criterion
  deriving DecidableEq

/-- How rows become monitors. Every value is a directive. -/
structure Mapping where
  source : String
  attributes : NameMap String
  metrics : NameMap String
  legacyTextParameters : NameMap String
  deriving DecidableEq

/-- Sources and the mapping of their tables. -/
structure Task where
  sources : List Source
  mapping : Option Mapping
  deriving DecidableEq

/-- How monitors are collected. -/
inductive CollectMode
  /-- All at once, a row for each. -/
  | multiInstance
  /-- One by one. -/
  | monoInstance
  deriving DecidableEq, Repr

/-- The task that collects monitors that are known. -/
structure CollectTask where
  mode : CollectMode
  task : Task
  deriving DecidableEq

/-- The tasks of a job. -/
inductive JobTasks
  /-- Monitors are discovered, and then collected where there is something to collect. -/
  | standard (discovery : Task) (collect : Option CollectTask)
  /-- Both at once. -/
  | simple (task : Task)
  deriving DecidableEq

/-- The job for the monitors of one type. -/
structure MonitorJob where
  /-- The attributes that form the identity of a monitor. -/
  keys : List String
  tasks : JobTasks
  deriving DecidableEq

/-- What kind of value a metric has. -/
inductive MetricType
  | gauge
  | counter
  | stateSet (states : List String)
  deriving DecidableEq

/-- What is declared about a metric. -/
structure MetricDefinition where
  unit : Option String
  description : Option String
  type : MetricType
  deriving DecidableEq

/-- A connector. -/
structure Connector where
  formatVersion : Nat
  id : String
  displayName : Option String
  version : Option String
  tags : List String
  detection : Detection
  translations : NameMap Translation
  metrics : NameMap MetricDefinition
  /-- The sources that run before all jobs. -/
  pre : List Source
  /-- The jobs by the type of their monitors. -/
  monitors : NameMap MonitorJob
  deriving DecidableEq

/-- The sources of all tasks. -/
def JobTasks.sources : JobTasks → List Source
  | standard discovery collect =>
    discovery.sources ++ (collect.map fun c => c.task.sources).getD []
  | simple task => task.sources

/-- A metric name without the attributes in braces behind it. -/
def metricBaseName (name : String) : String :=
  .ofList (Chars.trim (name.toList.takeWhile (· != '\x7b')))

namespace Connector

/-- All sources in order of declaration: those before the jobs, then job by job. -/
def allSources (c : Connector) : List Source :=
  c.pre ++ c.monitors.values.flatMap fun job => job.tasks.sources

/-- Whether the connector has a tag, in whatever case. -/
def hasTag (c : Connector) (tag : String) : Bool := c.tags.any (Text.sameIgnoringCase · tag)

/-- What is declared about a metric. -/
def metricDefinition? (c : Connector) (name : String) : Option MetricDefinition :=
  c.metrics.get? (metricBaseName name)

end Connector

end HardwareWatch
