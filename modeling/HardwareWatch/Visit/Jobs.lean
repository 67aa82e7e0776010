import HardwareWatch.Mapping.Apply
import HardwareWatch.Visit.Report
import HardwareWatch.Visit.Sources

/-!
# The jobs of a connector

A connector is run in two phases. Discovery runs the sources of every job and makes monitors of the
rows; collection updates the monitors that are known. The jobs of a phase run at the same time, but
those for the most important types come first, one after the other.

* `SourceRun.discoverJob` and `SourceRun.collectJob` run one job.
* `Visit.runConnector` runs a connector.
-/

namespace HardwareWatch

/-- The types whose jobs come first, in this order. -/
def leadingMonitorTypes : List String := ["host", "enclosure", "blade", "disk_controller", "cpu"]

namespace Connector

/-- The jobs that come first. -/
def leadingJobs (c : Connector) : List (String × MonitorJob) :=
  leadingMonitorTypes.filterMap fun type => (c.monitors.get? type).map fun job => (type, job)

/-- The other jobs. -/
def otherJobs (c : Connector) : List (String × MonitorJob) :=
  c.monitors.toList.filter fun (type, _) => !leadingMonitorTypes.contains type

end Connector

/-- The name of the metric for how long a job took. -/
def jobDurationMetric (phase type connectorId : String) : String :=
  "hwsentry.job.duration\x7bjob.type=\"" ++ phase ++ "\", monitor.type=\"" ++ type
    ++ "\", connector_id=\"" ++ connectorId ++ "\"\x7d"

/-- The rows that a mapping is applied to. -/
def Mapping.rows (m : Mapping) (tables : Namespace) : List Row :=
  ((Table.lookup m.source tables).map (·.rows)).getD []

/-- Whether the table of a mapping is missing: its source failed, or there is no such table. -/
def Mapping.isMissing (m : Mapping) (failed : String → Bool) (tables : Namespace) : Bool :=
  (Reference.key? m.source).any failed || (Table.lookup m.source tables).isNone

namespace SourceRun

/-- The milliseconds that a job may take. -/
def jobLimitMs (x : SourceRun) : Nat := Visit.msOfSecs x.visit.engine.jobTimeoutSecs

/-- What rows are applied for in a job. -/
def jobContext (x : SourceRun) (type : String) (job : MonitorJob) : JobContext :=
  ⟨x.connector, type, job.keys, x.visit.time⟩

/-- Note how long a job took that started at a time. -/
def recordDuration (x : SourceRun) (phase type : String) (started : Nat) : Activity Unit := do
  let finished ← Activity.clock
  Activity.modify (·.updateEndpoint (·.setNumber (jobDurationMetric phase type x.connector.id)
    (Float.ofNat (finished - started) / 1000) x.visit.time))

/-- Run the jobs, the leading ones first and one after the other, the others so too if the host wants
that, or else at the same time. -/
def overJobs {β : Type} (x : SourceRun) (run : String → MonitorJob → Activity β) :
    Activity (List β) := do
  let first ← x.connector.leadingJobs.mapM fun (type, job) => run type job
  let others ←
    if x.visit.host.sequential then x.connector.otherJobs.mapM fun (type, job) => run type job
    else Activity.all (x.connector.otherJobs.map fun (type, job) => run type job)
  return first ++ others

/-! ## Discovery -/

/-- The task by which monitors are discovered. -/
def discoveryTask : JobTasks → Task
  | .standard discovery _ => discovery
  | .simple task => task

/-- Make monitors of the rows of a mapping. Gives the ids, or nothing if the table is missing. -/
def discoverMonitors (x : SourceRun) (type : String) (job : MonitorJob) (mapping : Mapping)
    (failed : String → Bool) (tables : Namespace) : Activity (Option NameSet) := do
  if mapping.isMissing failed tables then return none
  else
    let ids ← Activity.work fun r =>
      ((x.jobContext type job).discover mapping (mapping.rows tables) r).swap
    return some ids

/-- Mark the monitors that a discovery missed. -/
def settleDiscovery (x : SourceRun) (type : String) (found : Option NameSet) :
    Activity PhaseState := do
  match found with
  | none => return .failed
  | some ids =>
    if ← Activity.cancelled then return .failed
    else
      Activity.modify (·.markStale x.connector.id type ids)
      return .succeeded

/-- What becomes of a discovery whose sources were run. Without a mapping there is nothing to
discover. -/
def concludeDiscovery (x : SourceRun) (preFailed : NameSet) (type : String) (job : MonitorJob)
    (h : Harvest) : Activity PhaseState := do
  match (discoveryTask job.tasks).mapping with
  | none => return if ← Activity.cancelled then .failed else .succeeded
  | some mapping =>
    let found ← x.discoverMonitors type job mapping (fun key => h.failed.has key || preFailed.has key)
      h.tables
    x.settleDiscovery type found

/-- Discover the monitors of a job, given the tables that there are and the sources that failed
before. Gives the tables that there are afterwards too, also if the job took too long. -/
def discoverJob (x : SourceRun) (base : Harvest) (type : String) (job : MonitorJob) :
    Activity (PhaseState × Namespace) := do
  let started ← Activity.clock
  let (h, isComplete) ← x.runSourcesBefore (started + x.jobLimitMs) (discoveryTask job.tasks).sources
    base.tables
  let state ← if isComplete then x.concludeDiscovery base.failed type job h else pure .failed
  x.recordDuration "discovery" type started
  return (state, h.tables)

/-! ## Collection -/

/-- Update all monitors of a job by the rows of its table. -/
def collectAll (x : SourceRun) (tables : Namespace) (type : String) (job : MonitorJob) (task : Task)
    (mapping : Mapping) : Activity Unit := do
  let h ← x.runSources none task.sources tables
  Activity.modify fun r => ((x.jobContext type job).collect mapping (mapping.rows h.tables) r).1

/-- Update one monitor, unless the run was cancelled. -/
def collectMonitor (x : SourceRun) (tables : Namespace) (type : String) (job : MonitorJob)
    (task : Task) (mapping : Mapping) (m : Monitor) : Activity Unit := do
  if ← Activity.cancelled then return ()
  else
    let h ← x.runSources (some m.attributes) task.sources tables
    Activity.modify fun r =>
      ((x.jobContext type job).collectOne mapping (mapping.rows h.tables) m.id r).1

/-- The monitors of a type that the connector discovered and that are not stale. -/
def activeMonitors (x : SourceRun) (type : String) (r : Resource) : List Monitor :=
  (r.monitorsOf type).values.filter fun m => m.connector == some x.connector.id && !m.isStale

/-- Update monitors one after the other. -/
def collectEach (x : SourceRun) (tables : Namespace) (type : String) (job : MonitorJob)
    (task : Task) (mapping : Mapping) : Activity Unit := do
  let monitors ← Activity.read (x.activeMonitors type)
  monitors.forM (x.collectMonitor tables type job task mapping)

/-- Collect the monitors of a job, given the tables that there are. Without a mapping there is
nothing to collect. -/
def collectJob (x : SourceRun) (tables : Namespace) (type : String) (job : MonitorJob)
    (collect : CollectTask) : Activity PhaseState := do
  let started ← Activity.clock
  match collect.task.mapping with
  | none => return .skipped
  | some mapping =>
    let run := match collect.mode with
      | .multiInstance => x.collectAll
      | .monoInstance => x.collectEach
    let ran ← Activity.before (started + x.jobLimitMs) (run tables type job collect.task mapping)
    let cancelled ← Activity.cancelled
    x.recordDuration "collect" type started
    return if cancelled || ran.isNone then .failed else .succeeded

/-- Collect the monitors of a job that has something to collect. -/
def collectIfAny (x : SourceRun) (tables : Namespace) (type : String) (job : MonitorJob) :
    Activity (Option PhaseState) :=
  match job.tasks with
  | .standard _ (some collect) => return some (← x.collectJob tables type job collect)
  | _ => return none

end SourceRun

/-! ## Connectors -/

/-- The tables with those of further tables whose keys are new. -/
def Namespace.extend (tables more : Namespace) : Namespace :=
  more.toList.foldl (fun tables (key, t) =>
    if tables.contains key then tables else tables.insert key t) tables

/-- Run a connector: the states of discovery and of collection. Its tables are kept for the next
cycle. -/
def Visit.runConnector (v : Visit) (c : Connector) : Activity (PhaseState × PhaseState) := do
  let previous ← Activity.work fun r => (r.tablesOf c.id, r.rotateTables c.id)
  let x : SourceRun := ⟨v, c, previous⟩
  let base ← x.runSources none c.pre .empty
  let discovered ← x.overJobs (x.discoverJob base)
  let tables := (discovered.map Prod.snd).foldl Namespace.extend base.tables
  let collected ← x.overJobs (x.collectIfAny tables)
  Activity.modify fun r => { r with tables := r.tables.insert c.id tables }
  return (.ofJobs (discovered.map Prod.fst), .ofJobs (collected.filterMap id))

end HardwareWatch
