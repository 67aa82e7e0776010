import HardwareWatch.Mapping.Directive
import HardwareWatch.Telemetry.Record

/-!
# Rows onto monitors

The rows of a table are applied to a resource one by one. Each row is read against the resource as
the rows before it left it.

* `JobContext.discover` makes or renews a monitor for every row.
* `JobContext.collect` updates the monitors whose keys the rows have.
* `JobContext.collectOne` updates one monitor by the first row.
-/

namespace HardwareWatch

/-- The monitor job that rows are applied for. -/
structure JobContext where
  connector : Connector
  /-- The type of the monitors. -/
  type : String
  /-- The attributes that form the identity of a monitor. -/
  keys : List String
  time : Instant

namespace JobContext

/-- The value of a key attribute, blanks around it dropped. A blank one counts as missing. -/
def keyValue? (attributes : NameMap String) (key : String) : Option String :=
  ((attributes.get? key).map Text.trim).filter (· ≠ "")

/-- The id of the monitor with the attributes. -/
def monitorId? (job : JobContext) (attributes : NameMap String) : Option String :=
  (job.keys.mapM (keyValue? attributes)).map (Text.join "_")

/-- Whether two maps of attributes have a key in common. -/
def sameKey (a b : NameMap String) (key : String) : Bool :=
  match a.get? key, b.get? key with
  | some x, some y => Text.trim x == Text.trim y
  | _, _ => false

/-- Whether the monitor was discovered by the connector and has the keys of the attributes. -/
def isMatch (job : JobContext) (attributes : NameMap String) (m : Monitor) : Bool :=
  m.connector == some job.connector.id && job.keys.all (sameKey m.attributes attributes)

/-- The key of the first monitor of the job with the keys of the attributes. -/
def existing? (job : JobContext) (r : Resource) (attributes : NameMap String) : Option String :=
  ((r.monitorsOf job.type).toList.find? fun (_, m) => job.isMatch attributes m).map Prod.fst

/-- Writes metrics as the connector declares them. -/
def recorder (job : JobContext) : MetricRecorder := ⟨job.connector.metrics, job.time⟩

/-- Write the value of a metric. -/
def writeMetric (job : JobContext) (m : Monitor) (name : String) (value : MetricValue) : Monitor :=
  match value with
  | .plain text => (job.recorder.record m name text).1
  | .rate text => (job.recorder.recordRate m name text).1
  | .counter text => (job.recorder.recordCounter m name text).1

/-- Write the legacy parameters and the metrics of a row. -/
def writeValues (job : JobContext) (row : InterpretedRow) (m : Monitor) : Monitor :=
  let m := { m with
    legacyTextParameters := m.legacyTextParameters.insertAll row.legacyTextParameters.toList }
  row.metrics.toList.foldl (fun m (name, value) => job.writeMetric m name value) m

/-- Renew a monitor that was discovered. -/
def renew (job : JobContext) (attributes : NameMap String) (m : Monitor) : Monitor :=
  { m.addAttributes attributes with discovered := some job.time, isStale := false }

/-- The rows with their numbers, counted from one. -/
def numbered (rows : List Row) : List (Nat × Row) := rows.mapIdx fun i row => (i + 1, row)

/-- Make or renew the monitor with the keys of the attributes. -/
def createOrRenew (job : JobContext) (r : Resource) (attributes : NameMap String) :
    Option (Resource × String) :=
  (job.monitorId? attributes).map fun id =>
    (r.upsert (some job.connector.id) job.type id (job.renew attributes),
      monitorKey (some job.connector.id) id)

/-- Change the monitor under a key. -/
def update (job : JobContext) (r : Resource) (key : String) (f : Monitor → Monitor) : Resource :=
  match r.at? job.type key with
  | some m => r.put job.type key (f m)
  | none => r

/-- Discover the monitor of a row: the resource, and the ids that were found so far. -/
def discoverRow (job : JobContext) (mapping : Mapping) (state : Resource × NameSet)
    (row : Nat × Row) : Resource × NameSet :=
  let (r, ids) := state
  let values := mapping.interpret ⟨row.2, row.1, r⟩
  match job.createOrRenew r values.attributes with
  | none => (r, ids)
  | some (r, key) =>
    let id := ((r.at? job.type key).map (·.id)).getD ""
    (job.update r key (job.writeValues values), ids.add id)

/-- Make or renew a monitor for every row that has the keys. Gives the ids of the monitors too. -/
def discover (job : JobContext) (mapping : Mapping) (rows : List Row) (r : Resource) :
    Resource × NameSet :=
  (numbered rows).foldl (job.discoverRow mapping) (r, .empty)

/-- Update the monitor that a row is about: the resource, and the number of updates so far. -/
def collectRow (job : JobContext) (mapping : Mapping) (state : Resource × Nat)
    (row : Nat × Row) : Resource × Nat :=
  let (r, count) := state
  let values := mapping.interpret ⟨row.2, row.1, r⟩
  match job.existing? r values.attributes with
  | none => (r, count)
  | some key => (job.update r key (job.writeValues values), count + 1)

/-- Update the monitors whose keys the rows have. Gives the number of rows that had one too. -/
def collect (job : JobContext) (mapping : Mapping) (rows : List Row) (r : Resource) :
    Resource × Nat :=
  (numbered rows).foldl (job.collectRow mapping) (r, 0)

/-- Update the monitor with an id by the first row. Gives whether there was one too. -/
def collectOne (job : JobContext) (mapping : Mapping) (rows : List Row) (id : String)
    (r : Resource) : Resource × Bool :=
  match rows with
  | [] => (r, false)
  | row :: _ =>
    let values := mapping.interpret ⟨row, 1, r⟩
    let key := monitorKey (some job.connector.id) id
    (job.update r key (job.writeValues values), (r.at? job.type key).isSome)

end JobContext

end HardwareWatch
