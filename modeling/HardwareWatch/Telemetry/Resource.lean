import HardwareWatch.NameMap
import HardwareWatch.Settings.Host
import HardwareWatch.Table.Basic
import HardwareWatch.Telemetry.Monitor

/-!
# Resources

A resource is all that is known about one host: its monitors by type and key, and the tables of each
connector in this cycle and in the one before. The key of a monitor is its id, with the connector
that discovered it in front.

* `Resource.upsert` changes a monitor, which is made where it is missing.
* `Resource.monitor?` finds a monitor by its id, whichever connector discovered it.
* `Resource.markStale` marks the monitors that a discovery did not find.
* `Resource.rotateTables` makes the tables of this cycle those of the one before.
* `Telemetry` is the resources by host.
-/

namespace HardwareWatch

/-- The key of a monitor within its type. -/
def monitorKey (connector : Option String) (id : String) : String :=
  match connector with
  | some c => c ++ "_" ++ id
  | none => id

/-- The type of the monitor that stands for the host. -/
def hostMonitorType : String := "host"

/-- The type of the monitors that hold the results of detection. -/
def connectorMonitorType : String := "connector"

/-- Everything known about one host. -/
structure Resource where
  hostname : String
  kind : DeviceKind
  /-- The monitors by type and key. -/
  monitors : NameMap (NameMap Monitor)
  /-- The tables of the current cycle by connector. -/
  tables : NameMap Namespace
  /-- The tables of the cycle before by connector. -/
  previousTables : NameMap Namespace
  /-- The connectors that passed the last full detection. -/
  detected : Option NameSet

namespace Resource

/-- A host of which nothing is known yet. -/
def named (hostname : String) (kind : DeviceKind) : Resource :=
  ⟨hostname, kind, .empty, .empty, .empty, none⟩

/-- The monitors of a type by key. -/
def monitorsOf (r : Resource) (type : String) : NameMap Monitor :=
  (r.monitors.get? type).getD .empty

/-- The monitor with a key. -/
def at? (r : Resource) (type key : String) : Option Monitor := (r.monitorsOf type).get? key

/-- The resource with a monitor under a key. -/
def put (r : Resource) (type key : String) (m : Monitor) : Resource :=
  { r with monitors := r.monitors.insert type ((r.monitorsOf type).insert key m) }

/-- The monitor under the key of a connector and an id, or else a new one. -/
def found (r : Resource) (connector : Option String) (type id : String) : Monitor :=
  (r.at? type (monitorKey connector id)).getD (.named id type connector)

/-- Change the monitor under the key of a connector and an id, which is made where it is missing. -/
def upsert (r : Resource) (connector : Option String) (type id : String)
    (f : Monitor → Monitor) : Resource :=
  r.put type (monitorKey connector id) (f (r.found connector type id))

/-- The monitor with an id: the one whose key it is, or else the first one that has it. -/
def monitor? (r : Resource) (type id : String) : Option Monitor :=
  (r.at? type id).orElse fun _ => (r.monitorsOf type).values.find? (·.id = id)

/-- The monitor of a connector. -/
def connectorMonitor? (r : Resource) (connector type id : String) : Option Monitor :=
  r.at? type (monitorKey (some connector) id)

/-- The number of monitors. -/
def monitorCount (r : Resource) : Nat := (r.monitors.values.map NameMap.size).foldl (· + ·) 0

/-- Make a monitor stand for the host. -/
def asEndpoint (hostname : String) (m : Monitor) : Monitor :=
  { m with
    isEndpoint := true
    attributes :=
      if m.attributes.contains "host.name" then m.attributes
      else m.attributes.insert "host.name" hostname }

/-- Change the monitor that stands for the host. -/
def updateEndpoint (r : Resource) (f : Monitor → Monitor) : Resource :=
  r.upsert none hostMonitorType r.hostname fun m => f (asEndpoint r.hostname m)

/-- The tables of a connector in the current cycle. -/
def tablesOf (r : Resource) (connector : String) : Namespace :=
  (r.tables.get? connector).getD .empty

/-- The tables of a connector in the cycle before. -/
def previousTablesOf (r : Resource) (connector : String) : Namespace :=
  (r.previousTables.get? connector).getD .empty

/-- Make the tables of a connector those of the cycle before. -/
def rotateTables (r : Resource) (connector : String) : Resource :=
  { r with
    tables := r.tables.erase connector
    previousTables := r.previousTables.insert connector (r.tablesOf connector) }

/-- Whether a discovery of a connector that found the ids missed the monitor. -/
def isMissed (connector : String) (ids : NameSet) (m : Monitor) : Bool :=
  m.connector == some connector && !ids.has m.id

/-- Mark the monitors of a connector and a type that a discovery missed. -/
def markStale (r : Resource) (connector type : String) (ids : NameSet) : Resource :=
  { r with monitors := r.monitors.modify type (·.mapEntries fun _ m =>
      if isMissed connector ids m then { m with isStale := true } else m) }

/-- The number of monitors that become stale. -/
def countNewlyStale (r : Resource) (connector type : String) (ids : NameSet) : Nat :=
  (r.monitorsOf type).values.countP fun m => isMissed connector ids m && !m.isStale

end Resource

/-- The resources by host. -/
abbrev Telemetry := NameMap Resource

namespace Telemetry

/-- The resource of a host, or else a new one. -/
def resource (t : Telemetry) (hostname : String) (kind : DeviceKind) : Resource :=
  (t.get? hostname).getD (.named hostname kind)

/-- The resources with that of a host, which is made where it is missing. -/
def ensure (t : Telemetry) (hostname : String) (kind : DeviceKind) : Telemetry :=
  t.insert hostname (t.resource hostname kind)

end Telemetry

end HardwareWatch
