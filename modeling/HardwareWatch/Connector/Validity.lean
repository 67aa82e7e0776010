import HardwareWatch.Connector.Document
import HardwareWatch.Error
import HardwareWatch.Json.Reader

/-!
# Valid connectors

A connector is usable if it has the one known format version, an id that is not blank, no source key
twice, and at least one key for every monitor job. Sources and criteria are numbered where they
stand.

* `Connector.fault?` is the first thing that makes a connector unusable.
* `Connector.decode` reads the document of a usable connector.
-/

namespace HardwareWatch

/-- What makes a connector unusable. -/
inductive ConnectorFault
  | unknownVersion (id : String) (version : Nat)
  | blankId
  | repeatedKey (id key : String)
  | noKeys (id type : String)
  deriving DecidableEq

namespace Connector

/-- The format version that is known. -/
def knownVersion : Nat := 1

end Connector

namespace ConnectorFault

/-- What is said about a fault. -/
def text : ConnectorFault → String
  | unknownVersion id version =>
    id ++ ": unsupported format version " ++ toString version ++ " (expected "
      ++ toString Connector.knownVersion ++ ")"
  | blankId => "connector id must not be empty"
  | repeatedKey id key => id ++ ": duplicate source key " ++ key
  | noKeys id type => id ++ ": monitor job " ++ type ++ " declares no identifying keys"

end ConnectorFault

/-- The first name that also stands further in front. -/
def firstRepeated? : (seen : List String) → List String → Option String
  | _, [] => none
  | seen, name :: rest => if name ∈ seen then some name else firstRepeated? (name :: seen) rest

/-- The sources, numbered from zero. -/
def numberSources (sources : List Source) : List Source :=
  sources.mapIdx fun i s => { s with position := i }

namespace JobTasks

/-- The tasks with their sources numbered. -/
def numbered : JobTasks → JobTasks
  | standard discovery collect =>
    .standard { discovery with sources := numberSources discovery.sources }
      (collect.map fun c => { c with task.sources := numberSources c.task.sources })
  | simple task => .simple { task with sources := numberSources task.sources }

end JobTasks

namespace Connector

/-- The connector with its criteria and the sources of every task numbered. -/
def numbered (c : Connector) : Connector :=
  { c with
    detection.criteria := c.detection.criteria.mapIdx fun i k => { k with position := i }
    pre := numberSources c.pre
    monitors := c.monitors.mapEntries fun _ job => { job with tasks := job.tasks.numbered } }

/-- The first thing that makes the connector unusable. -/
def fault? (c : Connector) : Option ConnectorFault :=
  if c.formatVersion ≠ knownVersion then some (.unknownVersion c.id c.formatVersion)
  else if Text.isBlank c.id then some .blankId
  else
    match firstRepeated? [] (c.allSources.map Source.key) with
    | some key => some (.repeatedKey c.id key)
    | none =>
      (c.monitors.toList.find? fun (_, job) => job.keys.isEmpty).map fun (type, _) =>
        .noKeys c.id type

/-- Read the document of a usable connector. -/
def decode (document : String) : Except EngineError Connector :=
  match (Json.read? document).bind ofJson? with
  | none => .error ⟨.json, "no connector document"⟩
  | some c =>
    match c.fault? with
    | some fault => .error ⟨.connector, fault.text⟩
    | none => .ok c.numbered

end Connector

end HardwareWatch
