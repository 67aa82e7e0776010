import HardwareWatch.Detect.Result
import HardwareWatch.Json.Shape
import HardwareWatch.Settings.Host
import HardwareWatch.Telemetry.Instant

/-!
# Reports

What became of the connectors of a host in one visit.

* `PhaseState` is what became of a job or of all jobs of a phase, `PhaseState.ofJobs` the latter from
  the former.
* `HostReport` is the report of a visit, with a `ConnectorReport` for every staged connector.
* `HostReport.toJson` is its document.
-/

namespace HardwareWatch

/-- What became of a job, or of all jobs of a phase. -/
inductive PhaseState
  | succeeded
  /-- There was nothing to do. -/
  | skipped
  | failed
  deriving DecidableEq, Repr

namespace PhaseState

/-- The state of a phase by those of its jobs. -/
def ofJobs (states : List PhaseState) : PhaseState :=
  if states.isEmpty then skipped
  else if states.contains failed then failed
  else succeeded

/-- The name of a state. -/
def name : PhaseState → String
  | succeeded => "Succeeded"
  | skipped => "Skipped"
  | failed => "Failed"

end PhaseState

/-- What became of a connector. -/
structure ConnectorReport where
  connectorId : String
  forced : Bool
  /-- The result of its detection, unless that of an earlier visit was used. -/
  detection : Option DetectionResult
  discovery : PhaseState
  collection : PhaseState
  deriving DecidableEq

/-- What became of a host. -/
structure HostReport where
  hostname : String
  time : Instant
  connectors : List ConnectorReport
  cancelled : Bool
  deriving DecidableEq

/-- The document of the result of a criterion. -/
def CriterionResult.toJson (r : CriterionResult) : Json :=
  .object [("outcome", .text r.outcome.name), ("message", .text r.message),
    ("result", Json.ofText? r.answer)]

/-- The document of the result of a detection. -/
def DetectionResult.toJson (r : DetectionResult) : Json :=
  .object [("connector_id", .text r.connectorId),
    ("results", .array (r.results.map CriterionResult.toJson))]

/-- The document of what became of a connector. -/
def ConnectorReport.toJson (r : ConnectorReport) : Json :=
  .object [("connector_id", .text r.connectorId), ("forced", .bool r.forced),
    ("detection", Json.ofOption DetectionResult.toJson r.detection),
    ("discovery", .text r.discovery.name), ("collection", .text r.collection.name)]

namespace HostReport

/-- What became of a connector with an id. -/
def connector? (r : HostReport) (id : String) : Option ConnectorReport :=
  r.connectors.find? (·.connectorId = id)

/-- The document of a report. -/
def toJson (r : HostReport) : Json :=
  .object [("hostname", .text r.hostname), ("strategy_time", .text r.time.text),
    ("connectors", .array (r.connectors.map ConnectorReport.toJson)),
    ("cancelled", .bool r.cancelled)]

end HostReport

end HardwareWatch
