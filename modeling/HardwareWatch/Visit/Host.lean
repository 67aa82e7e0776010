import HardwareWatch.Connector.Staging
import HardwareWatch.Activity.Run
import HardwareWatch.Visit.Detection
import HardwareWatch.Visit.Jobs

/-!
# A visit to a host

The protocols of the host are checked, the connectors are staged and detected, and those that are
selected are run one after the other. The detection of an earlier visit can be used again.

* `selectDetected` says which of the staged connectors are run after a detection.
* `Visit.run` is the visit, with its report as the result.
-/

namespace HardwareWatch

/-- The name of the metric for whether a protocol works. -/
def hostUpMetric (extension : String) : String :=
  "hwsentry.host.up\x7bprotocol=\"" ++ extension ++ "\"\x7d"

/-- The name of the metric for the detection of a connector. -/
def connectorStatusMetric : String := "hw.connector.status"

/-- The states of the detection of a connector. -/
def connectorStatuses : List String := ["ok", "failed"]

namespace StagedConnector

/-- The report of a connector that was not run. -/
def skippedReport (s : StagedConnector) (detection : Option DetectionResult) : ConnectorReport :=
  ⟨s.connector.id, s.forced, detection, .skipped, .skipped⟩

end StagedConnector

/-- Write the result of a detection onto the monitor of the connector. -/
def recordDetection (time : Instant) (c : Connector) (result : DetectionResult) (r : Resource) :
    Resource :=
  r.upsert none connectorMonitorType c.id fun m =>
    let m := { m with
      connector := some c.id
      attributes := m.attributes.insertAll [("id", c.id), ("name", c.displayName.getD c.id)]
      discovered := some time
      isStale := false }
    let m := m.setState connectorStatusMetric (if result.isSuccess then "ok" else "failed")
      connectorStatuses time
    { m with
      legacyTextParameters := m.legacyTextParameters.insert "StatusInformation" result.message }

/-- The connectors that passed: those whose detection is a success, and those that are forced. -/
def passedDetection (results : List (StagedConnector × DetectionResult)) : List StagedConnector :=
  (results.filter fun (s, result) => result.isSuccess || s.forced).map Prod.fst

/-- The ids that connectors take the place of, in lower case. -/
def supersededIds (passed : List StagedConnector) : List String :=
  passed.flatMap fun s => s.connector.detection.supersedes.map Text.lowercase

/-- The connectors to run after a detection: of those that passed, the ones that are forced and the
ones that no other takes the place of. -/
def selectDetected (results : List (StagedConnector × DetectionResult)) : List StagedConnector :=
  let passed := passedDetection results
  passed.filter fun s => s.forced || !(supersededIds passed).contains (Text.lowercase s.connector.id)

namespace Visit

/-- The probe for whether a protocol works. -/
def healthRequest (v : Visit) (e : Extension) : Request :=
  v.request e (v.host.timeoutFor none) .health

/-- Check a protocol and write down whether it works. -/
def checkProtocol (v : Visit) (e : Extension) : Activity Unit := do
  let answer ← v.probe (e.id ++ " health check") false (v.healthRequest e)
  let isUp : Bool := answer.toOption.getD false
  Activity.modify (·.updateEndpoint (·.setNumber (hostUpMetric e.id) (if isUp then 1 else 0) v.time))

/-- Check the protocols of the host. -/
def checkProtocols (v : Visit) : Activity Unit :=
  (v.registry.extensions.filter (·.supports v.host)).forM v.checkProtocol

/-- Use the detection of an earlier visit: the connectors to run, and the reports. -/
def reuseDetection (staged : List StagedConnector) (detected : NameSet) :
    List StagedConnector × List ConnectorReport :=
  (staged.filter fun s => s.forced || detected.has s.connector.id,
    staged.map (·.skippedReport none))

/-- Detect the staged connectors: the connectors to run, and the reports. The selection is kept for
later visits if every criterion could be evaluated. -/
def freshDetection (v : Visit) (staged : List StagedConnector) :
    Activity (List StagedConnector × List ConnectorReport) := do
  let results ← Activity.all (staged.map fun s => v.detection s.connector)
  let results := staged.zip results
  Activity.modify fun r =>
    results.foldl (fun r (s, result) => recordDetection v.time s.connector result r) r
  let selected := selectDetected results
  let cancelled ← Activity.cancelled
  if !cancelled && !results.any (·.2.hasErrors) then
    Activity.modify fun r =>
      { r with detected := some (.ofNames (selected.map (·.connector.id))) }
  return (selected, results.map fun (s, result) => s.skippedReport (some result))

/-- Detect the staged connectors, or use the detection of an earlier visit. -/
def detect (v : Visit) (staged : List StagedConnector) :
    Activity (List StagedConnector × List ConnectorReport) := do
  let detected ← Activity.read (·.detected)
  match detected.filter fun _ => !v.engine.validateDetectionEachCycle with
  | some detected => return reuseDetection staged detected
  | none => v.freshDetection staged

/-- Run a connector and add its states to the reports, unless the run was cancelled. -/
def runSelected (v : Visit) (reports : List ConnectorReport) (s : StagedConnector) :
    Activity (List ConnectorReport) := do
  if ← Activity.cancelled then return reports
  else
    let (discovery, collection) ← v.runConnector s.connector
    return reports.map fun report =>
      if report.connectorId = s.connector.id then { report with discovery, collection } else report

/-- Visit the host. -/
def run (v : Visit) (store : ConnectorStore) : Activity HostReport := do
  v.checkProtocols
  let (selected, reports) ← v.detect (stage store v.host)
  let reports ← selected.foldlM v.runSelected reports
  return ⟨v.host.hostname, v.time, reports, ← Activity.cancelled⟩

end Visit

end HardwareWatch
