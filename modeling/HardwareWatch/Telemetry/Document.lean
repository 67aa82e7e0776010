import HardwareWatch.Json.Shape
import HardwareWatch.Telemetry.Monitor

/-!
# Monitors in documents

* `Monitor.toJson` writes a monitor with all it has, instants in their written form.
-/

namespace HardwareWatch

open Json

namespace Instant

/-- The document of an instant. -/
def toJson (t : Instant) : Json := .text t.text

end Instant

namespace Metric

/-- The document of a metric. -/
def toJson : Metric → Json
  | number current previous =>
    .object [("kind", .text "number"), ("value", .double current.value),
      ("collect_time", current.time.toJson),
      ("previous_value", ofOption (fun s => .double s.value) previous),
      ("previous_collect_time", ofOption (fun s => s.time.toJson) previous)]
  | state current states previous =>
    .object [("kind", .text "stateSet"), ("value", .text current.value),
      ("state_set", ofTexts states), ("collect_time", current.time.toJson),
      ("previous_value", ofText? previous)]

end Metric

namespace Monitor

/-- The document of a monitor. -/
def toJson (m : Monitor) : Json :=
  .object [("id", .text m.id), ("monitor_type", .text m.type),
    ("connector_id", ofText? m.connector), ("attributes", ofMap .text m.attributes),
    ("metrics", ofMap Metric.toJson m.metrics),
    ("legacy_text_parameters", ofMap .text m.legacyTextParameters),
    ("discovery_time", ofOption Instant.toJson m.discovered), ("is_stale", .bool m.isStale),
    ("is_endpoint", .bool m.isEndpoint)]

end Monitor

end HardwareWatch
