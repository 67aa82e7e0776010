import HardwareWatch.Connector.Basic

/-!
# Connectors in documents

Reading and writing connectors. A monitor job is held back as a whole until its tasks are known,
except for its keys; it is tried with a discovery first and as a simple job then.

* `Connector.ofJson?` reads a connector, `Connector.toJson` writes it with every field.
-/

namespace HardwareWatch

open Json FieldReader

/-- A map of texts. -/
def Json.texts? : Json → Option (NameMap String) := map? text?

namespace Mapping

/-- Read a mapping. -/
def ofJson? : Json → Option Mapping := record? do
  let source ← required "source" text?
  let attributes ← withDefault "attributes" .empty Json.texts?
  let metrics ← withDefault "metrics" .empty Json.texts?
  let legacyTextParameters ← withDefault "legacyTextParameters" .empty Json.texts?
  return ⟨source, attributes, metrics, legacyTextParameters⟩

/-- The document of a mapping. -/
def toJson (m : Mapping) : Json :=
  .object [("source", .text m.source), ("attributes", ofMap .text m.attributes),
    ("metrics", ofMap .text m.metrics),
    ("legacyTextParameters", ofMap .text m.legacyTextParameters)]

end Mapping

namespace Task

/-- The fields of a task. -/
def fields (standing : Standing) : FieldReader Task := do
  let sources ← withDefault "sources" [] (list? (Source.ofJson? standing))
  let mapping ← withDefault "mapping" none (nullable? Mapping.ofJson?)
  return ⟨sources, mapping⟩

/-- Read a task of a job, which is held back. -/
def ofJson? : Json → Option Task := record? (fields .heldBack)

/-- The fields of a task as they are written. -/
def content (t : Task) : List (String × Json) :=
  [("sources", .array (t.sources.map Source.toJson)), ("mapping", ofOption Mapping.toJson t.mapping)]

/-- The document of a task. -/
def toJson (t : Task) : Json := .object t.content

end Task

namespace CollectMode

/-- The words for the modes. -/
def words : List (String × CollectMode) :=
  [("multiInstance", multiInstance), ("monoInstance", monoInstance)]

/-- The word for a mode. -/
def word : CollectMode → String
  | multiInstance => "multiInstance"
  | monoInstance => "monoInstance"

end CollectMode

namespace CollectTask

/-- Read a task that collects. All of it but its mode is held back once more. -/
def ofJson? : Json → Option CollectTask := object? fun fields => do
  let mode ← Record.read?
    (withDefault "type" .multiInstance (Json.word? CollectMode.words false)) (.named fields)
  let rest ← heldBack? ["type"] fields
  (Record.read? (Task.fields .heldTwice) (.named rest)).map fun task => ⟨mode, task⟩

/-- The document of a task that collects. -/
def toJson (c : CollectTask) : Json := .object (("type", .text c.mode.word) :: c.task.content)

end CollectTask

namespace MonitorJob

/-- The tasks of a job that discovers first. -/
def standardFields : FieldReader JobTasks := do
  let discovery ← required "discovery" Task.ofJson?
  let collect ← withDefault "collect" none (nullable? CollectTask.ofJson?)
  return .standard discovery collect

/-- The task of a simple job. -/
def simpleFields : FieldReader JobTasks := do return .simple (← required "simple" Task.ofJson?)

/-- The keys of a job where none are given. -/
def standardKeys : List String := ["id"]

/-- Read a job. -/
def ofJson? : Json → Option MonitorJob := object? fun fields => do
  let keys ← Record.read? (withDefault "keys" standardKeys (list? text?)) (.named fields)
  let rest ← heldBack? ["keys"] fields
  let tasks ← (Record.read? standardFields (.named rest)).orElse fun _ =>
    Record.read? simpleFields (.named rest)
  return ⟨keys, tasks⟩

/-- The document of a job. -/
def toJson (j : MonitorJob) : Json :=
  .object (("keys", ofTexts j.keys) :: match j.tasks with
    | .standard discovery collect =>
      [("discovery", discovery.toJson), ("collect", ofOption CollectTask.toJson collect)]
    | .simple task => [("simple", task.toJson)])

end MonitorJob

namespace MetricType

/-- Read the type of a metric. -/
def ofJson? : Json → Option MetricType
  | .object [("stateSet", v)] => (list? text? v).map .stateSet
  | v => Json.word? [("gauge", gauge), ("counter", counter)] false v

/-- The document of the type of a metric. -/
def toJson : MetricType → Json
  | gauge => .text "gauge"
  | counter => .text "counter"
  | stateSet states => .object [("stateSet", ofTexts states)]

end MetricType

namespace MetricDefinition

/-- Read what is declared about a metric. -/
def ofJson? : Json → Option MetricDefinition := record? do
  let unit ← withDefault "unit" none (nullable? text?)
  let description ← withDefault "description" none (nullable? text?)
  let type ← withDefault "type" .gauge MetricType.ofJson?
  return ⟨unit, description, type⟩

/-- The document of what is declared about a metric. -/
def toJson (d : MetricDefinition) : Json :=
  .object [("unit", ofText? d.unit), ("description", ofText? d.description),
    ("type", d.type.toJson)]

end MetricDefinition

namespace Detection

/-- A connector that says nothing about how it is detected. -/
def unspecified : Detection := ⟨[], false, [], []⟩

/-- Read how a connector is detected. -/
def ofJson? : Json → Option Detection := record? do
  let appliesTo ← withDefault "appliesTo" [] (list? (DeviceKind.ofJson? false))
  let disableAutoDetection ← withDefault "disableAutoDetection" false bool?
  let supersedes ← withDefault "supersedes" [] (list? text?)
  let criteria ← withDefault "criteria" [] (list? Criterion.ofJson?)
  return ⟨appliesTo, disableAutoDetection, supersedes, criteria⟩

/-- The document of how a connector is detected. -/
def toJson (d : Detection) : Json :=
  .object [("appliesTo", .array (d.appliesTo.map DeviceKind.toJson)),
    ("disableAutoDetection", .bool d.disableAutoDetection), ("supersedes", ofTexts d.supersedes),
    ("criteria", .array (d.criteria.map Criterion.toJson))]

end Detection

namespace Connector

/-- Read a connector. -/
def ofJson? : Json → Option Connector := record? do
  let formatVersion ← required "formatVersion" (nat? word32)
  let id ← required "id" text?
  let displayName ← withDefault "displayName" none (nullable? text?)
  let version ← withDefault "version" none (nullable? text?)
  let tags ← withDefault "tags" [] (list? text?)
  let detection ← withDefault "detection" .unspecified Detection.ofJson?
  let translations ← withDefault "translations" .empty (map? Json.texts?)
  let metrics ← withDefault "metrics" .empty (map? MetricDefinition.ofJson?)
  let pre ← withDefault "pre" [] (list? (Source.ofJson? .inText))
  let monitors ← withDefault "monitors" .empty (map? MonitorJob.ofJson?)
  return ⟨formatVersion, id, displayName, version, tags, detection, translations, metrics, pre,
    monitors⟩

/-- The document of a connector. -/
def toJson (c : Connector) : Json :=
  .object [("formatVersion", ofNat c.formatVersion), ("id", .text c.id),
    ("displayName", ofText? c.displayName), ("version", ofText? c.version),
    ("tags", ofTexts c.tags), ("detection", c.detection.toJson),
    ("translations", ofMap (ofMap .text) c.translations),
    ("metrics", ofMap MetricDefinition.toJson c.metrics),
    ("pre", .array (c.pre.map Source.toJson)), ("monitors", ofMap MonitorJob.toJson c.monitors)]

end Connector

end HardwareWatch
