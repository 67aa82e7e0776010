import HardwareWatch.Json.Shape

/-!
# Settings of the engine

Limits and intervals that hold for all hosts. Every setting has a default.

* `EngineSettings.ofJson?` reads settings, `EngineSettings.toJson` writes them with every setting.
-/

namespace HardwareWatch

open Json FieldReader

/-- The settings of the engine. -/
structure EngineSettings where
  /-- How many hosts may be visited at the same time. -/
  maxWorkers : Nat
  cycleIntervalSecs : Nat
  /-- How long a probe may wait for the turn that only one may have on a host. -/
  serializationTimeoutSecs : Nat
  jobTimeoutSecs : Nat
  validateDetectionEachCycle : Bool
  engineVersion : String
  deriving DecidableEq

namespace EngineSettings

/-- The settings where none are given. -/
def standard : EngineSettings := ⟨20, 120, 60, 300, true, "0.1.0"⟩

/-- Read settings. -/
def ofJson? : Json → Option EngineSettings := Json.record? do
  let maxWorkers ← withDefault "max_workers" standard.maxWorkers (nat? word64)
  let cycleIntervalSecs ←
    withDefault "cycle_interval_secs" standard.cycleIntervalSecs (nat? word64)
  let serializationTimeoutSecs ←
    withDefault "serialization_timeout_secs" standard.serializationTimeoutSecs (nat? word64)
  let jobTimeoutSecs ← withDefault "job_timeout_secs" standard.jobTimeoutSecs (nat? word64)
  let validateDetectionEachCycle ←
    withDefault "validate_detection_each_cycle" standard.validateDetectionEachCycle bool?
  let engineVersion ← withDefault "engine_version" standard.engineVersion text?
  return ⟨maxWorkers, cycleIntervalSecs, serializationTimeoutSecs, jobTimeoutSecs,
    validateDetectionEachCycle, engineVersion⟩

/-- The document of the settings. -/
def toJson (e : EngineSettings) : Json :=
  .object [("max_workers", ofNat e.maxWorkers), ("cycle_interval_secs", ofNat e.cycleIntervalSecs),
    ("serialization_timeout_secs", ofNat e.serializationTimeoutSecs),
    ("job_timeout_secs", ofNat e.jobTimeoutSecs),
    ("validate_detection_each_cycle", .bool e.validateDetectionEachCycle),
    ("engine_version", .text e.engineVersion)]

end EngineSettings

end HardwareWatch
