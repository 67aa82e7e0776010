import HardwareWatch.Connector.Basic
import HardwareWatch.Decimal.Text
import HardwareWatch.Telemetry.Monitor

/-!
# Recording metrics

How the text of a value becomes a metric. A metric that is declared as a set of states takes the
names of the states; every other value has to be a number. A rate is the change per second between
two values, and a counter may be integrated from a rate; both keep the value they start from under a
name of their own.

* `MetricRecorder.record`, `MetricRecorder.recordRate` and `MetricRecorder.recordCounter` write a
  value. They give the monitor and whether a value was written under the name.
-/

namespace HardwareWatch

/-- Writes metrics at an instant. -/
structure MetricRecorder where
  definitions : NameMap MetricDefinition
  time : Instant

/-- The name of the value that a rate starts from. -/
def rateBaseline (name : String) : String := "__" ++ name ++ ".rate_from"

/-- The name of the value that an integrated counter starts from. -/
def counterBaseline (name : String) : String := "__" ++ name ++ ".fake_counter_from"

namespace MetricRecorder

/-- The declared states of a metric. -/
def states? (r : MetricRecorder) (name : String) : Option (List String) :=
  match (r.definitions.get? (metricBaseName name)).map MetricDefinition.type with
  | some (.stateSet states) => some states
  | _ => none

/-- Write a number. -/
def recordNumber (r : MetricRecorder) (m : Monitor) (name : String) (value : Option Float) :
    Monitor × Bool :=
  match value with
  | some x => (m.setNumber name x r.time, true)
  | none => (m, false)

/-- Write a state or a number. -/
def record (r : MetricRecorder) (m : Monitor) (name value : String) : Monitor × Bool :=
  let value := Text.trim value
  let states := (r.states? name).getD []
  match states.find? (Text.sameIgnoringCase · value) with
  | some state => (m.setState name state states r.time, true)
  | none => r.recordNumber m name (Text.number? value)

/-- Write a value under the name of a baseline and what follows from it and the value before. The
time between the two must be more than nothing. -/
def recordSince (r : MetricRecorder) (m : Monitor) (baseline name raw : String)
    (value : (last current seconds : Float) → Float) : Monitor × Bool :=
  match Text.number? raw with
  | none => (m, false)
  | some current =>
    let written := m.setNumber baseline current r.time
    match (m.metrics.get? baseline).bind Metric.number? with
    | none => (written, false)
    | some last =>
      let seconds := Instant.secondsBetween last.time r.time
      if seconds ≤ 0 then (written, false)
      else (written.setNumber name (value last.value current seconds) r.time, true)

/-- Write the change per second. -/
def recordRate (r : MetricRecorder) (m : Monitor) (name raw : String) : Monitor × Bool :=
  r.recordSince m (rateBaseline name) name raw fun last current seconds =>
    (current - last) / seconds

/-- Write the counter that grows at a rate. -/
def recordCounter (r : MetricRecorder) (m : Monitor) (name raw : String) : Monitor × Bool :=
  let counter := (((m.metrics.get? name).bind Metric.number?).map (·.value)).getD 0
  r.recordSince m (counterBaseline name) name raw fun _ current seconds =>
    counter + current * seconds

end MetricRecorder

end HardwareWatch
