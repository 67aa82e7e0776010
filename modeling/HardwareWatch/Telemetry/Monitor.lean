import HardwareWatch.NameMap
import HardwareWatch.Telemetry.Instant

/-!
# Monitors

A monitor is one thing that is watched on a host, a disk or a fan. It has attributes that describe it
and metrics that change. A metric remembers the value it had before, which is not replaced when a
value is written twice at one instant.

* `Metric` is a number or one of a set of states.
* `Monitor.setNumber` and `Monitor.setState` write metrics.
-/

namespace HardwareWatch

/-- A value and the instant it was written at. -/
structure Sample (α : Type) where
  value : α
  time : Instant

/-- A metric. -/
inductive Metric
  | number (current : Sample Float) (previous : Option (Sample Float))
  | state (current : Sample String) (states : List String) (previous : Option String)

namespace Metric

/-- When the value was written. -/
def time : Metric → Instant
  | number current _ => current.time
  | state current .. => current.time

/-- The value of a number. -/
def number? : Metric → Option (Sample Float)
  | number current _ => some current
  | state .. => none

/-- The value of a state. -/
def state? : Metric → Option String
  | number .. => none
  | state current .. => some current.value

/-- The number before a number that is written at an instant. -/
def previousNumber (before : Option Metric) (time : Instant) : Option (Sample Float) :=
  match before with
  | some (number current previous) => if current.time = time then previous else some current
  | _ => none

/-- The state before a state that is written at an instant. -/
def previousState (before : Option Metric) (time : Instant) : Option String :=
  match before with
  | some (state current _ previous) =>
    if current.time = time then previous else some current.value
  | _ => none

end Metric

/-- One thing that is watched. -/
structure Monitor where
  id : String
  type : String
  /-- The connector that discovered it. -/
  connector : Option String
  attributes : NameMap String
  metrics : NameMap Metric
  legacyTextParameters : NameMap String
  discovered : Option Instant
  /-- Whether the last discovery did not find it. -/
  isStale : Bool
  /-- Whether it stands for the host itself. -/
  isEndpoint : Bool

namespace Monitor

/-- A monitor of which only its identity is known. -/
def named (id type : String) (connector : Option String) : Monitor :=
  ⟨id, type, connector, .empty, .empty, .empty, none, false, false⟩

/-- Write a number. -/
def setNumber (m : Monitor) (name : String) (value : Float) (time : Instant) : Monitor :=
  let previous := Metric.previousNumber (m.metrics.get? name) time
  { m with metrics := m.metrics.insert name (.number ⟨value, time⟩ previous) }

/-- Write a state. -/
def setState (m : Monitor) (name value : String) (states : List String) (time : Instant) :
    Monitor :=
  let previous := Metric.previousState (m.metrics.get? name) time
  { m with metrics := m.metrics.insert name (.state ⟨value, time⟩ states previous) }

/-- Add attributes, in place of those with the same names. -/
def addAttributes (m : Monitor) (attributes : NameMap String) : Monitor :=
  { m with attributes := m.attributes.insertAll attributes.toList }

end Monitor

end HardwareWatch
