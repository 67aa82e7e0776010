import HardwareWatch.Proofs.Telemetry.Overwriting
import Mathlib.Data.List.DropRight

/-!
# Histories of metrics

A metric remembers one value from before, however often it was written. It is the value that was
there when the instant of the last write began: the last one of another instant, among the writes of
the same kind that end the history. A write of the other kind begins the history anew.

* `Sample.lastBefore` is the last sample before those of an instant that end a list, and
  `samplesAtEnd` the samples of one kind that end a list of writes.
* `Metric.ofHistory` is the metric that a list of writes leaves. `Metric.ofHistory_concat` is the
  step: one more write.
* `Monitor.metric_of_history` is the result for the writes to all metrics of a monitor.
-/

namespace HardwareWatch

/-! ## Samples before an instant -/

/-- The last sample before those of an instant that end the list. -/
def Sample.lastBefore {α : Type} (samples : List (Sample α)) (time : Instant) : Option (Sample α) :=
  (samples.rdropWhile fun s => s.time = time).getLast?

theorem Sample.lastBefore_concat {α : Type} (samples : List (Sample α)) (s : Sample α)
    (time : Instant) : lastBefore (samples ++ [s]) time =
      if s.time = time then lastBefore samples time else some s := by
  rw [lastBefore, List.rdropWhile_concat]
  by_cases h : s.time = time
  · rw [if_pos (decide_eq_true h), if_pos h, lastBefore]
  · rw [if_neg (by simpa using h), if_neg h, List.getLast?_concat]

/-- Another sample passes on what was there before, or is there itself. -/
theorem Sample.lastBefore_concat_eq {α : Type} (samples : List (Sample α)) (s : Sample α)
    (time : Instant) : lastBefore (samples ++ [s]) time =
      if s.time = time then lastBefore (samples ++ [s]) s.time else some s := by
  rw [lastBefore_concat, lastBefore_concat, if_pos rfl]
  split
  · rename_i h
    rw [h]
  · rfl

namespace MetricWrite

/-- The value of a number. -/
def number? : MetricWrite → Option Float
  | number value => some value
  | state .. => none

/-- The value of a state. -/
def state? : MetricWrite → Option String
  | number .. => none
  | state value _ => some value

end MetricWrite

/-- The samples of one kind that end a list of writes, back to the last write of the other kind. -/
def samplesAtEnd {α : Type} (value? : MetricWrite → Option α) (ws : List (Sample MetricWrite)) :
    List (Sample α) :=
  (ws.rtakeWhile fun w => (value? w.value).isSome).filterMap fun w =>
    (value? w.value).map fun value => ⟨value, w.time⟩

section samplesAtEnd

variable {α : Type} {value? : MetricWrite → Option α} {w : Sample MetricWrite}

theorem samplesAtEnd_concat_of_some {a : α} (h : value? w.value = some a)
    (ws : List (Sample MetricWrite)) :
    samplesAtEnd value? (ws ++ [w]) = samplesAtEnd value? ws ++ [⟨a, w.time⟩] := by
  have hsome : (value? w.value).isSome := by rw [h]; rfl
  rw [samplesAtEnd, List.rtakeWhile_concat, if_pos hsome, List.filterMap_append, samplesAtEnd]
  simp [h]

theorem samplesAtEnd_concat_of_none (h : value? w.value = none) (ws : List (Sample MetricWrite)) :
    samplesAtEnd value? (ws ++ [w]) = [] := by
  rw [samplesAtEnd, List.rtakeWhile_concat, h, if_neg (by simp), List.filterMap_nil]

end samplesAtEnd

/-! ## One metric -/

namespace Metric

/-- The metric that a list of writes leaves: the last write, with the last value of its kind before
the instant of this write. -/
def ofHistory (ws : List (Sample MetricWrite)) : Option Metric :=
  ws.getLast?.map fun w =>
    match w.value with
    | .number value =>
      .number ⟨value, w.time⟩ (Sample.lastBefore (samplesAtEnd MetricWrite.number? ws) w.time)
    | .state value states =>
      .state ⟨value, w.time⟩ states
        ((Sample.lastBefore (samplesAtEnd MetricWrite.state? ws) w.time).map Sample.value)

variable {time : Instant}

/-- A number finds the last number of another instant, if only numbers were written since. -/
theorem previousNumber_ofHistory (ws : List (Sample MetricWrite)) :
    previousNumber (ofHistory ws) time =
      Sample.lastBefore (samplesAtEnd MetricWrite.number? ws) time := by
  rcases List.eq_nil_or_concat ws with rfl | ⟨ws, ⟨w, t⟩, rfl⟩
  · rfl
  · rw [List.concat_eq_append, ofHistory, List.getLast?_concat, Option.map_some]
    cases w with
    | number value =>
      rw [samplesAtEnd_concat_of_some (a := value) rfl]
      exact (Sample.lastBefore_concat_eq ..).symm
    | state value states =>
      change none = _
      rw [samplesAtEnd_concat_of_none rfl]
      rfl

/-- A state finds the last state of another instant, if only states were written since. -/
theorem previousState_ofHistory (ws : List (Sample MetricWrite)) :
    previousState (ofHistory ws) time =
      (Sample.lastBefore (samplesAtEnd MetricWrite.state? ws) time).map Sample.value := by
  rcases List.eq_nil_or_concat ws with rfl | ⟨ws, ⟨w, t⟩, rfl⟩
  · rfl
  · rw [List.concat_eq_append, ofHistory, List.getLast?_concat, Option.map_some]
    cases w with
    | number value =>
      change none = _
      rw [samplesAtEnd_concat_of_none rfl]
      rfl
    | state value states =>
      rw [samplesAtEnd_concat_of_some (a := value) rfl, Sample.lastBefore_concat_eq _ _ time,
        apply_ite (Option.map Sample.value)]
      rfl

/-- One more write leaves the metric that this write makes of the one before. -/
theorem ofHistory_concat (ws : List (Sample MetricWrite)) (w : Sample MetricWrite) :
    ofHistory (ws ++ [w]) = some (overwritten w.time (ofHistory ws) w.value) := by
  obtain ⟨w, t⟩ := w
  rw [ofHistory, List.getLast?_concat, Option.map_some]
  cases w with
  | number value =>
    dsimp only [overwritten]
    rw [previousNumber_ofHistory, samplesAtEnd_concat_of_some (a := value) rfl,
      Sample.lastBefore_concat, if_pos rfl]
  | state value states =>
    dsimp only [overwritten]
    rw [previousState_ofHistory, samplesAtEnd_concat_of_some (a := value) rfl,
      Sample.lastBefore_concat, if_pos rfl]

end Metric

/-! ## The metrics of a monitor -/

namespace Monitor

/-- Write metrics one after the other. -/
def writeAll (m : Monitor) (ws : List (String × Sample MetricWrite)) : Monitor :=
  ws.foldl (fun m w => m.write w.1 w.2) m

variable {m : Monitor} {name : String}

/-- **What a metric remembers.** After any writes to the metrics of a monitor, at instants in any
order, a metric that was not there before has the value and the instant of the last write under its
name. Of what was written before it remembers the last value of another instant, as far as only
values of the same kind were written since. -/
theorem metric_of_history (h : m.metrics.get? name = none)
    (ws : List (String × Sample MetricWrite)) :
    (m.writeAll ws).metrics.get? name = Metric.ofHistory (valuesUnder name ws) := by
  induction ws using List.reverseRecOn with
  | nil => exact h
  | append_singleton ws w ih =>
    rw [writeAll, List.foldl_append, ← writeAll, valuesUnder_append]
    change ((m.writeAll ws).write w.1 w.2).metrics.get? name = _
    rw [get?_metrics_write, valuesUnder_cons, valuesUnder_nil]
    by_cases hname : w.1 = name
    · rw [if_pos hname, if_pos hname, hname, ih, Metric.ofHistory_concat]
    · rw [if_neg hname, if_neg hname, ih, List.append_nil]

end Monitor

/-! ## Samples of a network card -/

namespace NetworkCard

/-- A card without metrics. -/
def card : Monitor := .named "nic0" "network" none

/-- Two samples of one instant, a state and a clock that was set back. -/
def writes : List (String × Sample MetricWrite) :=
  [("hw.io", ⟨.number 1, 10⟩), ("hw.io", ⟨.number 2, 10⟩), ("hw.status", ⟨.state "ok" ["ok"], 10⟩),
    ("hw.io", ⟨.number 3, 5⟩), ("hw.io", ⟨.number 4, 5⟩)]

theorem card_remembers : card.metrics.get? "hw.io" = none ∧
    (card.writeAll writes).metrics.get? "hw.io" = some (.number ⟨4, 5⟩ (some ⟨2, 10⟩)) :=
  ⟨rfl, (Monitor.metric_of_history rfl writes).trans rfl⟩

end NetworkCard

end HardwareWatch
