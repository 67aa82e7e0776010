import HardwareWatch.Proofs.Telemetry.Monitors
import Mathlib.Data.List.Induction

/-!
# Values that are written twice at one instant

A metric that is written anew at the instant of its value keeps the value before. So a list of
writes at one instant leaves the same metrics whether it is carried out once or twice.

* `MetricWrite` is a number or a state to be written, and `Metric.overwritten` is what it leaves.
  `Metric.overwritten_after` says what a write finds after others of the same instant.
* `Metric.after_twice` is about one metric, `writeMetrics_twice` about the metrics of a monitor. The
  second list of writes there may lack those to some metrics.
* `NameMap.insertAll_twice` is the same for values without a history.
-/

namespace HardwareWatch

/-! ## The entries with a name -/

/-- The values that a list of entries has for a name, in their order. -/
def valuesUnder {α : Type} (name : String) (entries : List (String × α)) : List α :=
  entries.filterMap fun e => if e.1 = name then some e.2 else none

section valuesUnder

variable {α : Type} {name : String} {a : α} {entries : List (String × α)}

@[simp] theorem valuesUnder_nil : valuesUnder name ([] : List (String × α)) = [] := rfl

theorem valuesUnder_cons (e : String × α) (entries : List (String × α)) :
    valuesUnder name (e :: entries) =
      if e.1 = name then e.2 :: valuesUnder name entries else valuesUnder name entries := by
  rw [valuesUnder, List.filterMap_cons]
  by_cases h : e.1 = name <;> simp [h, valuesUnder]

theorem valuesUnder_append (entries entries' : List (String × α)) :
    valuesUnder name (entries ++ entries') =
      valuesUnder name entries ++ valuesUnder name entries' := List.filterMap_append ..

theorem mem_valuesUnder_iff : a ∈ valuesUnder name entries ↔ (name, a) ∈ entries := by
  simp only [valuesUnder, List.mem_filterMap, Option.ite_none_right_eq_some, Option.some.injEq]
  constructor
  · rintro ⟨e, he, rfl, rfl⟩
    exact he
  · exact fun h => ⟨(name, a), h, rfl, rfl⟩

theorem valuesUnder_eq_nil (h : ∀ e ∈ entries, e.1 ≠ name) : valuesUnder name entries = [] :=
  List.eq_nil_iff_forall_not_mem.2 fun _ ha => h _ (mem_valuesUnder_iff.1 ha) rfl

end valuesUnder

namespace NameMap

variable {α : Type}

/-- The last of the entries with a name is found. -/
theorem get?_insertAll (m : NameMap α) (entries : List (String × α)) (k : String) :
    (m.insertAll entries).get? k = (valuesUnder k entries).getLast?.or (m.get? k) := by
  induction entries generalizing m with
  | nil => simp [insertAll]
  | cons e rest ih =>
    rw [insertAll, List.foldl_cons, ← insertAll, ih, get?_insert, valuesUnder_cons]
    by_cases h : e.1 = k
    · rw [if_pos h, if_pos h, List.getLast?_cons]
      cases (valuesUnder k rest).getLast? <;> rfl
    · rw [if_neg h, if_neg h]

theorem insertAll_twice (m : NameMap α) (entries : List (String × α)) :
    (m.insertAll entries).insertAll entries = m.insertAll entries := by
  refine ext fun k => ?_
  rw [get?_insertAll, get?_insertAll]
  cases (valuesUnder k entries).getLast? <;> rfl

end NameMap

/-! ## One metric -/

/-- A value to be written under the name of a metric. -/
inductive MetricWrite
  | number (value : Float)
  | state (value : String) (states : List String)

/-- Whether both write numbers or both write states. -/
def MetricWrite.sameKind : MetricWrite → MetricWrite → Bool
  | number .., number .. | state .., state .. => true
  | _, _ => false

namespace Metric

/-- The metric that a write leaves. -/
def overwritten (time : Instant) (before : Option Metric) : MetricWrite → Metric
  | .number value => .number ⟨value, time⟩ (previousNumber before time)
  | .state value states => .state ⟨value, time⟩ states (previousState before time)

/-- The metric, if there is one, after some writes at an instant. -/
def after (time : Instant) (before : Option Metric) (ws : List MetricWrite) : Option Metric :=
  ws.foldl (fun before w => some (overwritten time before w)) before

variable {time : Instant} {before : Option Metric}

/-- A write of the same kind passes on the value before, one of the other kind drops it. -/
theorem overwritten_overwritten (w w' : MetricWrite) :
    overwritten time (some (overwritten time before w)) w' =
      if w'.sameKind w then overwritten time before w' else overwritten time none w' := by
  cases w <;> cases w' <;>
    simp [overwritten, MetricWrite.sameKind, previousNumber, previousState]

/-- A write finds the value before as it was if all writes between were of its kind, and otherwise
none. -/
theorem overwritten_after (ws : List MetricWrite) (w : MetricWrite) :
    overwritten time (after time before ws) w =
      if ws.all w.sameKind then overwritten time before w else overwritten time none w := by
  induction ws generalizing before with
  | nil => rfl
  | cons w' rest ih =>
    rw [after, List.foldl_cons, ← after, ih, overwritten_overwritten, List.all_cons]
    cases w.sameKind w' <;> cases rest.all w.sameKind <;> rfl

theorem after_concat (ws : List MetricWrite) (w : MetricWrite) :
    after time before (ws ++ [w]) = some (overwritten time (after time before ws) w) := by
  simp [after]

/-- The same writes again leave the metric as it is. -/
theorem after_twice (ws : List MetricWrite) :
    after time (after time before ws) ws = after time before ws := by
  induction ws using List.reverseRecOn with
  | nil => rfl
  | append_singleton ws w _ =>
    have hsame : w.sameKind w = true := by cases w <;> rfl
    rw [after_concat, after_concat, overwritten_after, overwritten_after]
    cases ws.all w.sameKind with
    | false => rfl
    | true => simp [overwritten_overwritten, hsame]

end Metric

/-! ## The metrics of a monitor -/

namespace Monitor

/-- Write a metric. -/
def write (m : Monitor) (name : String) (w : Sample MetricWrite) : Monitor :=
  match w.value with
  | .number value => m.setNumber name value w.time
  | .state value states => m.setState name value states w.time

theorem get?_metrics_write (m : Monitor) (name : String) (w : Sample MetricWrite)
    (name' : String) : (m.write name w).metrics.get? name' =
      if name = name' then some (.overwritten w.time (m.metrics.get? name) w.value)
      else m.metrics.get? name' := by
  obtain ⟨w, t⟩ := w
  cases w <;> exact NameMap.get?_insert ..

end Monitor

/-- The metrics after some writes at an instant. -/
def writeMetrics (time : Instant) (metrics : NameMap Metric) (ws : List (String × MetricWrite)) :
    NameMap Metric :=
  ws.foldl (fun ms w => ms.insert w.1 (.overwritten time (ms.get? w.1) w.2)) metrics

section writeMetrics

variable {time : Instant} {metrics : NameMap Metric}

theorem writeMetrics_append (ws ws' : List (String × MetricWrite)) :
    writeMetrics time metrics (ws ++ ws') = writeMetrics time (writeMetrics time metrics ws) ws' :=
  List.foldl_append

/-- A metric sees the writes under its own name only. -/
theorem get?_writeMetrics (ws : List (String × MetricWrite)) (name : String) :
    (writeMetrics time metrics ws).get? name =
      Metric.after time (metrics.get? name) (valuesUnder name ws) := by
  induction ws generalizing metrics with
  | nil => rfl
  | cons w rest ih =>
    rw [writeMetrics, List.foldl_cons, ← writeMetrics, ih, NameMap.get?_insert, valuesUnder_cons]
    by_cases h : w.1 = name
    · rw [if_pos h, if_pos h, h]
      rfl
    · rw [if_neg h, if_neg h]

/-- Writes that are repeated, for each metric all of them or none, leave the metrics as they are. -/
theorem writeMetrics_twice {ws ws' : List (String × MetricWrite)}
    (h : ∀ name, valuesUnder name ws' = [] ∨ valuesUnder name ws' = valuesUnder name ws) :
    writeMetrics time (writeMetrics time metrics ws) ws' = writeMetrics time metrics ws := by
  refine NameMap.ext fun name => ?_
  rw [get?_writeMetrics, get?_writeMetrics]
  rcases h name with h | h
  · rw [h]
    rfl
  · rw [h, Metric.after_twice]

/-- The metric is a number that was written at an instant. -/
def HasNumberAt (time : Instant) (metrics : NameMap Metric) (name : String) : Prop :=
  ∃ sample, (metrics.get? name).bind Metric.number? = some sample ∧ sample.time = time

/-- A metric to which only numbers are written is one afterwards, if any is written or it was one
before. -/
theorem hasNumberAt_writeMetrics {ws : List (String × MetricWrite)} {name : String}
    (hnumber : ∀ w ∈ valuesUnder name ws, ∃ x, w = .number x)
    (h : valuesUnder name ws ≠ [] ∨ HasNumberAt time metrics name) :
    HasNumberAt time (writeMetrics time metrics ws) name := by
  rw [HasNumberAt, get?_writeMetrics]
  rcases List.eq_nil_or_concat (valuesUnder name ws) with hnil | ⟨init, w, hlast⟩
  · rw [hnil]
    exact h.resolve_left (absurd hnil)
  · obtain ⟨x, rfl⟩ := hnumber w (by simp [hlast])
    rw [hlast, List.concat_eq_append, Metric.after_concat]
    exact ⟨_, rfl, rfl⟩

end writeMetrics

end HardwareWatch
