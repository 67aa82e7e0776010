import HardwareWatch.Proofs.Telemetry.Alike
import HardwareWatch.Proofs.Telemetry.Elapsed
import HardwareWatch.Proofs.Telemetry.Histories
import HardwareWatch.Proofs.Text.Numerals

/-!
# What recording a value leaves alone

A value that is recorded for a metric is written or not, and the answer says which. A rate or a
counter replaces its baseline whenever the text is a number, also when nothing follows from the
baseline before. The metric itself is then written only if time has passed since.

* `Monitor.Recorded` says what is common to all values. It has a rule for a value that is ignored,
  for one that is written and for another metric that is written first.
* `MetricRecorder.Derived` says what there is besides for a value with a baseline.
* `MetricRecorder.leaves_alone` is the result for the three kinds of values.
-/

namespace HardwareWatch

/-- The name of a baseline is longer than that of its metric. -/
theorem underscored_ne (name suffix : String) : "__" ++ name ++ suffix ≠ name := by
  intro h
  have hlength := congrArg String.length h
  have hscores : "__".length = 2 := by decide +kernel
  rw [String.length_append, String.length_append, hscores] at hlength
  omega

/-! ## One metric and those that belong to it -/

namespace Monitor

/-- The monitor and the answer after a value was recorded under a name, or ignored. Of the monitor
no more than the metrics with the name and some others may have changed. The metric of the name was
written if the answer says so, and otherwise it is the one before. -/
structure Recorded (m : Monitor) (time : Instant) (name : String) (others : List String)
    (result : Monitor × Bool) : Prop where
  alike : m.AlikeBut (name :: others) result.1
  written : result.2 = true →
    ∃ w, result.1.metrics.get? name = some (.overwritten time (m.metrics.get? name) w)
  unwritten : result.2 = false → result.1.metrics.get? name = m.metrics.get? name

variable {m : Monitor} {time : Instant} {name : String} {names others : List String}

theorem AlikeBut.trans {m' m'' : Monitor} (h : AlikeBut names m m') (h' : AlikeBut names m' m'') :
    AlikeBut names m m'' :=
  without_eq_without_iff.1 ((without_eq_without_iff.2 h).trans (without_eq_without_iff.2 h'))

theorem alikeBut_write (h : name ∈ names) (m : Monitor) (w : Sample MetricWrite) :
    m.AlikeBut names (m.write name w) := by
  obtain ⟨w, time⟩ := w
  refine ⟨by cases w <;> rfl, fun name' hname' => ?_⟩
  have hne : name ≠ name' := fun he => hname' (he ▸ h)
  rw [get?_metrics_write, if_neg hne]

namespace Recorded

theorem ignored (m : Monitor) (time : Instant) (name : String) (others : List String) :
    m.Recorded time name others (m, false) :=
  ⟨.refl m, nofun, fun _ => rfl⟩

theorem write (m : Monitor) (name : String) (others : List String) (w : Sample MetricWrite) :
    m.Recorded w.time name others (m.write name w, true) :=
  ⟨m.alikeBut_write List.mem_cons_self w,
    fun _ => ⟨w.value, by rw [get?_metrics_write, if_pos rfl]⟩, nofun⟩

/-- Another metric may be written before. -/
theorem of_write {other : String} (hother : other ∈ others) (hne : other ≠ name)
    {w : Sample MetricWrite} {result : Monitor × Bool}
    (h : (m.write other w).Recorded time name others result) :
    m.Recorded time name others result := by
  have hsame : (m.write other w).metrics.get? name = m.metrics.get? name := by
    rw [get?_metrics_write, if_neg hne]
  refine ⟨(m.alikeBut_write (List.mem_cons_of_mem name hother) w).trans h.alike, ?_, ?_⟩
  · rw [← hsame]
    exact h.written
  · rw [← hsame]
    exact h.unwritten

end Recorded

end Monitor

/-! ## The three kinds of values -/

namespace MetricRecorder

variable (r : MetricRecorder) (m : Monitor) (name baseline raw : String)
  (value : (last current seconds : Float) → Float)

/-- What recording comes to for a value with a baseline. A text that is no number changes nothing.
Any other replaces the baseline, whatever the answer is. A value is written only if there was a
number before under the name of the baseline, and from an earlier instant. -/
structure Derived (result : Monitor × Bool) : Prop
    extends m.Recorded r.time name [baseline] result where
  unread : Text.number? raw = none → result = (m, false)
  replaced : ∀ x, Text.number? raw = some x → result.1.metrics.get? baseline =
    some (.number ⟨x, r.time⟩ (Metric.previousNumber (m.metrics.get? baseline) r.time))
  since : result.2 = true →
    ∃ last, (m.metrics.get? baseline).bind Metric.number? = some last ∧ last.time < r.time

theorem recorded_record (others : List String) :
    m.Recorded r.time name others (r.record m name raw) := by
  rw [record_eq_write]
  cases r.write? name raw with
  | some w => exact .write m name others ⟨w, r.time⟩
  | none => exact .ignored ..

variable {r m name baseline raw}

/-- A text that is neither a state of the metric nor a number is ignored. -/
theorem record_eq_of_unread
    (hstates : ∀ state ∈ (r.states? name).getD [], ¬Text.sameIgnoringCase state (Text.trim raw))
    (hnumber : Text.number? raw = none) : r.record m name raw = (m, false) := by
  have hwrite : r.write? name raw = none := by
    rw [write?, List.find?_eq_none.2 hstates, Text.number?_trim, hnumber]
    rfl
  rw [record_eq_write, hwrite]

/-- What follows from a baseline follows from a number of an earlier instant. -/
theorem exists_last_of_derived? {metrics : NameMap Metric} {x : Float}
    (h : r.derived? metrics baseline raw value = some x) :
    ∃ last, (metrics.get? baseline).bind Metric.number? = some last ∧ last.time < r.time := by
  rw [derived?] at h
  obtain ⟨current, -, h⟩ := Option.bind_eq_some_iff.1 h
  obtain ⟨last, hlast, h⟩ := Option.bind_eq_some_iff.1 h
  refine ⟨last, hlast, Instant.lt_of_secondsBetween fun hseconds => ?_⟩
  rw [if_pos hseconds] at h
  cases h

variable (r m raw) in
/-- A baseline under another name is replaced by every number, and a value is written if one
follows. -/
theorem derived_recordSince (h : baseline ≠ name) :
    r.Derived m name baseline raw (r.recordSince m baseline name raw value) := by
  rw [recordSince_eq_write]
  cases hraw : Text.number? raw with
  | none => exact ⟨.ignored .., fun _ => rfl, fun x hx => absurd (hraw.symm.trans hx) nofun, nofun⟩
  | some current =>
    have hread {result : Monitor × Bool} (hnone : Text.number? raw = none) : result = (m, false) :=
      absurd (hraw.symm.trans hnone) nofun
    have hbaseline (x : Float) (hx : Text.number? raw = some x) :
        (m.write baseline ⟨.number current, r.time⟩).metrics.get? baseline =
          some (.number ⟨x, r.time⟩ (Metric.previousNumber (m.metrics.get? baseline) r.time)) := by
      obtain rfl : x = current := Option.some.inj (hx.symm.trans hraw)
      rw [Monitor.get?_metrics_write, if_pos rfl]
      rfl
    dsimp only
    cases hvalue : r.derived? m.metrics baseline raw value with
    | none => exact ⟨.of_write List.mem_cons_self h (.ignored ..), hread, hbaseline, nofun⟩
    | some x =>
      refine ⟨.of_write List.mem_cons_self h (.write _ name _ ⟨.number x, r.time⟩), hread,
        fun x hx => ?_, fun _ => exists_last_of_derived? value hvalue⟩
      rw [Monitor.get?_metrics_write, if_neg h.symm]
      exact hbaseline x hx

variable (r m name raw)

/-- **What recording leaves alone.** Whatever the text, recording changes at most the metric of the
name and the baseline that belongs to it, and the answer is whether the metric was written. -/
theorem leaves_alone :
    (m.Recorded r.time name [] (r.record m name raw) ∧
      ((∀ state ∈ (r.states? name).getD [], ¬Text.sameIgnoringCase state (Text.trim raw)) →
        Text.number? raw = none → r.record m name raw = (m, false))) ∧
    r.Derived m name (rateBaseline name) raw (r.recordRate m name raw) ∧
    r.Derived m name (counterBaseline name) raw (r.recordCounter m name raw) := by
  refine ⟨⟨r.recorded_record m name raw [], record_eq_of_unread⟩, ?_, ?_⟩
  · rw [recordRate]
    exact r.derived_recordSince m raw _ (underscored_ne name _)
  · rw [recordCounter]
    exact r.derived_recordSince m raw _ (underscored_ne name _)

end MetricRecorder

/-! ## The rate of a network card -/

namespace NetworkCard

/-- The card after a first value for the rate, from which nothing follows yet. -/
def sampled : Monitor :=
  ((⟨.empty, 0⟩ : MetricRecorder).recordRate card "hw.network.io" "1000").1

/-- Ten seconds later there is a rate. -/
def later : MetricRecorder := ⟨.empty, 10000⟩

theorem rate_since_first : (later.recordRate sampled "hw.network.io" "1500").2 = true ∧
    ∃ last, (sampled.metrics.get? (rateBaseline "hw.network.io")).bind Metric.number? = some last ∧
      last.time < later.time := by
  have hwritten : (later.recordRate sampled "hw.network.io" "1500").2 = true := by decide +kernel
  exact ⟨hwritten, (later.leaves_alone sampled "hw.network.io" "1500").2.1.since hwritten⟩

end NetworkCard

end HardwareWatch
