import HardwareWatch.Proofs.Telemetry.Overwriting

/-!
# Values that are recorded twice at one instant

What the rows of a table write onto a monitor is a list of writes to its metrics. Recorded twice at
one instant, the same values leave the same monitor: a rate or a counter follows from the time since
its baseline was written, and then no time has passed.

* `MetricRecorder.record_eq_write` and `MetricRecorder.recordSince_eq_write` say what is written for
  a value, `MetricRecorder.record_eq` and `MetricRecorder.recordSince_eq` which writes it comes to.
* `JobContext.fixedWrites` are those of them that do not depend on the metrics that there are,
  `JobContext.derived?` is the rate or the counter that does.
* `Orderly` says what is needed of the values: no name is one of a baseline, and no name has plain
  values and others too.
* `JobContext.recordAll_twice` is about the metrics of a monitor, `JobContext.writeRows_twice` about
  the monitor.
-/

namespace HardwareWatch

/-! ## What is written for a value -/

/-- The write of a number under a name, if there is a number. -/
def numberWrites (name : String) (x : Option Float) : List (String × MetricWrite) :=
  x.toList.map fun x => (name, .number x)

/-- No time passes from an instant to itself. -/
theorem secondsBetween_self (t : Instant) : Instant.secondsBetween t t ≤ 0 := by
  rw [Instant.secondsBetween, Int.sub_self]
  decide +kernel

namespace MetricRecorder

variable (r : MetricRecorder) (metrics : NameMap Metric) (m : Monitor)
  (name baseline raw : String) (value : (last current seconds : Float) → Float)

/-- What is written for a text: the state that it names, or else the number that it is. -/
def write? : Option MetricWrite :=
  let states := (r.states? name).getD []
  match states.find? (Text.sameIgnoringCase · (Text.trim raw)) with
  | some state => some (.state state states)
  | none => (Text.number? (Text.trim raw)).map .number

/-- What follows from a value and that of the baseline before, if time has passed. -/
def derived? : Option Float := do
  let current ← Text.number? raw
  let last ← (metrics.get? baseline).bind Metric.number?
  let seconds := Instant.secondsBetween last.time r.time
  if seconds ≤ 0 then none else some (value last.value current seconds)

theorem record_eq_write : r.record m name raw =
    match r.write? name raw with
    | some w => (m.write name ⟨w, r.time⟩, true)
    | none => (m, false) := by
  rw [record, write?]
  cases ((r.states? name).getD []).find? (Text.sameIgnoringCase · (Text.trim raw)) with
  | some state => rfl
  | none => cases Text.number? (Text.trim raw) <;> rfl

theorem record_eq : (r.record m name raw).1 =
    { m with metrics :=
        writeMetrics r.time m.metrics ((r.write? name raw).toList.map fun w => (name, w)) } := by
  rw [record_eq_write]
  cases r.write? name raw with
  | some w => cases w <;> rfl
  | none => rfl

/-- The baseline is written if there is a number, and the value if one follows. -/
theorem recordSince_eq_write : r.recordSince m baseline name raw value =
    match Text.number? raw with
    | none => (m, false)
    | some current =>
      let written := m.write baseline ⟨.number current, r.time⟩
      match r.derived? m.metrics baseline raw value with
      | none => (written, false)
      | some x => (written.write name ⟨.number x, r.time⟩, true) := by
  rw [recordSince, derived?]
  cases Text.number? raw with
  | none => rfl
  | some current =>
    cases (m.metrics.get? baseline).bind Metric.number? with
    | none => rfl
    | some last =>
      dsimp only [Option.bind_eq_bind, Option.bind_some]
      split <;> rfl

theorem recordSince_eq : (r.recordSince m baseline name raw value).1 =
    { m with
      metrics := writeMetrics r.time m.metrics
        (numberWrites baseline (Text.number? raw) ++
          numberWrites name (r.derived? m.metrics baseline raw value)) } := by
  rw [recordSince_eq_write]
  cases hraw : Text.number? raw with
  | none =>
    rw [derived?, hraw]
    rfl
  | some current => cases r.derived? m.metrics baseline raw value <;> rfl

/-- Nothing follows from a baseline that was written at the instant. -/
theorem derived?_eq_none (h : ∀ w ∈ numberWrites baseline (Text.number? raw),
    HasNumberAt r.time metrics w.1) : r.derived? metrics baseline raw value = none := by
  rw [derived?]
  cases hraw : Text.number? raw with
  | none => rfl
  | some current =>
    obtain ⟨last, hlast, htime⟩ := h (baseline, .number current) (by simp [numberWrites, hraw])
    dsimp only at hlast
    rw [hlast]
    dsimp only [Option.bind_eq_bind, Option.bind_some]
    rw [htime, if_pos (secondsBetween_self r.time)]

end MetricRecorder

/-- Whether the value is written as it is. -/
def MetricValue.isPlain : MetricValue → Bool
  | plain .. => true
  | rate .. | counter .. => false

/-- The names of baselines begin with two underscores. -/
def IsReserved (name : String) : Prop := ∃ rest, name = "__" ++ rest

theorem isReserved_rateBaseline (name : String) : IsReserved (rateBaseline name) :=
  ⟨name ++ ".rate_from", by rw [rateBaseline, String.append_assoc]⟩

theorem isReserved_counterBaseline (name : String) : IsReserved (counterBaseline name) :=
  ⟨name ++ ".fake_counter_from", by rw [counterBaseline, String.append_assoc]⟩

theorem not_isReserved {name : String} (h : name.toList.head? ≠ some '_') : ¬IsReserved name := by
  rintro ⟨rest, rfl⟩
  have hscores : ("__" : String).toList = ['_', '_'] := by decide +kernel
  rw [String.toList_append, hscores] at h
  exact h rfl

namespace JobContext

variable (job : JobContext)

/-- The writes for a value under a name that do not depend on what was there: the value itself, or
the baseline of a rate or a counter. -/
def fixedWrites : String × MetricValue → List (String × MetricWrite)
  | (name, .plain raw) => (job.recorder.write? name raw).toList.map fun w => (name, w)
  | (name, .rate raw) => numberWrites (rateBaseline name) (Text.number? raw)
  | (name, .counter raw) => numberWrites (counterBaseline name) (Text.number? raw)

/-- The rate or the counter that follows, given the metrics that there are. -/
def derived? (metrics : NameMap Metric) : String × MetricValue → Option Float
  | (_, .plain _) => none
  | (name, .rate raw) =>
    job.recorder.derived? metrics (rateBaseline name) raw fun last current seconds =>
      (current - last) / seconds
  | (name, .counter raw) =>
    let counter := (((metrics.get? name).bind Metric.number?).map (·.value)).getD 0
    job.recorder.derived? metrics (counterBaseline name) raw fun _ current seconds =>
      counter + current * seconds

/-- The writes for a value under a name, given the metrics that there are. -/
def writesFor (metrics : NameMap Metric) (v : String × MetricValue) :
    List (String × MetricWrite) :=
  job.fixedWrites v ++ numberWrites v.1 (job.derived? metrics v)

theorem writeMetric_eq (m : Monitor) (v : String × MetricValue) : job.writeMetric m v.1 v.2 =
    { m with metrics := writeMetrics job.time m.metrics (job.writesFor m.metrics v) } := by
  obtain ⟨name, value⟩ := v
  cases value with
  | plain raw =>
    rw [writesFor, derived?, numberWrites, Option.toList_none, List.map_nil, List.append_nil]
    exact job.recorder.record_eq m name raw
  | rate raw => exact job.recorder.recordSince_eq ..
  | counter raw => exact job.recorder.recordSince_eq ..

/-! ## What is recorded for several values -/

/-- The metrics after some values were recorded one after the other. -/
def recordAll (metrics : NameMap Metric) (vs : List (String × MetricValue)) : NameMap Metric :=
  vs.foldl (fun ms v => writeMetrics job.time ms (job.writesFor ms v)) metrics

theorem recordAll_append (metrics : NameMap Metric) (vs vs' : List (String × MetricValue)) :
    job.recordAll metrics (vs ++ vs') = job.recordAll (job.recordAll metrics vs) vs' :=
  List.foldl_append

/-- The writes for some values that do not depend on what was there. -/
def allFixedWrites (vs : List (String × MetricValue)) : List (String × MetricWrite) :=
  vs.flatMap job.fixedWrites

theorem allFixedWrites_cons (v : String × MetricValue) (vs : List (String × MetricValue)) :
    job.allFixedWrites (v :: vs) = job.fixedWrites v ++ job.allFixedWrites vs := rfl

end JobContext

/-- No name is reserved for baselines, and no name has plain values and others too. -/
structure Orderly (vs : List (String × MetricValue)) : Prop where
  names : ∀ v ∈ vs, ¬IsReserved v.1
  kinds : ∀ v ∈ vs, ∀ v' ∈ vs, v.1 = v'.1 → v.2.isPlain = v'.2.isPlain

namespace JobContext

variable {job : JobContext} {v : String × MetricValue} {w : String × MetricWrite}
  {vs : List (String × MetricValue)} {metrics : NameMap Metric}

theorem name_of_mem_fixedWrites (h : w ∈ job.fixedWrites v) (hv : v.2.isPlain) : w.1 = v.1 := by
  obtain ⟨name, value⟩ := v
  cases value with
  | plain raw =>
    obtain ⟨-, -, rfl⟩ := List.mem_map.1 h
    rfl
  | rate raw => cases hv
  | counter raw => cases hv

/-- What is written for a rate or a counter whatever was there is the baseline, a number. -/
theorem baseline_of_mem_fixedWrites (h : w ∈ job.fixedWrites v) (hv : v.2.isPlain = false) :
    IsReserved w.1 ∧ ∃ x, w.2 = .number x := by
  obtain ⟨name, value⟩ := v
  cases value with
  | plain raw => cases hv
  | rate raw =>
    obtain ⟨x, -, rfl⟩ := List.mem_map.1 h
    exact ⟨isReserved_rateBaseline name, x, rfl⟩
  | counter raw =>
    obtain ⟨x, -, rfl⟩ := List.mem_map.1 h
    exact ⟨isReserved_counterBaseline name, x, rfl⟩

/-- Nothing follows from baselines that were written at the instant. -/
theorem derived?_eq_none (h : v.2.isPlain = false → ∀ w ∈ job.fixedWrites v,
    HasNumberAt job.time metrics w.1) : job.derived? metrics v = none := by
  obtain ⟨name, value⟩ := v
  cases value with
  | plain raw => rfl
  | rate raw =>
    rw [derived?]
    exact job.recorder.derived?_eq_none _ _ _ _ (h rfl)
  | counter raw =>
    rw [derived?]
    exact job.recorder.derived?_eq_none _ _ _ _ (h rfl)

theorem isNumber_of_mem_fixedWrites (hv : ¬IsReserved v.1) (h : w ∈ job.fixedWrites v)
    (hw : IsReserved w.1) : ∃ x, w.2 = .number x := by
  cases hplain : v.2.isPlain with
  | true => exact absurd (name_of_mem_fixedWrites h hplain ▸ hw) hv
  | false => exact (baseline_of_mem_fixedWrites h hplain).2

theorem valuesUnder_numberWrites_of_ne {name name' : String} (h : name ≠ name')
    (x : Option Float) : valuesUnder name' (numberWrites name x) = [] := by
  refine valuesUnder_eq_nil fun w hw => ?_
  obtain ⟨-, -, rfl⟩ := List.mem_map.1 hw
  exact h

/-- The values come to writes which, but for what follows from baselines, do not depend on the
metrics that there were. -/
theorem exists_writes_recordAll (job : JobContext) (vs : List (String × MetricValue))
    (metrics : NameMap Metric) :
    ∃ ws, job.recordAll metrics vs = writeMetrics job.time metrics ws ∧
      ∀ name, (∀ v ∈ vs, v.1 = name → v.2.isPlain) →
        valuesUnder name ws = valuesUnder name (job.allFixedWrites vs) := by
  induction vs generalizing metrics with
  | nil => exact ⟨[], rfl, fun _ _ => rfl⟩
  | cons v rest ih =>
    obtain ⟨ws, hws, hunder⟩ := ih (writeMetrics job.time metrics (job.writesFor metrics v))
    refine ⟨job.writesFor metrics v ++ ws, by rw [writeMetrics_append, ← hws]; rfl,
      fun name hname => ?_⟩
    rw [List.forall_mem_cons] at hname
    have hderived : valuesUnder name (numberWrites v.1 (job.derived? metrics v)) = [] := by
      by_cases hv : v.1 = name
      · rw [derived?_eq_none fun hplain => absurd (hname.1 hv) (by simp [hplain])]
        rfl
      · exact valuesUnder_numberWrites_of_ne hv _
    rw [writesFor, valuesUnder_append, valuesUnder_append, hderived, List.append_nil,
      hunder name hname.2, allFixedWrites_cons, valuesUnder_append]

/-- Where the baselines were written at the instant, nothing follows from them. -/
theorem recordAll_of_settled (hnames : ∀ v ∈ vs, ¬IsReserved v.1)
    (h : ∀ v ∈ vs, v.2.isPlain = false → ∀ w ∈ job.fixedWrites v,
      HasNumberAt job.time metrics w.1) :
    job.recordAll metrics vs = writeMetrics job.time metrics (job.allFixedWrites vs) := by
  induction vs generalizing metrics with
  | nil => rfl
  | cons v rest ih =>
    rw [List.forall_mem_cons] at hnames h
    have hwrites : job.writesFor metrics v = job.fixedWrites v := by
      rw [writesFor, derived?_eq_none h.1]
      exact List.append_nil _
    rw [recordAll, List.foldl_cons, ← recordAll, hwrites, allFixedWrites_cons,
      writeMetrics_append]
    refine ih hnames.2 fun v' hv' hplain w hw => ?_
    refine hasNumberAt_writeMetrics (fun x hx => ?_) (.inr (h.2 v' hv' hplain w hw))
    exact isNumber_of_mem_fixedWrites hnames.1 (mem_valuesUnder_iff.1 hx)
      (baseline_of_mem_fixedWrites hw hplain).1

/-- The baselines of rates and counters are numbers that were written at the instant. -/
theorem hasNumberAt_recordAll (hnames : ∀ v ∈ vs, ¬IsReserved v.1) (hv : v ∈ vs)
    (hplain : v.2.isPlain = false) (hw : w ∈ job.fixedWrites v) :
    HasNumberAt job.time (job.recordAll metrics vs) w.1 := by
  obtain ⟨ws, hws, hunder⟩ := job.exists_writes_recordAll vs metrics
  have hreserved : IsReserved w.1 := (baseline_of_mem_fixedWrites hw hplain).1
  have hsame : valuesUnder w.1 ws = valuesUnder w.1 (job.allFixedWrites vs) :=
    hunder w.1 fun v' hv' he => absurd (he ▸ hreserved) (hnames v' hv')
  rw [hws]
  refine hasNumberAt_writeMetrics (fun x hx => ?_) (.inl (List.ne_nil_of_mem (a := w.2) ?_))
  · rw [hsame, mem_valuesUnder_iff] at hx
    obtain ⟨v', hv', hx⟩ := List.mem_flatMap.1 hx
    exact isNumber_of_mem_fixedWrites (hnames v' hv') hx hreserved
  · rw [hsame, mem_valuesUnder_iff]
    exact List.mem_flatMap.2 ⟨v, hv, hw⟩

/-- Under the name of a rate or a counter nothing is written but what follows from its baseline. -/
theorem valuesUnder_allFixedWrites_eq_nil (h : Orderly vs) (hv : v ∈ vs)
    (hplain : v.2.isPlain = false) : valuesUnder v.1 (job.allFixedWrites vs) = [] := by
  refine valuesUnder_eq_nil fun w hw he => ?_
  obtain ⟨v', hv', hw⟩ := List.mem_flatMap.1 hw
  cases hplain' : v'.2.isPlain with
  | true =>
    rw [name_of_mem_fixedWrites hw hplain'] at he
    exact absurd ((h.kinds v' hv' v hv he).symm.trans hplain') (by simp [hplain])
  | false => exact h.names v hv (he ▸ (baseline_of_mem_fixedWrites hw hplain').1)

/-- The same values again leave the metrics as they are. -/
theorem recordAll_twice (h : Orderly vs) :
    job.recordAll (job.recordAll metrics vs) vs = job.recordAll metrics vs := by
  rw [recordAll_of_settled h.names fun v hv hplain w hw =>
    hasNumberAt_recordAll h.names hv hplain hw]
  obtain ⟨ws, hws, hunder⟩ := job.exists_writes_recordAll vs metrics
  rw [hws]
  refine writeMetrics_twice fun name => ?_
  by_cases hname : ∀ v ∈ vs, v.1 = name → v.2.isPlain
  · exact .inr (hunder name hname).symm
  · push Not at hname
    obtain ⟨v, hv, rfl, hplain⟩ := hname
    exact .inl (valuesUnder_allFixedWrites_eq_nil h hv (eq_false_of_ne_true hplain))

/-! ## Rows -/

/-- The monitor after the values of some rows were written. -/
def writeRows (job : JobContext) (rows : List InterpretedRow) (m : Monitor) : Monitor :=
  rows.foldl (fun m row => job.writeValues row m) m

theorem writeValues_eq (job : JobContext) (row : InterpretedRow) (m : Monitor) :
    job.writeValues row m = { m with
      metrics := job.recordAll m.metrics row.metrics.toList
      legacyTextParameters := m.legacyTextParameters.insertAll row.legacyTextParameters.toList } := by
  rw [writeValues]
  dsimp only
  generalize m.legacyTextParameters.insertAll _ = texts
  have hfold (m : Monitor) (vs : List (String × MetricValue)) :
      vs.foldl (fun m v => job.writeMetric m v.1 v.2) m =
        { m with metrics := job.recordAll m.metrics vs } := by
    induction vs generalizing m with
    | nil => rfl
    | cons v rest ih =>
      rw [List.foldl_cons, ih, writeMetric_eq]
      rfl
  exact hfold _ _

theorem writeRows_eq (job : JobContext) (rows : List InterpretedRow) (m : Monitor) :
    job.writeRows rows m = { m with
      metrics := job.recordAll m.metrics (rows.flatMap (·.metrics.toList))
      legacyTextParameters :=
        m.legacyTextParameters.insertAll (rows.flatMap (·.legacyTextParameters.toList)) } := by
  induction rows generalizing m with
  | nil => rfl
  | cons row rest ih =>
    rw [writeRows, List.foldl_cons, ← writeRows, ih, writeValues_eq, List.flatMap_cons,
      List.flatMap_cons, recordAll_append, NameMap.insertAll, NameMap.insertAll, NameMap.insertAll,
      List.foldl_append]

/-- The same rows again leave the monitor as it is. -/
theorem writeRows_twice {rows : List InterpretedRow}
    (h : Orderly (rows.flatMap (·.metrics.toList))) (m : Monitor) :
    job.writeRows rows (job.writeRows rows m) = job.writeRows rows m := by
  rw [writeRows_eq, writeRows_eq]
  dsimp only
  rw [recordAll_twice h, NameMap.insertAll_twice]

end JobContext

end HardwareWatch
