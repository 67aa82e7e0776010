import HardwareWatch.Proofs.Telemetry.Confined

/-!
# Resources apart from job durations

How long jobs took is noted at the monitor of the host. Two resources can be alike apart from that.
The rows of a table are applied to both in the same way, as long as the mapping looks nothing up.

* `Monitor.AlikeBut` says that two monitors have the same values but for some metrics. It has a rule
  for every write.
* `Resource.withoutDurations` drops the durations of the jobs of a connector.
* `Resource.view` is what the job for a type sees of a resource: the monitors of its type, without
  durations.
* `JobContext.view_discover`, `JobContext.view_collect` and `JobContext.view_collectOne` say that
  what a job sees decides what it does to what it sees.
-/

namespace HardwareWatch

/-! ## Monitors that are alike -/

namespace Monitor

/-- The monitor without some metrics. -/
def without (m : Monitor) (names : List String) : Monitor :=
  { m with metrics := names.foldl NameMap.erase m.metrics }

/-- Two monitors are the same apart from the metrics with some names. -/
structure AlikeBut (names : List String) (m m' : Monitor) : Prop where
  rest : m' = { m with metrics := m'.metrics }
  metrics : ∀ name, name ∉ names → m'.metrics.get? name = m.metrics.get? name

variable {names : List String} {m m' : Monitor}

theorem without_eq_without_iff : m.without names = m'.without names ↔ m.AlikeBut names m' := by
  constructor
  · intro h
    refine ⟨?_, fun name hname => ?_⟩
    · have hrest := congrArg (fun m₀ : Monitor => { m₀ with metrics := m'.metrics }) h
      exact hrest.symm
    · have hget := congrArg (fun m₀ : Monitor => m₀.metrics.get? name) h
      simpa only [without, NameMap.get?_foldl_erase, if_neg hname] using hget.symm
  · rintro ⟨hrest, hmetrics⟩
    have herased : names.foldl NameMap.erase m.metrics = names.foldl NameMap.erase m'.metrics := by
      refine NameMap.ext fun name => ?_
      rw [NameMap.get?_foldl_erase, NameMap.get?_foldl_erase]
      split
      · rfl
      · rename_i hname
        exact (hmetrics name hname).symm
    rw [without, without, ← herased, hrest]

namespace AlikeBut

theorem refl (m : Monitor) : AlikeBut names m m := ⟨rfl, fun _ _ => rfl⟩

/-- Both are changed in the same way, and not in their metrics. -/
theorem modify (h : AlikeBut names m m') {f : Monitor → Monitor}
    (hf : ∀ m metrics, f { m with metrics := metrics } = { f m with metrics := metrics })
    (hmetrics : ∀ m, (f m).metrics = m.metrics) : AlikeBut names (f m) (f m') := by
  refine ⟨?_, fun name hname => ?_⟩
  · rw [hmetrics, ← hf, ← h.rest]
  · rw [hmetrics, hmetrics, h.metrics name hname]

/-- A metric is written, the same one for both unless its name is among those that may differ. -/
theorem write (h : AlikeBut names m m') (name : String) {x x' : Metric}
    (hx : name ∉ names → x' = x) :
    AlikeBut names { m with metrics := m.metrics.insert name x }
      { m' with metrics := m'.metrics.insert name x' } := by
  refine ⟨?_, fun name' hname => ?_⟩
  · rw [h.rest]
  · dsimp only
    rw [NameMap.get?_insert, NameMap.get?_insert]
    split
    · rename_i he
      subst he
      rw [hx hname]
    · exact h.metrics name' hname

theorem setNumber (h : AlikeBut names m m') (name : String) {value value' : Float}
    (time : Instant) (hvalue : name ∉ names → value' = value) :
    AlikeBut names (m.setNumber name value time) (m'.setNumber name value' time) :=
  h.write name fun hname => by rw [hvalue hname, h.metrics name hname]

/-- A number that may differ is written for one of them. -/
theorem setNumber_left (h : AlikeBut names m m') {name : String} (hname : name ∈ names)
    (value : Float) (time : Instant) : AlikeBut names (m.setNumber name value time) m' := by
  refine ⟨h.rest, fun name' hname' => ?_⟩
  have hne : name ≠ name' := fun he => hname' (he ▸ hname)
  rw [h.metrics name' hname', Monitor.setNumber]
  dsimp only
  rw [NameMap.get?_insert, if_neg hne]

theorem setState (h : AlikeBut names m m') (name value : String) (states : List String)
    (time : Instant) :
    AlikeBut names (m.setState name value states time) (m'.setState name value states time) :=
  h.write name fun hname => by rw [h.metrics name hname]

variable (h : AlikeBut names m m') {recorder : MetricRecorder}

include h

theorem record (name text : String) :
    AlikeBut names (recorder.record m name text).1 (recorder.record m' name text).1 := by
  rw [MetricRecorder.record, MetricRecorder.record]
  split
  · exact h.setState ..
  · cases Text.number? (Text.trim text) with
    | some x => exact h.setNumber name _ fun _ => rfl
    | none => exact h

/-- The baseline that is read is the same for both. -/
theorem recordSince {baseline : String} (hbaseline : baseline ∉ names) (name raw : String)
    {value value' : (last current seconds : Float) → Float}
    (hvalue : name ∉ names → value' = value) :
    AlikeBut names (recorder.recordSince m baseline name raw value).1
      (recorder.recordSince m' baseline name raw value').1 := by
  rw [MetricRecorder.recordSince, MetricRecorder.recordSince, h.metrics baseline hbaseline]
  cases Text.number? raw with
  | none => exact h
  | some current =>
    have hwritten : AlikeBut names (m.setNumber baseline current recorder.time)
        (m'.setNumber baseline current recorder.time) := h.setNumber baseline _ fun _ => rfl
    dsimp only
    cases (m.metrics.get? baseline).bind Metric.number? with
    | none => exact hwritten
    | some last =>
      dsimp only
      split
      · exact hwritten
      · exact hwritten.setNumber name _ fun hname => by rw [hvalue hname]

theorem writeMetric {job : JobContext} (hrate : ∀ name, rateBaseline name ∉ names)
    (hcounter : ∀ name, counterBaseline name ∉ names) (name : String) (value : MetricValue) :
    AlikeBut names (job.writeMetric m name value) (job.writeMetric m' name value) := by
  cases value with
  | plain text => exact h.record name text
  | rate text => exact h.recordSince (hrate name) name text fun _ => rfl
  | counter text =>
    -- The counter itself is read too, but what is read then is only written under the same name.
    exact h.recordSince (hcounter name) name text fun hname => by rw [h.metrics name hname]

theorem writeValues {job : JobContext} (hrate : ∀ name, rateBaseline name ∉ names)
    (hcounter : ∀ name, counterBaseline name ∉ names) (row : InterpretedRow) :
    AlikeBut names (job.writeValues row m) (job.writeValues row m') := by
  rw [JobContext.writeValues, JobContext.writeValues]
  have htexts := h.modify (f := fun m => { m with
    legacyTextParameters := m.legacyTextParameters.insertAll row.legacyTextParameters.toList })
    (fun _ _ => rfl) fun _ => rfl
  revert htexts
  generalize ({ m with legacyTextParameters := _ } : Monitor) = m₁
  generalize ({ m' with legacyTextParameters := _ } : Monitor) = m₁'
  intro htexts
  dsimp only
  induction row.metrics.toList generalizing m₁ m₁' with
  | nil => exact htexts
  | cons e rest ih => exact ih _ _ (htexts.writeMetric hrate hcounter e.1 e.2)

theorem asEndpoint (hostname : String) :
    AlikeBut names (Resource.asEndpoint hostname m) (Resource.asEndpoint hostname m') :=
  h.modify (f := Resource.asEndpoint hostname) (fun _ _ => rfl) fun _ => rfl

end AlikeBut

end Monitor

/-! ## Mappings that look nothing up -/

/-- Whether a directive looks up a monitor. -/
def FunctionCall.isLookup (directive : String) : Bool :=
  (parse? directive).any fun call => call.name = "lookup"

/-- The directives of a mapping. -/
def Mapping.directives (m : Mapping) : List String :=
  m.attributes.values ++ m.metrics.values ++ m.legacyTextParameters.values

/-- Whether a directive of a mapping looks up a monitor. -/
def Mapping.usesLookup (m : Mapping) : Bool := m.directives.any FunctionCall.isLookup

namespace RowReader

variable {row : Row} {number : Nat} {r r' : Resource} {directive : String}

/-- The value of a directive that looks nothing up is the value for any resource. -/
theorem plain?_eq (h : FunctionCall.isLookup directive = false) :
    plain? ⟨row, number, r⟩ directive = plain? ⟨row, number, r'⟩ directive := by
  rw [plain?, plain?]
  cases hcall : FunctionCall.parse? directive with
  | none => rfl
  | some call =>
    have hname : call.name ≠ "lookup" := by simpa [FunctionCall.isLookup, hcall] using h
    dsimp only
    split
    case h_7 he => exact absurd he hname
    all_goals rfl

theorem metric?_eq (h : FunctionCall.isLookup directive = false) :
    metric? ⟨row, number, r⟩ directive = metric? ⟨row, number, r'⟩ directive := by
  rw [metric?, metric?]
  split
  · rfl
  · rfl
  · rw [plain?_eq h]

end RowReader

namespace Mapping

theorem valuesOf_congr {α : Type} {read read' : String → Option α} {directives : NameMap String}
    (h : ∀ directive ∈ directives.values, read directive = read' directive) :
    valuesOf read directives = valuesOf read' directives := by
  rw [valuesOf, valuesOf]
  refine congrArg NameMap.ofList (List.filterMap_congr fun e he => ?_)
  exact congrArg (Option.map fun value => (e.1, value)) (h e.2 (List.mem_map_of_mem he))

/-- A mapping that looks nothing up reads a row for any resource in the same way. -/
theorem interpret_eq {m : Mapping} (h : m.usesLookup = false) (row : Row) (number : Nat)
    (r r' : Resource) : m.interpret ⟨row, number, r⟩ = m.interpret ⟨row, number, r'⟩ := by
  have hdirective : ∀ directive ∈ m.directives, FunctionCall.isLookup directive = false :=
    fun directive hd => by simpa using List.any_eq_false.1 h directive hd
  have hplain (ds : NameMap String) (hds : ds.values ⊆ m.directives) :
      valuesOf (RowReader.plain? ⟨row, number, r⟩) ds =
        valuesOf (RowReader.plain? ⟨row, number, r'⟩) ds :=
    valuesOf_congr fun d hd => RowReader.plain?_eq (hdirective d (hds hd))
  have hmetrics : valuesOf (RowReader.metric? ⟨row, number, r⟩) m.metrics =
      valuesOf (RowReader.metric? ⟨row, number, r'⟩) m.metrics :=
    valuesOf_congr fun d hd => RowReader.metric?_eq (hdirective d (by simp [directives, hd]))
  have hattributes := hplain m.attributes fun d hd => by simp [directives, hd]
  have htexts := hplain m.legacyTextParameters fun d hd => by simp [directives, hd]
  rw [interpret, interpret, hattributes, hmetrics, htexts]

end Mapping

/-! ## What a job sees -/

/-- The metrics for how long the jobs of a connector took. -/
def Connector.durationMetrics (c : Connector) : List String :=
  c.monitors.keys.flatMap fun type => jobPhases.map fun phase => jobDurationMetric phase type c.id

theorem jobDurationMetric_ne_underscores (phase type connector text : String) :
    jobDurationMetric phase type connector ≠ "__" ++ text := by
  unfold jobDurationMetric
  intro h
  have hname : ("hwsentry.job.duration\x7bjob.type=\"" : String).toList.head? = some 'h' := by
    decide +kernel
  have hscores : ("__" : String).toList.head? = some '_' := by decide +kernel
  have hfirst := congrArg (fun name : String => name.toList.head?) h
  simp only [String.toList_append, List.head?_append, hname, hscores, Option.some_or] at hfirst
  exact absurd (Option.some.inj hfirst) (by decide)

namespace Connector

variable (c : Connector)

theorem mem_durationMetrics {type : String} {job : MonitorJob}
    (hjob : c.monitors.get? type = some job) {phase : String} (hphase : phase ∈ jobPhases) :
    jobDurationMetric phase type c.id ∈ c.durationMetrics :=
  List.mem_flatMap.2 ⟨type, List.mem_map_of_mem (NameMap.get?_eq_some_iff.1 hjob),
    List.mem_map_of_mem hphase⟩

theorem underscores_notMem_durationMetrics (text : String) : "__" ++ text ∉ c.durationMetrics := by
  intro h
  obtain ⟨type, -, h⟩ := List.mem_flatMap.1 h
  obtain ⟨phase, -, h⟩ := List.mem_map.1 h
  exact jobDurationMetric_ne_underscores _ _ _ _ h

end Connector

namespace Resource

variable (c : Connector) (type key : String) (r r' : Resource)

/-- The job durations that are noted at a monitor: those of all jobs of a connector at the monitor
of the host, and none at any other. -/
def durationsAt : List String :=
  if type = hostMonitorType ∧ key = r.hostname then c.durationMetrics else []

/-- The resource without the durations of the jobs of a connector. -/
def withoutDurations : Resource :=
  { r with monitors := r.monitors.mapEntries fun type monitors =>
      monitors.mapEntries fun key m => m.without (r.durationsAt c type key) }

/-- What the job of a connector for a type sees: the name of the host and the monitors of the type,
without job durations. -/
def view : String × Option (NameMap Monitor) :=
  (r.hostname, (r.withoutDurations c).monitors.get? type)

theorem underscores_notMem_durationsAt (text : String) :
    "__" ++ text ∉ r.durationsAt c type key := by
  rw [durationsAt]
  split
  · exact c.underscores_notMem_durationMetrics text
  · exact List.not_mem_nil

theorem rateBaseline_notMem_durationsAt (name : String) :
    rateBaseline name ∉ r.durationsAt c type key := by
  rw [rateBaseline, String.append_assoc]
  exact underscores_notMem_durationsAt c type key r _

theorem counterBaseline_notMem_durationsAt (name : String) :
    counterBaseline name ∉ r.durationsAt c type key := by
  rw [counterBaseline, String.append_assoc]
  exact underscores_notMem_durationsAt c type key r _

theorem monitorsOf_withoutDurations : (r.withoutDurations c).monitorsOf type =
    (r.monitorsOf type).mapEntries fun key m => m.without (r.durationsAt c type key) := by
  simp only [monitorsOf, withoutDurations, NameMap.get?_mapEntries]
  cases r.monitors.get? type <;> rfl

theorem at?_withoutDurations : (r.withoutDurations c).at? type key =
    (r.at? type key).map (·.without (r.durationsAt c type key)) := by
  rw [at?, monitorsOf_withoutDurations, NameMap.get?_mapEntries, at?]

theorem view_put (m : Monitor) : (r.put type key m).view c type = (r.hostname,
    some (((r.withoutDurations c).monitorsOf type).insert key
      (m.without (r.durationsAt c type key)))) := by
  have hinsert : ((r.monitorsOf type).insert key m).mapEntries
      (fun key m => m.without (r.durationsAt c type key)) =
      ((r.withoutDurations c).monitorsOf type).insert key
        (m.without (r.durationsAt c type key)) := by
    refine NameMap.ext fun key' => ?_
    rw [monitorsOf_withoutDurations, NameMap.get?_mapEntries, NameMap.get?_insert,
      NameMap.get?_insert, NameMap.get?_mapEntries]
    split
    · rename_i he
      subst he
      rfl
    · rfl
  rw [← hinsert]
  simp only [view, withoutDurations, put, NameMap.get?_mapEntries, NameMap.get?_insert, if_pos]
  rfl

variable {c type r r'} (h : r.view c type = r'.view c type)

include h

theorem hostname_of_view : r'.hostname = r.hostname := (congrArg Prod.fst h).symm

theorem durationsAt_of_view (type' key : String) :
    r'.durationsAt c type' key = r.durationsAt c type' key := by
  rw [durationsAt, durationsAt, hostname_of_view h]

theorem get?_of_view :
    (r.withoutDurations c).monitors.get? type = (r'.withoutDurations c).monitors.get? type :=
  congrArg Prod.snd h

theorem monitorsOf_of_view :
    (r.withoutDurations c).monitorsOf type = (r'.withoutDurations c).monitorsOf type := by
  rw [monitorsOf, monitorsOf, get?_of_view h]

/-- The monitors that are seen under a key are alike. -/
theorem at?_of_view (key : String) :
    Option.Rel (Monitor.AlikeBut (r.durationsAt c type key)) (r.at? type key) (r'.at? type key) := by
  have hat : (r.withoutDurations c).at? type key = (r'.withoutDurations c).at? type key := by
    rw [at?, at?, monitorsOf_of_view h]
  rw [at?_withoutDurations, at?_withoutDurations, durationsAt_of_view h] at hat
  cases hr : r.at? type key with
  | none =>
    cases hr' : r'.at? type key with
    | none => exact .none
    | some m' => simp [hr, hr'] at hat
  | some m =>
    cases hr' : r'.at? type key with
    | none => simp [hr, hr'] at hat
    | some m' =>
      rw [hr, hr', Option.map_some, Option.map_some] at hat
      exact .some (Monitor.without_eq_without_iff.1 (Option.some.inj hat))

theorem found_of_view (connector : Option String) (id : String) :
    (r.found connector type id).AlikeBut (r.durationsAt c type (monitorKey connector id))
      (r'.found connector type id) := by
  have hat := at?_of_view h (monitorKey connector id)
  rw [found, found]
  generalize r.at? type (monitorKey connector id) = o at hat ⊢
  generalize r'.at? type (monitorKey connector id) = o' at hat ⊢
  cases hat with
  | none => exact .refl _
  | some hm => exact hm

theorem map_id_of_view (key : String) :
    (r.at? type key).map Monitor.id = (r'.at? type key).map Monitor.id := by
  have hat := at?_of_view h key
  generalize r.at? type key = o at hat ⊢
  generalize r'.at? type key = o' at hat ⊢
  cases hat with
  | none => rfl
  | some hm => exact congrArg some (congrArg Monitor.id hm.rest).symm

theorem view_put_of_view {key : String} {m m' : Monitor}
    (hm : m.AlikeBut (r.durationsAt c type key) m') :
    (r.put type key m).view c type = (r'.put type key m').view c type := by
  rw [view_put, view_put, monitorsOf_of_view h, hostname_of_view h, durationsAt_of_view h,
    Monitor.without_eq_without_iff.2 hm]

theorem view_upsert_of_view (connector : Option String) (id : String) {f f' : Monitor → Monitor}
    (hf : ∀ m m', m.AlikeBut (r.durationsAt c type (monitorKey connector id)) m' →
      (f m).AlikeBut (r.durationsAt c type (monitorKey connector id)) (f' m')) :
    (r.upsert connector type id f).view c type = (r'.upsert connector type id f').view c type :=
  view_put_of_view h (hf _ _ (found_of_view h connector id))

/-- Monitors that were missed are marked in both. -/
theorem view_markStale_of_view (connector : String) (ids : NameSet) :
    (r.markStale connector type ids).view c type =
      (r'.markStale connector type ids).view c type := by
  have hmark (r : Resource) : (r.markStale connector type ids).view c type = (r.hostname,
      ((r.withoutDurations c).monitors.get? type).map (·.mapEntries fun _ m =>
        if isMissed connector ids m then { m with isStale := true } else m)) := by
    simp only [view, withoutDurations, markStale, NameMap.get?_mapEntries, NameMap.get?_modify,
      Option.map_map]
    refine congrArg (Prod.mk r.hostname) (congrArg (fun f => Option.map f _) (funext fun monitors => ?_))
    refine NameMap.ext fun key => ?_
    simp only [Function.comp_apply, NameMap.get?_mapEntries, Option.map_map, if_true]
    refine congrArg (fun f => Option.map f _) (funext fun m => ?_)
    simp only [Function.comp_apply]
    by_cases hm : isMissed connector ids m = true
    · rw [if_pos hm, if_pos (by exact hm)]
      rfl
    · rw [if_neg hm, if_neg (by exact hm)]
      rfl
  rw [hmark, hmark, hostname_of_view h, get?_of_view h]

end Resource

/-! ## Rows -/

namespace JobContext

variable {job : JobContext} {mapping : Mapping} {r r' : Resource}

theorem existing?_withoutDurations (job : JobContext) (r : Resource) (c : Connector)
    (attributes : NameMap String) :
    job.existing? (r.withoutDurations c) attributes = job.existing? r attributes := by
  rw [existing?, existing?, Resource.monitorsOf_withoutDurations, NameMap.mapEntries, List.find?_map,
    Option.map_map]
  rfl

variable (h : r.view job.connector job.type = r'.view job.connector job.type)

include h

theorem existing?_of_view (attributes : NameMap String) :
    job.existing? r attributes = job.existing? r' attributes := by
  rw [← existing?_withoutDurations job r job.connector, ← existing?_withoutDurations job r'
    job.connector, existing?, existing?, Resource.monitorsOf_of_view h]

theorem view_update_of_view (key : String) (row : InterpretedRow) :
    (job.update r key (job.writeValues row)).view job.connector job.type =
      (job.update r' key (job.writeValues row)).view job.connector job.type := by
  have hat := Resource.at?_of_view h key
  rw [update, update]
  cases hr : r.at? job.type key with
  | none =>
    rw [hr] at hat
    cases hr' : r'.at? job.type key with
    | none => exact h
    | some m' =>
      rw [hr'] at hat
      cases hat
  | some m =>
    rw [hr] at hat
    cases hr' : r'.at? job.type key with
    | none =>
      rw [hr'] at hat
      cases hat
    | some m' =>
      rw [hr'] at hat
      cases hat with
      | some hm =>
        exact Resource.view_put_of_view h (hm.writeValues
          (Resource.rateBaseline_notMem_durationsAt _ _ _ r)
          (Resource.counterBaseline_notMem_durationsAt _ _ _ r) row)

theorem discoverRow_of_view (hl : mapping.usesLookup = false) (ids : NameSet) (row : Nat × Row) :
    (job.discoverRow mapping (r, ids) row).1.view job.connector job.type =
        (job.discoverRow mapping (r', ids) row).1.view job.connector job.type ∧
      (job.discoverRow mapping (r, ids) row).2 = (job.discoverRow mapping (r', ids) row).2 := by
  rw [discoverRow, discoverRow]
  dsimp only
  rw [mapping.interpret_eq hl row.2 row.1 r' r, createOrRenew, createOrRenew]
  cases job.monitorId? (mapping.interpret ⟨row.2, row.1, r⟩).attributes with
  | none => exact ⟨h, rfl⟩
  | some id =>
    have hrenewed := Resource.view_upsert_of_view h (some job.connector.id) id
      fun m m' hm => hm.modify (f := job.renew (mapping.interpret ⟨row.2, row.1, r⟩).attributes)
        (fun _ _ => rfl) fun _ => rfl
    exact ⟨view_update_of_view hrenewed _ _, congrArg (fun id => ids.add (Option.getD id ""))
      (Resource.map_id_of_view hrenewed _)⟩

variable (job) in
omit h in
/-- What a job sees decides which monitors its rows make and what it sees then. -/
theorem view_discover (hl : mapping.usesLookup = false) (rows : List Row)
    (h : r.view job.connector job.type = r'.view job.connector job.type) :
    (job.discover mapping rows r).1.view job.connector job.type =
        (job.discover mapping rows r').1.view job.connector job.type ∧
      (job.discover mapping rows r).2 = (job.discover mapping rows r').2 := by
  rw [discover, discover]
  generalize (NameMap.empty : NameSet) = ids
  induction numbered rows generalizing r r' ids with
  | nil => exact ⟨h, rfl⟩
  | cons row rest ih =>
    obtain ⟨hview, hids⟩ := discoverRow_of_view h hl ids row
    rw [List.foldl_cons, List.foldl_cons]
    revert hview hids
    generalize job.discoverRow mapping (r, ids) row = state
    generalize job.discoverRow mapping (r', ids) row = state'
    obtain ⟨r₁, ids₁⟩ := state
    obtain ⟨r₁', ids₁'⟩ := state'
    rintro hview rfl
    exact ih hview ids₁

theorem collectRow_of_view (hl : mapping.usesLookup = false) (count : Nat) (row : Nat × Row) :
    (job.collectRow mapping (r, count) row).1.view job.connector job.type =
        (job.collectRow mapping (r', count) row).1.view job.connector job.type ∧
      (job.collectRow mapping (r, count) row).2 = (job.collectRow mapping (r', count) row).2 := by
  rw [collectRow, collectRow]
  rw [mapping.interpret_eq hl row.2 row.1 r' r, ← existing?_of_view h]
  cases job.existing? r (mapping.interpret ⟨row.2, row.1, r⟩).attributes with
  | none => exact ⟨h, rfl⟩
  | some key => exact ⟨view_update_of_view h _ _, rfl⟩

variable (job) in
omit h in
/-- What a job sees decides what it sees after the rows of a collection. -/
theorem view_collect (hl : mapping.usesLookup = false) (rows : List Row)
    (h : r.view job.connector job.type = r'.view job.connector job.type) :
    (job.collect mapping rows r).1.view job.connector job.type =
      (job.collect mapping rows r').1.view job.connector job.type := by
  rw [collect, collect]
  generalize 0 = count
  induction numbered rows generalizing r r' count with
  | nil => exact h
  | cons row rest ih =>
    obtain ⟨hview, hcount⟩ := collectRow_of_view h hl count row
    rw [List.foldl_cons, List.foldl_cons]
    revert hview hcount
    generalize job.collectRow mapping (r, count) row = state
    generalize job.collectRow mapping (r', count) row = state'
    obtain ⟨r₁, count₁⟩ := state
    obtain ⟨r₁', count₁'⟩ := state'
    rintro hview rfl
    exact ih hview count₁

variable (job) in
/-- The same for one monitor. -/
theorem view_collectOne (hl : mapping.usesLookup = false) (rows : List Row) (id : String) :
    (job.collectOne mapping rows id r).1.view job.connector job.type =
      (job.collectOne mapping rows id r').1.view job.connector job.type := by
  cases rows with
  | nil => exact h
  | cons row rest =>
    rw [collectOne, collectOne]
    dsimp only
    rw [mapping.interpret_eq hl row 1 r' r]
    exact view_update_of_view h _ _

end JobContext

end HardwareWatch
