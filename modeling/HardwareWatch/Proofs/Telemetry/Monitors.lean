import HardwareWatch.Mapping.Apply
import HardwareWatch.Visit.Host

/-!
# Monitors after a change

What is found under a key of a resource after the resource was changed.

* `Resource.at?_put` and `Resource.at?_upsert` are about one monitor that was put in place,
  `Resource.at?_markStale` about those that a discovery missed.
* `Resource.Keeps` says what every monitor keeps in a change. It has a rule for every change.
* `Monitor.Rewritten` says that only values of a monitor were written, which is all that the rows of
  a collection do.
-/

namespace HardwareWatch

namespace Resource

variable (r : Resource) (type key : String)

theorem monitorsOf_put (m : Monitor) (type' : String) :
    (r.put type key m).monitorsOf type' =
      if type = type' then (r.monitorsOf type).insert key m else r.monitorsOf type' := by
  simp only [monitorsOf, put, NameMap.get?_insert]
  split <;> rfl

theorem at?_put (m : Monitor) (type' key' : String) :
    (r.put type key m).at? type' key' =
      if type = type' ∧ key = key' then some m else r.at? type' key' := by
  rw [at?, monitorsOf_put]
  by_cases ht : type = type'
  · subst ht
    simp [NameMap.get?_insert, at?]
  · simp [ht, at?]

theorem at?_upsert (connector : Option String) (id : String) (f : Monitor → Monitor)
    (type' key' : String) :
    (r.upsert connector type id f).at? type' key' =
      if type = type' ∧ monitorKey connector id = key' then some (f (r.found connector type id))
      else r.at? type' key' :=
  at?_put ..

theorem at?_markStale (connector : String) (ids : NameSet) (type' key' : String) :
    (r.markStale connector type ids).at? type' key' = (r.at? type' key').map fun m =>
      if type' = type ∧ isMissed connector ids m then { m with isStale := true } else m := by
  simp only [at?, monitorsOf, markStale, NameMap.get?_modify]
  cases r.monitors.get? type' with
  | none => rfl
  | some monitors =>
    by_cases ht : type' = type
    · simp [ht, NameMap.get?_mapEntries]
    · simp [ht]

/-! ## What monitors keep -/

/-- All monitors are still there, each related to what it was. -/
def Keeps (P : Monitor → Monitor → Prop) (r r' : Resource) : Prop :=
  ∀ type key m, r.at? type key = some m → ∃ m', r'.at? type key = some m' ∧ P m m'

namespace Keeps

variable {P Q : Monitor → Monitor → Prop} {r r' r'' : Resource}

theorem mono (h : Keeps P r r') (hPQ : ∀ m m', P m m' → Q m m') : Keeps Q r r' := by
  intro type key m hm
  obtain ⟨m', hm', hP⟩ := h type key m hm
  exact ⟨m', hm', hPQ m m' hP⟩

theorem refl (hP : ∀ m, P m m) (r : Resource) : Keeps P r r := fun _ _ m hm => ⟨m, hm, hP m⟩

theorem trans (hP : ∀ a b c, P a b → P b c → P a c) (h : Keeps P r r') (h' : Keeps P r' r'') :
    Keeps P r r'' := by
  intro type key m hm
  obtain ⟨m', hm', h₁⟩ := h type key m hm
  obtain ⟨m'', hm'', h₂⟩ := h' type key m' hm'
  exact ⟨m'', hm'', hP m m' m'' h₁ h₂⟩

theorem put (hP : ∀ m, P m m) {type key : String} {m : Monitor}
    (hm : ∀ m₀, r.at? type key = some m₀ → P m₀ m) : Keeps P r (r.put type key m) := by
  intro type' key' m₀ hm₀
  rw [at?_put]
  split
  · rename_i h
    obtain ⟨rfl, rfl⟩ := h
    exact ⟨m, rfl, hm m₀ hm₀⟩
  · exact ⟨m₀, hm₀, hP m₀⟩

theorem upsert (hP : ∀ m, P m m) {connector : Option String} {type id : String}
    {f : Monitor → Monitor}
    (hf : ∀ m, r.at? type (monitorKey connector id) = some m → P m (f m)) :
    Keeps P r (r.upsert connector type id f) := by
  refine put hP fun m hm => ?_
  rw [found, hm]
  exact hf m hm

theorem markStale {connector type : String} {ids : NameSet} (hP : ∀ m, P m m)
    (hs : ∀ m, isMissed connector ids m = true → P m { m with isStale := true }) :
    Keeps P r (r.markStale connector type ids) := by
  intro type' key m hm
  rw [at?_markStale, hm]
  refine ⟨_, rfl, ?_⟩
  dsimp only
  split
  · rename_i h
    exact hs m h.2
  · exact hP m

end Keeps

end Resource

/-! ## Monitors whose values are written -/

namespace Monitor

/-- Only metrics and legacy parameters of the monitor were written. -/
def Rewritten (m m' : Monitor) : Prop :=
  m' = { m with metrics := m'.metrics, legacyTextParameters := m'.legacyTextParameters }

namespace Rewritten

variable {m m' m'' : Monitor}

theorem refl (m : Monitor) : Rewritten m m := rfl

theorem trans (h : Rewritten m m') (h' : Rewritten m' m'') : Rewritten m m'' := by
  rw [Rewritten] at *
  rw [h', h]

theorem setNumber (m : Monitor) (name : String) (value : Float) (time : Instant) :
    Rewritten m (m.setNumber name value time) := rfl

theorem setState (m : Monitor) (name value : String) (states : List String) (time : Instant) :
    Rewritten m (m.setState name value states time) := rfl

end Rewritten

end Monitor

namespace MetricRecorder

variable (recorder : MetricRecorder) (m : Monitor) (name text : String)

theorem rewritten_record : m.Rewritten (recorder.record m name text).1 := by
  rw [record]
  split
  · exact .setState ..
  · cases Text.number? (Text.trim text) with
    | some x => exact .setNumber ..
    | none => exact .refl m

theorem rewritten_recordSince (baseline : String)
    (value : (last current seconds : Float) → Float) :
    m.Rewritten (recorder.recordSince m baseline name text value).1 := by
  rw [recordSince]
  split
  · exact .refl m
  · dsimp only
    split
    · exact .setNumber ..
    · split
      · exact .setNumber ..
      · exact (Monitor.Rewritten.setNumber ..).trans (.setNumber ..)

end MetricRecorder

namespace JobContext

variable (job : JobContext) (r : Resource)

theorem rewritten_writeMetric (m : Monitor) (name : String) (value : MetricValue) :
    m.Rewritten (job.writeMetric m name value) := by
  cases value with
  | plain text => exact job.recorder.rewritten_record m name text
  | rate text => exact job.recorder.rewritten_recordSince m name text ..
  | counter text => exact job.recorder.rewritten_recordSince m name text ..

theorem rewritten_writeValues (row : InterpretedRow) (m : Monitor) :
    m.Rewritten (job.writeValues row m) := by
  refine List.foldlRecOn (motive := m.Rewritten) _ _ rfl fun m' h e _ => ?_
  exact h.trans (job.rewritten_writeMetric m' e.1 e.2)

/-- The monitor under the key was changed, and no other one. -/
theorem keeps_update {P : Monitor → Monitor → Prop} (hP : ∀ m, P m m) {key : String}
    {f : Monitor → Monitor} (hf : ∀ m, r.at? job.type key = some m → P m (f m)) :
    r.Keeps P (job.update r key f) := by
  rw [update]
  split
  · rename_i m hm
    refine .put hP fun m₀ hm₀ => ?_
    rw [hm] at hm₀
    cases hm₀
    exact hf m hm
  · exact .refl hP r

theorem keeps_writeValues (key : String) (row : InterpretedRow) :
    r.Keeps Monitor.Rewritten (job.update r key (job.writeValues row)) :=
  job.keeps_update r .refl fun m _ => job.rewritten_writeValues row m

theorem keeps_collect (mapping : Mapping) (rows : List Row) :
    r.Keeps Monitor.Rewritten (job.collect mapping rows r).1 := by
  refine List.foldlRecOn (motive := fun (state : Resource × Nat) =>
    r.Keeps Monitor.Rewritten state.1) _ _ (Resource.Keeps.refl .refl r) fun state h row _ => ?_
  rw [collectRow]
  split
  · exact h
  · exact h.trans (fun _ _ _ => .trans) (job.keeps_writeValues state.1 _ _)

theorem keeps_collectOne (mapping : Mapping) (rows : List Row) (id : String) :
    r.Keeps Monitor.Rewritten (job.collectOne mapping rows id r).1 := by
  cases rows with
  | nil => exact .refl .refl r
  | cons row rest => exact job.keeps_writeValues r _ _

end JobContext

end HardwareWatch
