import HardwareWatch.Proofs.Telemetry.Monitors
import HardwareWatch.Proofs.Visit.JobChanges

/-!
# Changes within one type

Monitors are kept by type, and whoever works on the monitors of one type leaves those of the others
as they are.

* `Resource.Confined` says that only the monitors of a type are changed. It has a rule for every
  change.
* `Resource.JobChange` is a change that a job makes: one that is confined to its type, or the
  duration of a job noted for the host.
* `SourceRun.jobChanges_discoverJob` and `SourceRun.jobChanges_collectIfAny` say that jobs make no
  other changes.
-/

namespace HardwareWatch

open Activity

namespace Resource

/-- Only the monitors of a type are changed. -/
structure Confined (type : String) (r r' : Resource) : Prop where
  rest : r' = { r with monitors := r'.monitors }
  others : ∀ type', type' ≠ type → r'.monitors.get? type' = r.monitors.get? type'

namespace Confined

variable {type : String} {r r' r'' : Resource}

theorem refl (r : Resource) : Confined type r r := ⟨rfl, fun _ _ => rfl⟩

theorem trans (h : Confined type r r') (h' : Confined type r' r'') : Confined type r r'' := by
  refine ⟨?_, fun type' ht => (h'.others type' ht).trans (h.others type' ht)⟩
  rw [h'.rest, h.rest]

theorem put (r : Resource) (key : String) (m : Monitor) : Confined type r (r.put type key m) :=
  ⟨rfl, fun type' ht => by rw [Resource.put, NameMap.get?_insert, if_neg (Ne.symm ht)]⟩

theorem upsert (r : Resource) (connector : Option String) (id : String) (f : Monitor → Monitor) :
    Confined type r (r.upsert connector type id f) := put ..

theorem updateEndpoint (r : Resource) (f : Monitor → Monitor) :
    Confined hostMonitorType r (r.updateEndpoint f) := upsert ..

theorem markStale (r : Resource) (connector : String) (ids : NameSet) :
    Confined type r (r.markStale connector type ids) := by
  refine ⟨rfl, fun type' ht => ?_⟩
  rw [Resource.markStale, NameMap.get?_modify]
  simp only [if_neg ht, Option.map_id']

end Confined

end Resource

/-! ## Rows -/

namespace JobContext

open Resource

variable (job : JobContext) (mapping : Mapping) (rows : List Row) (r : Resource)

theorem confined_update (key : String) (f : Monitor → Monitor) :
    Confined job.type r (job.update r key f) := by
  rw [update]
  split
  · exact .put ..
  · exact .refl r

theorem confined_discoverRow (state : Resource × NameSet) (row : Nat × Row) :
    Confined job.type state.1 (job.discoverRow mapping state row).1 := by
  rw [discoverRow]
  dsimp only
  split
  · exact .refl _
  · rename_i r' key h
    obtain ⟨id, -, hr⟩ := Option.map_eq_some_iff.1 h
    obtain ⟨rfl, -⟩ := Prod.mk.inj hr
    exact (Confined.upsert ..).trans (job.confined_update _ key _)

theorem confined_discover : Confined job.type r (job.discover mapping rows r).1 :=
  List.foldlRecOn (motive := fun (state : Resource × NameSet) => Confined job.type r state.1) _ _
    (.refl r) fun state h row _ => h.trans (job.confined_discoverRow mapping state row)

theorem confined_collectRow (state : Resource × Nat) (row : Nat × Row) :
    Confined job.type state.1 (job.collectRow mapping state row).1 := by
  rw [collectRow]
  split
  · exact .refl _
  · exact job.confined_update ..

theorem confined_collect : Confined job.type r (job.collect mapping rows r).1 :=
  List.foldlRecOn (motive := fun (state : Resource × Nat) => Confined job.type r state.1) _ _
    (.refl r) fun state h row _ => h.trans (job.confined_collectRow mapping state row)

theorem confined_collectOne (id : String) :
    Confined job.type r (job.collectOne mapping rows id r).1 := by
  cases rows with
  | nil => exact .refl r
  | cons row rest => exact job.confined_update ..

end JobContext

/-! ## Jobs -/

/-- The phases that jobs run in, as they are called where durations are noted. -/
def jobPhases : List String := ["discovery", "collect"]

/-- A change that a job for a type makes. -/
inductive Resource.JobChange (connector type : String) : Resource → Resource → Prop
  | confined {r r' : Resource} (h : r.Confined type r') : JobChange connector type r r'
  /-- The duration of a job is noted. -/
  | duration (r : Resource) {phase : String} (hphase : phase ∈ jobPhases) (value : Float)
      (time : Instant) :
    JobChange connector type r
      (r.updateEndpoint (·.setNumber (jobDurationMetric phase type connector) value time))

/-- A job changes monitors only. -/
theorem Resource.JobChange.rest {connector type : String} {r r' : Resource}
    (h : r.JobChange connector type r') : r' = { r with monitors := r'.monitors } := by
  cases h with
  | confined h => exact h.rest
  | duration => rfl

namespace SourceRun

open Resource

variable (x : SourceRun) (type : String) (job : MonitorJob)

theorem jobChanges_discoverJob (base : Harvest) :
    ChangesOnly (JobChange x.connector.id type) (x.discoverJob base type job) :=
  .discoverJob (fun mapping rows r => .confined ((x.jobContext type job).confined_discover mapping
    rows r)) (fun ids r => .confined (.markStale r x.connector.id ids))
    fun value r => .duration r (by simp [jobPhases]) value _

theorem jobChanges_collectIfAny (tables : Namespace) :
    ChangesOnly (JobChange x.connector.id type) (x.collectIfAny tables type job) :=
  .collectIfAny (fun r => .confined (.refl r))
    (fun mapping rows r => .confined ((x.jobContext type job).confined_collect mapping rows r))
    (fun mapping rows id r => .confined ((x.jobContext type job).confined_collectOne mapping rows r
      id)) fun value r => .duration r (by simp [jobPhases]) value _

end SourceRun

end HardwareWatch
