import HardwareWatch.Proofs.Telemetry.Alike
import HardwareWatch.Proofs.Visit.JobChanges

/-!
# The monitor of the host among the jobs

All jobs note how long they took at the monitor of the host, which the first of them makes if there
is none. Apart from this note no job touches what another one sees.

* `Connector.JobsChange` is a change by a job of a connector, `Connector.OthersChange` one by a job
  for another type.
* `Connector.OthersChange.view_eq` says that such a change does not touch what a job for another
  type sees, unless this is the host itself. `Connector.OthersChange.view_withEndpoint` says that
  the host is the same then, once it has its monitor.
* `Resource.HasEndpoint` says that it has, and that nothing is left to be done to it.
* `Resource.withoutDurations_eq_iff` says that resources are the same without durations if all jobs
  would see the same.
-/

namespace HardwareWatch

namespace Resource

variable {c : Connector} {type type' : String} {r r' s : Resource}

/-- The resource once there is a monitor that stands for the host. -/
def withEndpoint (r : Resource) : Resource := r.updateEndpoint fun m => m

/-! ## What is seen after a change -/

/-- Resources are the same without durations if the same is seen of every type. -/
theorem withoutDurations_eq_iff : r'.withoutDurations c = r.withoutDurations c ↔
    r' = { r with monitors := r'.monitors } ∧ ∀ type, r'.view c type = r.view c type := by
  constructor
  · intro h
    refine ⟨?_, fun type => ?_⟩
    · have hrest := congrArg (fun r₀ : Resource => { r₀ with monitors := r'.monitors }) h
      exact hrest
    · have hname := congrArg (fun r₀ : Resource => r₀.hostname) h
      exact Prod.ext hname (congrArg (fun r₀ : Resource => r₀.monitors.get? type) h)
  · rintro ⟨hrest, hview⟩
    have hmonitors : (r'.withoutDurations c).monitors = (r.withoutDurations c).monitors :=
      NameMap.ext fun type => congrArg Prod.snd (hview type)
    have hrest' : r'.withoutDurations c =
        { r with monitors := (r'.withoutDurations c).monitors } := by
      conv_lhs => rw [withoutDurations, hrest]
      rw [withoutDurations, hrest]
    rw [hrest', hmonitors, withoutDurations]

theorem view_of_confined (h : Confined type' r s) (hne : type ≠ type') :
    s.view c type = r.view c type := by
  have hname : s.hostname = r.hostname := by rw [h.rest]
  have hdurations (key : String) : s.durationsAt c type key = r.durationsAt c type key := by
    rw [durationsAt, durationsAt, hname]
  simp only [view, withoutDurations, NameMap.get?_mapEntries, h.others type hne, hname, hdurations]

theorem view_updateEndpoint_of_ne (hne : type ≠ hostMonitorType) (f : Monitor → Monitor) :
    (r.updateEndpoint f).view c type = r.view c type :=
  view_of_confined (.updateEndpoint r f) hne

/-- The monitor of the host is changed in two resources in the same way, apart from durations. -/
theorem view_updateEndpoint_of_view (h : r.view c hostMonitorType = r'.view c hostMonitorType)
    {f f' : Monitor → Monitor} (hf : ∀ m m', m.AlikeBut c.durationMetrics m' →
      (f m).AlikeBut c.durationMetrics (f' m')) :
    (r.updateEndpoint f).view c hostMonitorType = (r'.updateEndpoint f').view c hostMonitorType := by
  rw [updateEndpoint, updateEndpoint, hostname_of_view h]
  refine view_upsert_of_view h _ _ fun m m' hm => ?_
  have hkey : r.durationsAt c hostMonitorType (monitorKey none r.hostname) = c.durationMetrics :=
    if_pos ⟨rfl, rfl⟩
  rw [hkey] at hm ⊢
  exact hf _ _ (hm.asEndpoint r.hostname)

/-- A duration that is noted is not seen, but that there is a monitor of the host is. -/
theorem view_note {name : String} (hname : name ∈ c.durationMetrics) (value : Float)
    (time : Instant) : (r.updateEndpoint (·.setNumber name value time)).view c hostMonitorType =
      r.withEndpoint.view c hostMonitorType :=
  view_updateEndpoint_of_view rfl fun _ _ hm => hm.setNumber_left hname value time

/-! ## A host that has its monitor -/

/-- There is a monitor that stands for the host. -/
def HasEndpoint (r : Resource) : Prop :=
  ∃ m, r.at? hostMonitorType r.hostname = some m ∧ m.isEndpoint = true ∧
    m.attributes.contains "host.name" = true

theorem put_of_at? {key : String} {m : Monitor} (h : r.at? type key = some m) :
    r.put type key m = r := by
  rw [at?, monitorsOf] at h
  cases hget : r.monitors.get? type with
  | none => simp [hget] at h
  | some monitors =>
    rw [hget, Option.getD_some] at h
    have hinner : (r.monitorsOf type).insert key m = monitors := by
      rw [monitorsOf, hget, Option.getD_some, NameMap.insert_of_get? h]
    rw [put, hinner, NameMap.insert_of_get? hget]

theorem HasEndpoint.withEndpoint_eq (h : r.HasEndpoint) : r.withEndpoint = r := by
  obtain ⟨m, hm, hendpoint, hname⟩ := h
  have hfound : r.found none hostMonitorType r.hostname = m := by rw [found, monitorKey, hm]; rfl
  have hsame : asEndpoint r.hostname m = m := by
    rw [asEndpoint, if_pos hname, ← hendpoint]
  rw [withEndpoint, updateEndpoint, upsert, hfound, hsame]
  exact put_of_at? hm

/-- The monitor of the host is there once something was written for it. -/
theorem hasEndpoint_updateEndpoint {f : Monitor → Monitor}
    (hf : ∀ m, (f m).isEndpoint = m.isEndpoint ∧ (f m).attributes = m.attributes) :
    (r.updateEndpoint f).HasEndpoint := by
  refine ⟨f (asEndpoint r.hostname (r.found none hostMonitorType r.hostname)), ?_, ?_, ?_⟩
  · exact (at?_put ..).trans (if_pos ⟨rfl, rfl⟩)
  · rw [(hf _).1, asEndpoint]
  · rw [(hf _).2, asEndpoint]
    dsimp only
    split
    · assumption
    · simp [NameMap.contains, NameMap.get?_insert]

theorem hasEndpoint_note (r : Resource) (name : String) (value : Float) (time : Instant) :
    (r.updateEndpoint (·.setNumber name value time)).HasEndpoint :=
  hasEndpoint_updateEndpoint fun _ => ⟨rfl, rfl⟩

theorem Confined.hasEndpoint (h : Confined type r s) (hne : type ≠ hostMonitorType)
    (hr : r.HasEndpoint) : s.HasEndpoint := by
  obtain ⟨m, hm, hendpoint⟩ := hr
  have hname : s.hostname = r.hostname := by rw [h.rest]
  refine ⟨m, ?_, hendpoint⟩
  rw [at?, monitorsOf, h.others _ (Ne.symm hne), hname]
  exact hm

/-- The monitor of the host stays what it is when values are collected. -/
theorem CollectionChange.hasEndpoint (h : r.CollectionChange s) (hr : r.HasEndpoint) :
    s.HasEndpoint := by
  have hkept {s : Resource} (hname : s.hostname = r.hostname) (hs : r.Keeps Monitor.Rewritten s) :
      s.HasEndpoint := by
    obtain ⟨m, hm, hendpoint, hattributes⟩ := hr
    obtain ⟨m', hm', hrewritten⟩ := hs _ _ m hm
    refine ⟨m', hname ▸ hm', ?_, ?_⟩
    · rw [hrewritten]
      exact hendpoint
    · rw [hrewritten]
      exact hattributes
  cases h with
  | none => exact hr
  | rows job mapping rows =>
    exact hkept (by rw [(job.confined_collect mapping rows r).rest]) (job.keeps_collect r mapping rows)
  | row job mapping rows id =>
    exact hkept (by rw [(job.confined_collectOne mapping rows r id).rest])
      (job.keeps_collectOne r mapping rows id)
  | endpoint name value time => exact hasEndpoint_note ..

end Resource

/-! ## The changes of jobs -/

namespace Connector

open Resource

/-- A change that a job of a connector makes. -/
def JobsChange (c : Connector) (r r' : Resource) : Prop :=
  ∃ type job, c.monitors.get? type = some job ∧ r.JobChange c.id type r'

/-- A change that a job of a connector for another type makes. -/
def OthersChange (c : Connector) (type : String) (r r' : Resource) : Prop :=
  ∃ type' job, type' ≠ type ∧ c.monitors.get? type' = some job ∧ r.JobChange c.id type' r'

variable {c : Connector} {type : String} {r s : Resource}

/-- Where there is no job for a type, all jobs are for other ones. -/
theorem JobsChange.others (h : c.JobsChange r s) (hnone : c.monitors.get? type = none) :
    c.OthersChange type r s := by
  obtain ⟨type', job, hjob, hchange⟩ := h
  refine ⟨type', job, fun he => ?_, hjob, hchange⟩
  rw [he, hnone] at hjob
  cases hjob

namespace OthersChange

/-- **A change by another job** is not seen. -/
theorem view_eq (h : c.OthersChange type r s) (hne : type ≠ hostMonitorType) :
    s.view c type = r.view c type := by
  obtain ⟨type', job, htype, -, hchange⟩ := h
  cases hchange with
  | confined h => exact view_of_confined h (Ne.symm htype)
  | duration => exact view_updateEndpoint_of_ne hne _

theorem hasEndpoint (h : c.OthersChange hostMonitorType r s) (hr : r.HasEndpoint) :
    s.HasEndpoint := by
  obtain ⟨type', job, htype, -, hchange⟩ := h
  cases hchange with
  | confined h => exact h.hasEndpoint htype hr
  | duration => exact hasEndpoint_note ..

/-- **A change by another job** is not seen at the host either, once it has its monitor. -/
theorem view_withEndpoint (h : c.OthersChange hostMonitorType r s) :
    s.withEndpoint.view c hostMonitorType = r.withEndpoint.view c hostMonitorType := by
  obtain ⟨type', job, htype, hjob, hchange⟩ := h
  cases hchange with
  | confined h =>
    exact view_updateEndpoint_of_view (view_of_confined h (Ne.symm htype)) fun _ _ hm => hm
  | duration hphase value time =>
    rw [(hasEndpoint_note ..).withEndpoint_eq]
    exact view_note (c.mem_durationMetrics hjob hphase) value time

end OthersChange

end Connector

end HardwareWatch
