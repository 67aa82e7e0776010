import HardwareWatch.Connector.Store
import HardwareWatch.Visit.Jobs
import Mathlib.Data.List.Nodup
import Mathlib.Data.List.Pairwise

/-!
# Where sources are declared

The sources of a connector stand before all jobs, in the discovery of a job, or in its collection.

* `Place` is such a place, `Connector.sourcesAt` lists the sources that run once there.
* `Connector.KeysDistinct` says that no two sources of a connector have one key, which
  `Connector.keysDistinct_of_decode` proves of every connector that was read.
* `Connector.KeysDistinct.eq_of_key_eq` says that a key belongs to one place.
* `Connector.mem_jobs_iff` and `Connector.nodup_types_jobs` say that both phases go through every job
  once.
-/

namespace HardwareWatch

/-- A place of a connector where sources are declared. -/
inductive Place
  /-- Before all jobs. -/
  | pre
  /-- In the discovery of the job for a type. -/
  | discovery (type : String)
  /-- In the collection of the job for a type. -/
  | collection (type : String)

/-- Whether the tables of the sources there are kept for the next cycle. -/
def Place.IsKept : Place → Prop
  | collection _ => False
  | _ => True

/-- The sources that run once when the monitors of a job are collected. There are none where monitors
are collected one by one, or where there is no mapping for them. -/
def JobTasks.collectedSources : JobTasks → List Source
  | .standard _ (some ⟨.multiInstance, ⟨sources, some _⟩⟩) => sources
  | _ => []

/-- The sources of a discovery and those of a collection are declared one after the other. -/
theorem JobTasks.sublist_sources (tasks : JobTasks) :
    ((SourceRun.discoveryTask tasks).sources ++ tasks.collectedSources).Sublist tasks.sources := by
  rcases tasks with ⟨discovery, _ | ⟨⟨⟩, sources, _ | mapping⟩⟩ | task
  all_goals simp [SourceRun.discoveryTask, collectedSources, JobTasks.sources]

namespace Connector

/-- The sources of a place that run once. -/
def sourcesAt (c : Connector) : Place → List Source
  | .pre => c.pre
  | .discovery type =>
    ((c.monitors.get? type).map fun job => (SourceRun.discoveryTask job.tasks).sources).getD []
  | .collection type => ((c.monitors.get? type).map fun job => job.tasks.collectedSources).getD []

/-- No two sources have one key. -/
def KeysDistinct (c : Connector) : Prop := (c.allSources.map Source.key).Nodup

/-- The jobs of a phase. -/
def jobs (c : Connector) : List (String × MonitorJob) := c.leadingJobs ++ c.otherJobs

variable {c : Connector}

theorem exists_job_of_mem_discovery {type : String} {s : Source}
    (hs : s ∈ c.sourcesAt (.discovery type)) : ∃ job, c.monitors.get? type = some job ∧
      s ∈ (SourceRun.discoveryTask job.tasks).sources := by
  rw [sourcesAt] at hs
  cases hjob : c.monitors.get? type with
  | none =>
    rw [hjob] at hs
    cases hs
  | some job =>
    rw [hjob] at hs
    exact ⟨job, rfl, hs⟩

theorem exists_job_of_mem_collection {type : String} {s : Source}
    (hs : s ∈ c.sourcesAt (.collection type)) : ∃ job, c.monitors.get? type = some job ∧
      s ∈ job.tasks.collectedSources := by
  rw [sourcesAt] at hs
  cases hjob : c.monitors.get? type with
  | none =>
    rw [hjob] at hs
    cases hs
  | some job =>
    rw [hjob] at hs
    exact ⟨job, rfl, hs⟩

/-! ## Jobs -/

theorem mem_leadingJobs_iff {type : String} {job : MonitorJob} :
    (type, job) ∈ c.leadingJobs ↔ type ∈ leadingMonitorTypes ∧ c.monitors.get? type = some job := by
  rw [leadingJobs, List.mem_filterMap]
  constructor
  · rintro ⟨type', htype, h⟩
    obtain ⟨job', hjob, he⟩ := Option.map_eq_some_iff.1 h
    cases he
    exact ⟨htype, hjob⟩
  · rintro ⟨htype, hjob⟩
    exact ⟨type, htype, by rw [hjob]; rfl⟩

theorem mem_otherJobs_iff {type : String} {job : MonitorJob} :
    (type, job) ∈ c.otherJobs ↔ type ∉ leadingMonitorTypes ∧ c.monitors.get? type = some job := by
  rw [otherJobs, List.mem_filter, NameMap.get?_eq_some_iff, and_comm]
  simp

/-- A phase goes through the jobs of all types. -/
theorem mem_jobs_iff {type : String} {job : MonitorJob} :
    (type, job) ∈ c.jobs ↔ c.monitors.get? type = some job := by
  rw [jobs, List.mem_append, mem_leadingJobs_iff, mem_otherJobs_iff, ← or_and_right]
  exact and_iff_right (Decidable.em _)

/-- A phase goes through no type twice. -/
theorem nodup_types_jobs : (c.jobs.map Prod.fst).Nodup := by
  have hfirst : (c.leadingJobs.map Prod.fst).Sublist leadingMonitorTypes := by
    rw [leadingJobs]
    induction leadingMonitorTypes with
    | nil => exact List.Sublist.refl _
    | cons type rest ih =>
      cases hget : c.monitors.get? type with
      | none =>
        rw [List.filterMap_cons_none (by rw [hget]; rfl)]
        exact ih.cons type
      | some job =>
        rw [List.filterMap_cons_some (by rw [hget]; rfl), List.map_cons]
        exact ih.cons_cons type
  have hother : (c.otherJobs.map Prod.fst).Nodup := by
    refine List.Nodup.sublist (List.filter_sublist.map Prod.fst) ?_
    refine (List.pairwise_map.2 c.monitors.ascending).imp fun {a b} hlt he => ?_
    exact String.lt_irrefl a (by rwa [he] at hlt ⊢)
  rw [jobs, List.map_append]
  refine List.Nodup.append (hfirst.nodup (by decide)) hother ?_
  intro type hleads hothers
  obtain ⟨⟨_, job⟩, hjob, rfl⟩ := List.mem_map.1 hothers
  exact (mem_otherJobs_iff.1 hjob).1 (hfirst.subset hleads)

/-! ## Keys -/

theorem nodup_of_firstRepeated?_eq_none {seen names : List String}
    (h : firstRepeated? seen names = none) : names.Nodup ∧ ∀ name ∈ names, name ∉ seen := by
  induction names generalizing seen with
  | nil => exact ⟨List.nodup_nil, nofun⟩
  | cons name rest ih =>
    rw [firstRepeated?] at h
    split at h
    · cases h
    · rename_i hname
      obtain ⟨hrest, hseen⟩ := ih h
      refine ⟨List.nodup_cons.2 ⟨fun hmem => hseen name hmem List.mem_cons_self, hrest⟩, ?_⟩
      rintro name' (_ | ⟨_, hname'⟩)
      · exact hname
      · exact fun hs => hseen name' hname' (List.mem_cons_of_mem _ hs)

theorem keysDistinct_of_fault?_eq_none (h : c.fault? = none) : c.KeysDistinct := by
  rw [fault?] at h
  split at h
  · cases h
  · split at h
    · cases h
    · split at h
      · cases h
      · rename_i hkeys
        exact (nodup_of_firstRepeated?_eq_none hkeys).1

theorem map_key_numberSources (sources : List Source) :
    (numberSources sources).map Source.key = sources.map Source.key := by
  refine List.ext_getElem (by simp [numberSources]) fun i _ _ => ?_
  simp [numberSources]

theorem map_key_sources_numbered (tasks : JobTasks) :
    tasks.numbered.sources.map Source.key = tasks.sources.map Source.key := by
  cases tasks with
  | standard discovery collect =>
    cases collect <;> simp [JobTasks.numbered, JobTasks.sources, map_key_numberSources]
  | simple task => exact map_key_numberSources task.sources

theorem map_key_allSources_numbered (c : Connector) :
    c.numbered.allSources.map Source.key = c.allSources.map Source.key := by
  simp [allSources, numbered, map_key_numberSources, List.map_flatMap, NameMap.values,
    NameMap.mapEntries, List.flatMap_map, map_key_sources_numbered]

/-- A connector that was read from a document has no two sources with one key. -/
theorem keysDistinct_of_decode {document : String} (h : decode document = .ok c) :
    c.KeysDistinct := by
  rw [decode] at h
  split at h
  · cases h
  · split at h
    · cases h
    · rename_i hfault
      cases h
      rw [KeysDistinct, map_key_allSources_numbered]
      exact keysDistinct_of_fault?_eq_none hfault

namespace KeysDistinct

variable {s s' : Source} {type type' : String} {job job' : MonitorJob}

/-- A source before all jobs and one of a job. -/
theorem pre_ne_job (h : c.KeysDistinct) (hs : s ∈ c.pre) (hjob : c.monitors.get? type = some job)
    (hs' : s' ∈ job.tasks.sources) : s.key ≠ s'.key := by
  rw [KeysDistinct, allSources, List.map_append, List.nodup_append] at h
  refine h.2.2 _ (List.mem_map_of_mem hs) _ (List.mem_map_of_mem ?_)
  exact List.mem_flatMap.2 ⟨job, List.mem_map_of_mem (NameMap.get?_eq_some_iff.1 hjob), hs'⟩

theorem nodup_pre (h : c.KeysDistinct) : (c.pre.map Source.key).Nodup := by
  rw [KeysDistinct, allSources, List.map_append] at h
  exact h.of_append_left

theorem nodup_jobs (h : c.KeysDistinct) :
    (c.monitors.toList.flatMap fun e => e.2.tasks.sources.map Source.key).Nodup := by
  rw [KeysDistinct, allSources, List.map_append] at h
  have hjobs := h.of_append_right
  rwa [List.map_flatMap, NameMap.values, List.flatMap_map] at hjobs

theorem nodup_job (h : c.KeysDistinct) (hjob : c.monitors.get? type = some job) :
    (job.tasks.sources.map Source.key).Nodup :=
  (List.nodup_flatMap.1 h.nodup_jobs).1 (type, job) (NameMap.get?_eq_some_iff.1 hjob)

/-- A key belongs to the jobs of one type. -/
theorem type_eq (h : c.KeysDistinct) (hjob : c.monitors.get? type = some job)
    (hjob' : c.monitors.get? type' = some job') (hs : s ∈ job.tasks.sources)
    (hs' : s' ∈ job'.tasks.sources) (hk : s.key = s'.key) : type = type' := by
  by_contra hne
  have hsymm : Std.Symm (Function.onFun List.Disjoint fun e : String × MonitorJob =>
      e.2.tasks.sources.map Source.key) := ⟨fun _ _ h _ ha hb => h hb ha⟩
  have hdisjoint := (List.nodup_flatMap.1 h.nodup_jobs).2.forall
    (NameMap.get?_eq_some_iff.1 hjob) (NameMap.get?_eq_some_iff.1 hjob')
    fun he => hne (congrArg Prod.fst he)
  exact hdisjoint (List.mem_map_of_mem hs) (hk ▸ List.mem_map_of_mem hs')

end KeysDistinct

end Connector

end HardwareWatch
