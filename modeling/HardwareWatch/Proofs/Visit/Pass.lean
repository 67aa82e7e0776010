import HardwareWatch.Proofs.Activity.Finish
import HardwareWatch.Proofs.Connector.Places
import HardwareWatch.Proofs.Sources.Course
import HardwareWatch.Proofs.Sources.Waves
import HardwareWatch.Proofs.Visit.Discovery

/-!
# The tables that a run of a connector leaves

A run of a connector keeps the tables of the sources before all jobs and of the discoveries for the
next cycle. The collections work on these tables, and what their own sources give is not kept.

* `Visit.gather` is the run of a connector without its first and last step, `Visit.run_runConnector`
  puts the three together.
* `Pass` says how the sources of a connector went and what is kept of their tables.
* `exists_pass_of_runs_gather` says that every run of a connector is such a pass.
-/

namespace HardwareWatch

open Activity SourceRun

/-! ## Tables put together -/

namespace Namespace

theorem get?_foldl_insertNew (entries : List (String × Table)) (tables : Namespace) (k : String) :
    (entries.foldl (fun tables (e : String × Table) =>
      if tables.contains e.1 then tables else tables.insert e.1 e.2) tables).get? k =
      (tables.get? k).or (NameMap.lookup k entries) := by
  induction entries generalizing tables with
  | nil => simp [NameMap.lookup]
  | cons e rest ih =>
    obtain ⟨name, t⟩ := e
    rw [List.foldl_cons, ih, NameMap.lookup]
    dsimp only
    by_cases hk : name = k
    · subst hk
      cases h : tables.get? name <;> simp [NameMap.contains, h, NameMap.get?_insert]
    · rw [if_neg hk]
      split
      · rfl
      · rw [NameMap.get?_insert, if_neg hk]

theorem get?_extend (tables more : Namespace) (k : String) :
    (tables.extend more).get? k = (tables.get? k).or (more.get? k) :=
  get?_foldl_insertNew more.toList tables k

/-- What some tables that are put together have under a key, where each of them has this or nothing. -/
theorem get?_foldl_extend {base : Namespace} {more : List Namespace} {k : String} {o : Option Table}
    (h : ∀ tables ∈ base :: more, tables.get? k = none ∨ tables.get? k = o)
    (ho : ∃ tables ∈ base :: more, tables.get? k = o) :
    (more.foldl extend base).get? k = o := by
  induction more generalizing base with
  | nil =>
    obtain ⟨tables, hmem, hget⟩ := ho
    rwa [List.mem_singleton.1 hmem] at hget
  | cons first rest ih =>
    have hbase := h base List.mem_cons_self
    have hfirst := h first (List.mem_cons_of_mem _ List.mem_cons_self)
    have hget := get?_extend base first k
    refine ih ?_ ?_
    · rintro tables (_ | ⟨_, hmem⟩)
      · rw [hget]
        rcases hbase with hb | hb <;> rcases hfirst with hf | hf <;> cases o <;> simp [hb, hf]
      · exact h tables (List.mem_cons_of_mem _ (List.mem_cons_of_mem _ hmem))
    · obtain ⟨tables, hmem, htables⟩ := ho
      rcases List.mem_cons.1 hmem with rfl | hmem
      · refine ⟨_, List.mem_cons_self, ?_⟩
        rw [hget, htables]
        rcases hfirst with hf | hf <;> cases o <;> simp [hf]
      · rcases List.mem_cons.1 hmem with rfl | hmem
        · refine ⟨_, List.mem_cons_self, ?_⟩
          rw [hget, htables]
          rcases hbase with hb | hb <;> cases o <;> simp [hb]
        · exact ⟨tables, List.mem_cons_of_mem _ hmem, htables⟩

end Namespace

/-! ## The run between its first and its last step -/

namespace Resource

/-- The resource with the tables of a connector in the current cycle. -/
def keepTables (r : Resource) (connector : String) (tables : Namespace) : Resource :=
  { r with tables := r.tables.insert connector tables }

@[simp] theorem tablesOf_keepTables (r : Resource) (connector : String) (tables : Namespace) :
    (r.keepTables connector tables).tablesOf connector = tables := by
  simp [tablesOf, keepTables, NameMap.get?_insert]

end Resource

namespace Visit

/-- What a run of a connector does after its look at the tables of the cycle before and before it
writes its own: those tables, and the states of discovery and of collection. -/
def gather (v : Visit) (c : Connector) (previous : Namespace) :
    Activity (Namespace × PhaseState × PhaseState) := do
  let x : SourceRun := ⟨v, c, previous⟩
  let base ← x.runSources none c.pre .empty
  let discovered ← x.overJobs (x.discoverJob base)
  let tables := (discovered.map Prod.snd).foldl Namespace.extend base.tables
  let collected ← x.overJobs (x.collectIfAny tables)
  return (tables, .ofJobs (discovered.map Prod.fst), .ofJobs (collected.filterMap id))

theorem runConnector_eq (v : Visit) (c : Connector) :
    v.runConnector c = (do
      let previous ← Activity.work fun r => (r.tablesOf c.id, r.rotateTables c.id)
      let found ← v.gather c previous
      Activity.modify (·.keepTables c.id found.1)
      return found.2) := by
  simp only [runConnector, gather, LawfulMonad.bind_assoc, pure_bind]
  rfl

/-- **A run of a connector**, step by step. -/
theorem run_runConnector {σ : Type} (network : Network σ) (v : Visit) (c : Connector)
    (s : Site σ) :
    let rotated := { s with resource := s.resource.rotateTables c.id }
    let found := (v.gather c (s.resource.tablesOf c.id)).finish network rotated
    (v.runConnector c).run network none s = (found.1.2,
      { found.2 with resource := found.2.resource.keepTables c.id found.1.1 }) := by
  intro rotated found
  have hfinish : (v.runConnector c).run network none s =
      (v.runConnector c).finish network s := run_eq_finish_of_wake rfl rfl
  rw [hfinish, runConnector_eq, finish_bind, finish_work, finish_bind, finish_bind, finish_modify,
    finish_pure]

/-- The tables that a run of a connector leaves. -/
theorem tablesOf_run_runConnector {σ : Type} (network : Network σ) (v : Visit) (c : Connector)
    (s : Site σ) :
    ((v.runConnector c).run network none s).2.resource.tablesOf c.id =
      ((v.gather c (s.resource.tablesOf c.id)).finish network
        { s with resource := s.resource.rotateTables c.id }).1.1 := by
  rw [run_runConnector, Resource.tablesOf_keepTables]

end Visit

/-! ## The sources of a job -/

variable {w : Surroundings} {x : SourceRun} {type : String} {job : MonitorJob} {cs : Multiset Change}
  {base : Harvest} {tables found : Namespace} {state : PhaseState}

/-- Steps up to a time are the first ones of the steps, without a time limit. -/
theorem Activity.exists_prefix_of_runs_foldBefore {β ι : Type} {deadline : Nat}
    {step : β → ι → Activity β} {l : List ι} {b b' : β} {complete : Bool}
    (h : Runs w (foldBefore deadline step l b) cs (some (b', complete))) :
    ∃ first cs', first <+: l ∧ Runs w (first.foldlM step b) cs' (some b') := by
  induction l generalizing b cs with
  | nil =>
    cases h with
    | done => exact ⟨[], 0, List.prefix_refl _, .done⟩
  | cons i rest ih =>
    cases h with
    | within b₁ hfirst h =>
      obtain ⟨first, cs', hle, hrun⟩ := ih h
      exact ⟨i :: first, _, List.cons_prefix_cons.2 ⟨rfl, hle⟩,
        by rw [List.foldlM_cons]; exact runs_bind_of_runs hfirst hrun⟩
    | late hl hfirst h =>
      cases h with
      | done => exact ⟨[], 0, List.nil_prefix, .done⟩

/-- Outcomes of sources that were run wave by wave, all of them or those of the first waves. -/
def GathersFirst (w : Surroundings) (x : SourceRun) (tables : Namespace) (sources : List Source)
    (os : List SourceOutcome) : Prop :=
  ∃ waves, waves <+: dependencyWaves sources ∧ Gathers w x none ⟨tables, .empty⟩ waves os

namespace GathersFirst

variable {sources : List Source} {os : List SourceOutcome}

theorem of_gathers (h : Gathers w x none ⟨tables, .empty⟩ (dependencyWaves sources) os) :
    GathersFirst w x tables sources os := ⟨_, List.prefix_refl _, h⟩

theorem nil : GathersFirst w x tables sources [] := ⟨[], List.nil_prefix, .done _⟩

theorem subperm (h : GathersFirst w x tables sources os) : (os.map Prod.fst).Subperm sources := by
  obtain ⟨waves, ⟨rest, hrest⟩, hg⟩ := h
  have hperm := perm_flatten_dependencyWaves sources
  rw [← hrest, List.flatten_append] at hperm
  rw [hg.map_fst]
  exact (List.sublist_append_left ..).subperm.trans hperm.subperm

theorem nodup_keys (h : GathersFirst w x tables sources os)
    (hkeys : (sources.map Source.key).Nodup) : (os.map SourceOutcome.key).Nodup := by
  obtain ⟨first, hperm, hsub⟩ := h.subperm
  have hnodup := hkeys.sublist (hsub.map Source.key)
  rw [(hperm.map Source.key).nodup_iff, List.map_map] at hnodup
  exact hnodup

theorem mem_sources (h : GathersFirst w x tables sources os) {o : SourceOutcome} (ho : o ∈ os) :
    o.1 ∈ sources := h.subperm.subset (List.mem_map_of_mem ho)

end GathersFirst

theorem SourceRun.Gathers.exists_outcome {h : Harvest} {sources : List Source}
    {os : List SourceOutcome} (hg : Gathers w x none h (dependencyWaves sources) os) {s : Source}
    (hs : s ∈ sources) : ∃ t, (s, t) ∈ os := by
  have hmem := (perm_flatten_dependencyWaves sources).mem_iff.2 hs
  rw [← hg.map_fst] at hmem
  obtain ⟨⟨s, t⟩, ho, rfl⟩ := List.mem_map.1 hmem
  exact ⟨t, ho⟩

/-- The outcomes of the sources of a discovery, and the tables with theirs. -/
structure Discovered (w : Surroundings) (x : SourceRun) (tables : Namespace) (job : MonitorJob)
    (found : Namespace) (os : List SourceOutcome) : Prop where
  gathers : GathersFirst w x tables (discoveryTask job.tasks).sources os
  found_eq : found = (harvest tables os).tables

theorem exists_discovered_of_runs (hw : ¬w.mayBeCancelled)
    (h : Runs w (x.discoverJob base type job) cs (some (state, found))) :
    ∃ os, Discovered w x base.tables job found os := by
  obtain ⟨started, _, _, rfl, -, h⟩ := runs_bind_some_iff.1 h
  obtain ⟨⟨gathered, isComplete⟩, cs₁, _, rfl, hsources, h⟩ := runs_bind_some_iff.1 h
  have hfound : found = gathered.tables := by
    cases isComplete
    all_goals
      obtain ⟨_, _, _, rfl, -, hrecord⟩ := runs_bind_some_iff.1 h
      obtain ⟨_, _, _, rfl, -, hend⟩ := runs_bind_some_iff.1 hrecord
      obtain ⟨-, he⟩ := runs_pure_some_iff.1 hend
      exact congrArg Prod.snd he
  obtain ⟨waves, _, hwaves, hrun⟩ := exists_prefix_of_runs_foldBefore hsources
  obtain ⟨-, os, hos, rfl⟩ := (runs_foldlM_runWave_iff hw).1 hrun
  exact ⟨os, ⟨waves, hwaves, hos⟩, hfound⟩

theorem runs_before {β : Type} {deadline : Nat} {body : Activity β} {o : Option β}
    (h : Runs w (before deadline body) cs (some o)) : ∀ b, o = some b → ∃ cs', Runs w body cs' o := by
  cases h with
  | within b hb h =>
    cases h with
    | done => exact fun _ _ => ⟨_, hb⟩
  | late hl hb h =>
    cases h with
    | done => exact nofun

/-- The outcomes of the sources of a collection that run once. Unless it failed, all were run. -/
structure Collected (w : Surroundings) (x : SourceRun) (tables : Namespace) (job : MonitorJob)
    (state : Option PhaseState) (os : List SourceOutcome) : Prop where
  gathers : GathersFirst w x tables job.tasks.collectedSources os
  complete : state ≠ some .failed → ∀ s ∈ job.tasks.collectedSources, ∃ t, (s, t) ∈ os

theorem Collected.of_eq_nil (h : job.tasks.collectedSources = []) {state : Option PhaseState} :
    Collected w x tables job state [] := by
  refine ⟨.nil, fun _ s hs => ?_⟩
  rw [h] at hs
  cases hs

theorem exists_collected_of_runs (hw : ¬w.mayBeCancelled) {state : Option PhaseState}
    (h : Runs w (x.collectIfAny tables type job) cs (some state)) :
    ∃ os, Collected w x tables job state os := by
  obtain ⟨keys, tasks⟩ := job
  rcases tasks with ⟨discovery, _ | ⟨mode, sources, mapping⟩⟩ | task
  · exact ⟨_, .of_eq_nil rfl⟩
  · cases mode with
    | monoInstance => exact ⟨_, .of_eq_nil rfl⟩
    | multiInstance =>
      cases mapping with
      | none => exact ⟨_, .of_eq_nil rfl⟩
      | some mapping =>
        obtain ⟨result, _, _, rfl, hjob, hstate⟩ := runs_bind_some_iff.1 h
        obtain ⟨started, _, _, rfl, -, hjob⟩ := runs_bind_some_iff.1 hjob
        obtain ⟨ran, _, _, rfl, hran, hjob⟩ := runs_bind_some_iff.1 hjob
        cases ran with
        | some _ =>
          obtain ⟨_, hall⟩ := runs_before hran () rfl
          obtain ⟨h, _, _, rfl, hsources, -⟩ := runs_bind_some_iff.1 hall
          obtain ⟨-, os, hos, rfl⟩ := (runs_runSources_iff hw).1 hsources
          exact ⟨os, .of_gathers hos, fun _ s hs => hos.exists_outcome hs⟩
        | none =>
          obtain ⟨_, _, _, rfl, -, hjob⟩ := runs_bind_some_iff.1 hjob
          obtain ⟨_, _, _, rfl, -, hjob⟩ := runs_bind_some_iff.1 hjob
          obtain ⟨-, hresult⟩ := runs_pure_some_iff.1 hjob
          obtain ⟨-, rfl⟩ := runs_pure_some_iff.1 hstate
          rw [Option.isNone_none, Bool.or_true, if_pos rfl] at hresult
          exact ⟨[], .nil, fun hne => absurd (congrArg some hresult) hne⟩
  · exact ⟨_, .of_eq_nil rfl⟩

/-- One choice for every type where there is one for every job. -/
theorem exists_choice_of_forall₂ {α β γ : Type} {R : String × α → β → γ → Prop}
    {jobs : List (String × α)} {bs : List β} (hnodup : (jobs.map Prod.fst).Nodup) (c₀ : γ)
    (h : List.Forall₂ (fun j b => ∃ c, R j b c) jobs bs) :
    ∃ f : String → γ, (∀ type, type ∉ jobs.map Prod.fst → f type = c₀) ∧
      (∀ j ∈ jobs, ∃ b ∈ bs, R j b (f j.1)) ∧ ∀ b ∈ bs, ∃ j ∈ jobs, R j b (f j.1) := by
  induction h with
  | nil => exact ⟨fun _ => c₀, fun _ _ => rfl, nofun, nofun⟩
  | @cons j b jobs bs hj _ ih =>
    obtain ⟨hne, hrest⟩ := List.nodup_cons.1 hnodup
    obtain ⟨c, hc⟩ := hj
    obtain ⟨f, hf, hjobs, hbs⟩ := ih hrest
    have hother : ∀ j' ∈ jobs, Function.update f j.1 c j'.1 = f j'.1 := by
      intro j' hj'
      refine Function.update_of_ne (fun he => hne ?_) c f
      rw [← he]
      exact List.mem_map_of_mem hj'
    have hself : R j b (Function.update f j.1 c j.1) := by rwa [Function.update_self]
    refine ⟨Function.update f j.1 c, fun type htype => ?_, ?_, ?_⟩
    · rw [List.map_cons, List.mem_cons, not_or] at htype
      rw [Function.update_of_ne htype.1, hf type htype.2]
    · rintro j' (_ | ⟨_, hj'⟩)
      · exact ⟨b, List.mem_cons_self, hself⟩
      · obtain ⟨b', hb', hR⟩ := hjobs j' hj'
        exact ⟨b', List.mem_cons_of_mem _ hb', by rwa [hother j' hj']⟩
    · rintro b' (_ | ⟨_, hb'⟩)
      · exact ⟨j, List.mem_cons_self, hself⟩
      · obtain ⟨j', hj', hR⟩ := hbs b' hb'
        exact ⟨j', List.mem_cons_of_mem _ hj', by rwa [hother j' hj']⟩

/-- One choice for every type where there is one for every job of a connector. -/
theorem exists_choice_of_jobs {c : Connector} {β γ : Type} {R : MonitorJob → β → γ → Prop}
    {bs : List β} (c₀ : γ)
    (h : List.Forall₂ (fun (j : String × MonitorJob) b => ∃ c, R j.2 b c) c.jobs bs) :
    ∃ f : String → γ, (∀ type, c.monitors.get? type = none → f type = c₀) ∧
      (∀ type job, c.monitors.get? type = some job → ∃ b ∈ bs, R job b (f type)) ∧
      ∀ b ∈ bs, ∃ type job, c.monitors.get? type = some job ∧ R job b (f type) := by
  obtain ⟨f, hf, hjobs, hbs⟩ := exists_choice_of_forall₂ c.nodup_types_jobs c₀ h
  refine ⟨f, fun type hnone => hf type fun htype => ?_, fun type job hjob => ?_, fun b hb => ?_⟩
  · obtain ⟨⟨_, job⟩, hj, rfl⟩ := List.mem_map.1 htype
    exact Option.some_ne_none job ((Connector.mem_jobs_iff.1 hj).symm.trans hnone)
  · exact hjobs (type, job) (Connector.mem_jobs_iff.2 hjob)
  · obtain ⟨⟨type, job⟩, hj, hR⟩ := hbs b hb
    exact ⟨type, job, Connector.mem_jobs_iff.1 hj, hR⟩

/-! ## The tables that are left -/

/-- The table of the source with a key. A source that failed has the empty one. -/
def tableOf (os : List SourceOutcome) (k : String) : Option Table :=
  NameMap.lookup k (os.map fun o => (o.key, o.2.getD .empty))

theorem tableOf_eq_none {os : List SourceOutcome} {k : String} (h : ∀ o ∈ os, o.key ≠ k) :
    tableOf os k = none := by
  induction os with
  | nil => rfl
  | cons o os ih =>
    rw [tableOf, List.map_cons, NameMap.lookup, if_neg (h o List.mem_cons_self)]
    exact ih fun o' ho' => h o' (List.mem_cons_of_mem _ ho')

/-- Every source has its own table after the outcomes were stored. -/
theorem get?_foldl_store {os : List SourceOutcome} (hos : (os.map SourceOutcome.key).Nodup)
    (h : Harvest) (k : String) :
    (os.foldl store h).tables.get? k = (tableOf os k).or (h.tables.get? k) := by
  induction os generalizing h with
  | nil => rfl
  | cons o os ih =>
    obtain ⟨hne, hrest⟩ := List.nodup_cons.1 (List.map_cons ▸ hos)
    rw [List.foldl_cons, ih hrest]
    by_cases hk : o.key = k
    · subst hk
      have hnone : tableOf os o.key = none :=
        tableOf_eq_none fun o' ho' he => hne (he ▸ List.mem_map_of_mem ho')
      rw [hnone, Option.none_or, get?_store_self, tableOf, List.map_cons, NameMap.lookup,
        if_pos rfl, Option.some_or]
    · rw [get?_store_of_ne hk, tableOf, tableOf, List.map_cons, NameMap.lookup, if_neg hk]

section Tables

variable {c : Connector} {pre : List SourceOutcome} {f : String → List SourceOutcome}
  {s : Source}

/-- A table with outcomes of other keys is as it was. -/
theorem get?_harvest_of_other {os : List SourceOutcome} {k : String} (hk : ∀ o ∈ os, o.key ≠ k) :
    (harvest tables os).tables.get? k = tables.get? k := get?_foldl_store_of_forall_ne hk

theorem get?_harvest_pre_of_job (hc : c.KeysDistinct) (hpre : ∀ o ∈ pre, o.1 ∈ c.pre)
    (hjob : c.monitors.get? type = some job) (hs : s ∈ job.tasks.sources) :
    (harvest .empty pre).tables.get? s.key = none :=
  get?_harvest_of_other fun o ho => hc.pre_ne_job (hpre o ho) hjob hs

/-- What the discovery of a job has of a source that is not its own. -/
theorem Discovered.get?_of_forall_ne {os : List SourceOutcome}
    (hd : Discovered w x tables job found os)
    (hs : ∀ s' ∈ (discoveryTask job.tasks).sources, s'.key ≠ s.key) :
    found.get? s.key = tables.get? s.key := by
  rw [hd.found_eq]
  exact get?_harvest_of_other fun o ho => hs o.1 (hd.gathers.mem_sources ho)

/-- What the discovery of a job has of a source of another job. -/
theorem Discovered.get?_of_type_ne {os : List SourceOutcome} (hc : c.KeysDistinct)
    (hd : Discovered w x tables job found os) (hjob : c.monitors.get? type = some job)
    {type' : String} {job' : MonitorJob} (hjob' : c.monitors.get? type' = some job')
    (hs : s ∈ job'.tasks.sources) (hne : type ≠ type') : found.get? s.key = tables.get? s.key := by
  refine hd.get?_of_forall_ne fun s' hs' he => hne ?_
  have hown := job.tasks.sublist_sources.subset (List.mem_append_left _ hs')
  exact hc.type_eq hjob hjob' hown hs he

/-- What the discovery of a job has of its own sources. -/
theorem Discovered.get?_of_mem {os : List SourceOutcome} (hc : c.KeysDistinct)
    (hd : Discovered w x tables job found os) (hjob : c.monitors.get? type = some job)
    (hnone : tables.get? s.key = none) : found.get? s.key = tableOf os s.key := by
  have hsources : (discoveryTask job.tasks).sources.Sublist job.tasks.sources :=
    (List.sublist_append_left ..).trans job.tasks.sublist_sources
  have hkeys := hd.gathers.nodup_keys ((hc.nodup_job hjob).sublist (hsources.map Source.key))
  rw [hd.found_eq, harvest, get?_foldl_store hkeys, hnone, Option.or_none]

variable {discovered : List (PhaseState × Namespace)}
  (hbs : ∀ d ∈ discovered, ∃ type job, c.monitors.get? type = some job ∧
    Discovered w x (harvest .empty pre).tables job d.2 (f type))

include hbs

/-- The tables of the sources before all jobs are left. -/
theorem get?_left_of_pre (hc : c.KeysDistinct) (hkeys : (pre.map SourceOutcome.key).Nodup)
    (hs : s ∈ c.pre) :
    ((discovered.map Prod.snd).foldl Namespace.extend (harvest .empty pre).tables).get? s.key =
      tableOf pre s.key := by
  have hbase : (harvest .empty pre).tables.get? s.key = tableOf pre s.key := by
    rw [harvest, get?_foldl_store hkeys]
    exact Option.or_none
  refine Namespace.get?_foldl_extend (fun tables hmem => .inr ?_) ⟨_, List.mem_cons_self, hbase⟩
  rcases List.mem_cons.1 hmem with rfl | hmem
  · exact hbase
  · obtain ⟨d, hd, rfl⟩ := List.mem_map.1 hmem
    obtain ⟨type, job, hjob, hdiscovered⟩ := hbs d hd
    refine (hdiscovered.get?_of_forall_ne fun s' hs' => ?_).trans hbase
    exact (hc.pre_ne_job hs hjob
      (job.tasks.sublist_sources.subset (List.mem_append_left _ hs'))).symm

/-- The tables of the sources of the discoveries are left. -/
theorem get?_left_of_discovery (hc : c.KeysDistinct) (hpre : ∀ o ∈ pre, o.1 ∈ c.pre)
    (hjobs : ∀ type job, c.monitors.get? type = some job → ∃ d ∈ discovered,
      Discovered w x (harvest .empty pre).tables job d.2 (f type))
    (hjob : c.monitors.get? type = some job) (hs : s ∈ (discoveryTask job.tasks).sources) :
    ((discovered.map Prod.snd).foldl Namespace.extend (harvest .empty pre).tables).get? s.key =
      tableOf (f type) s.key := by
  have hsource := job.tasks.sublist_sources.subset (List.mem_append_left _ hs)
  have hbase := get?_harvest_pre_of_job hc hpre hjob hsource
  obtain ⟨d, hd, hown⟩ := hjobs type job hjob
  refine Namespace.get?_foldl_extend (fun tables hmem => ?_)
    ⟨d.2, List.mem_cons_of_mem _ (List.mem_map_of_mem hd), hown.get?_of_mem hc hjob hbase⟩
  rcases List.mem_cons.1 hmem with rfl | hmem
  · exact .inl hbase
  · obtain ⟨d', hd', rfl⟩ := List.mem_map.1 hmem
    obtain ⟨type', job', hjob', hother⟩ := hbs d' hd'
    by_cases htype : type' = type
    · subst htype
      exact .inr (hother.get?_of_mem hc hjob' hbase)
    · exact .inl ((hother.get?_of_type_ne hc hjob' hjob hsource htype).trans hbase)

/-- No table of a source of a collection is left. -/
theorem get?_left_of_collection (hc : c.KeysDistinct) (hpre : ∀ o ∈ pre, o.1 ∈ c.pre)
    (hjob : c.monitors.get? type = some job) (hs : s ∈ job.tasks.collectedSources) :
    ((discovered.map Prod.snd).foldl Namespace.extend (harvest .empty pre).tables).get? s.key =
      none := by
  have hsource := job.tasks.sublist_sources.subset (List.mem_append_right _ hs)
  have hbase := get?_harvest_pre_of_job hc hpre hjob hsource
  refine Namespace.get?_foldl_extend (fun tables hmem => .inl ?_) ⟨_, List.mem_cons_self, hbase⟩
  rcases List.mem_cons.1 hmem with rfl | hmem
  · exact hbase
  · obtain ⟨d, hd, rfl⟩ := List.mem_map.1 hmem
    obtain ⟨type', job', hjob', hother⟩ := hbs d hd
    by_cases htype : type' = type
    · subst htype
      obtain rfl : job = job' := Option.some.inj (hjob.symm.trans hjob')
      have hkeys := (hc.nodup_job hjob).sublist (job.tasks.sublist_sources.map Source.key)
      rw [List.map_append, List.nodup_append] at hkeys
      refine (hother.get?_of_forall_ne fun s' hs' => ?_).trans hbase
      exact hkeys.2.2 _ (List.mem_map_of_mem hs') _ (List.mem_map_of_mem hs)
    · exact (hother.get?_of_type_ne hc hjob' hjob hsource htype).trans hbase

end Tables

/-! ## Passes -/

/-- The tables that the sources of a place work on. -/
def tablesAt (outcomes : Place → List SourceOutcome) (left : Namespace) : Place → Namespace
  | .pre => .empty
  | .discovery _ => (harvest .empty (outcomes .pre)).tables
  | .collection _ => left

/-- How the sources of a connector went: the outcomes at every place, the tables that are left for the
next cycle, and the state of the collection. -/
structure Pass (w : Surroundings) (x : SourceRun) (outcomes : Place → List SourceOutcome)
    (left : Namespace) (collection : PhaseState) : Prop where
  /-- The sources of a place are run wave by wave, each wave with all of its sources. -/
  gathers : ∀ place, GathersFirst w x (tablesAt outcomes left place) (x.connector.sourcesAt place)
    (outcomes place)
  /-- The sources before all jobs are all run, however long it takes. -/
  pre : ∀ s ∈ x.connector.pre, ∃ t, (s, t) ∈ outcomes .pre
  /-- The sources of a collection are all run unless it is too late and the collection fails. -/
  collected : collection ≠ .failed → ∀ type, ∀ s ∈ x.connector.sourcesAt (.collection type),
    ∃ t, (s, t) ∈ outcomes (.collection type)
  /-- The tables of the sources that were run are left. -/
  kept : ∀ place, place.IsKept → ∀ s ∈ x.connector.sourcesAt place,
    left.get? s.key = tableOf (outcomes place) s.key
  /-- No tables of collections are left. -/
  lost : ∀ place, ¬place.IsKept → ∀ s ∈ x.connector.sourcesAt place, left.get? s.key = none

/-- The outcomes at every place. -/
def outcomesAt (pre : List SourceOutcome) (discovered collected : String → List SourceOutcome) :
    Place → List SourceOutcome
  | .pre => pre
  | .discovery type => discovered type
  | .collection type => collected type

theorem PhaseState.ne_failed_of_ofJobs {states : List PhaseState} (h : ofJobs states ≠ .failed) :
    ∀ state ∈ states, state ≠ .failed := by
  rintro _ hmem rfl
  refine h ?_
  have hcontains : states.contains failed = true := by simpa using hmem
  rw [ofJobs, if_neg (by cases states <;> simp_all), if_pos hcontains]

/-- Sources that each type has of its job, and a type without a job has none. -/
theorem GathersFirst.of_jobs {c : Connector} {sourcesOf : MonitorJob → List Source}
    {f : String → List SourceOutcome} (hnone : ∀ type, c.monitors.get? type = none → f type = [])
    (hjobs : ∀ type job, c.monitors.get? type = some job →
      GathersFirst w x tables (sourcesOf job) (f type)) (type : String) :
    GathersFirst w x tables (((c.monitors.get? type).map sourcesOf).getD []) (f type) := by
  cases hjob : c.monitors.get? type with
  | none =>
    rw [hnone type hjob]
    exact .nil
  | some job => exact hjobs type job hjob

/-- **Every run of a connector is a pass**, unless it is cancelled. -/
theorem exists_pass_of_runs_gather (hw : ¬w.mayBeCancelled) {v : Visit} {c : Connector}
    (hc : c.KeysDistinct) {previous left : Namespace} {states : PhaseState × PhaseState}
    (h : Runs w (v.gather c previous) cs (some (left, states))) :
    ∃ outcomes, Pass w ⟨v, c, previous⟩ outcomes left states.2 := by
  obtain ⟨base, _, _, rfl, hbase, h⟩ := runs_bind_some_iff.1 h
  obtain ⟨discovered, _, _, rfl, hdiscovered, h⟩ := runs_bind_some_iff.1 h
  obtain ⟨collected, _, _, rfl, hcollected, h⟩ := runs_bind_some_iff.1 h
  obtain ⟨-, hend⟩ := runs_pure_some_iff.1 h
  cases hend
  obtain ⟨-, pre, hall, rfl⟩ := (runs_runSources_iff hw).1 hbase
  have hpre := GathersFirst.of_gathers hall
  have hmem : ∀ o ∈ pre, o.1 ∈ c.pre := fun o ho => hpre.mem_sources ho
  obtain ⟨f, hf, hfjobs, hfbs⟩ := exists_choice_of_jobs
    (R := fun job d => Discovered w ⟨v, c, previous⟩ (harvest .empty pre).tables job d.2) []
    ((runs_overJobs hdiscovered).imp fun j ⟨_, _⟩ ⟨_, _, hrun⟩ =>
      exists_discovered_of_runs hw hrun)
  obtain ⟨g, hg, hgjobs, -⟩ := exists_choice_of_jobs (R := Collected w ⟨v, c, previous⟩ _) []
    ((runs_overJobs hcollected).imp fun j o ⟨_, _, hrun⟩ => exists_collected_of_runs hw hrun)
  refine ⟨outcomesAt pre f g, fun place => ?_, fun s hs => hall.exists_outcome hs,
    fun hne type s hs => ?_, fun place hkept s hs => ?_, fun place hlost s hs => ?_⟩
  · cases place with
    | pre => exact hpre
    | discovery type =>
      refine .of_jobs hf (fun type job hjob => ?_) type
      obtain ⟨d, -, hd⟩ := hfjobs type job hjob
      exact hd.gathers
    | collection type =>
      refine .of_jobs hg (fun type job hjob => ?_) type
      obtain ⟨o, -, ho⟩ := hgjobs type job hjob
      exact ho.gathers
  · obtain ⟨job, hjob, hs⟩ := Connector.exists_job_of_mem_collection hs
    obtain ⟨o, ho, hcollected⟩ := hgjobs type job hjob
    refine hcollected.complete (fun hfailed => ?_) s hs
    exact PhaseState.ne_failed_of_ofJobs hne _ (List.mem_filterMap.2 ⟨o, ho, hfailed⟩) rfl
  · cases place with
    | pre => exact get?_left_of_pre hfbs hc (hpre.nodup_keys hc.nodup_pre) hs
    | discovery type =>
      obtain ⟨job, hjob, hs⟩ := Connector.exists_job_of_mem_discovery hs
      exact get?_left_of_discovery hfbs hc hmem hfjobs hjob hs
    | collection type => exact hkept.elim
  · cases place with
    | pre => exact absurd trivial hlost
    | discovery type => exact absurd trivial hlost
    | collection type =>
      obtain ⟨job, hjob, hs⟩ := Connector.exists_job_of_mem_collection hs
      exact get?_left_of_collection hfbs hc hmem hjob hs

end HardwareWatch
