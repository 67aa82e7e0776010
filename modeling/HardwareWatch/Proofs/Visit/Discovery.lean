import HardwareWatch.Proofs.Activity.Prompt
import HardwareWatch.Proofs.Telemetry.Monitors
import HardwareWatch.Proofs.Visit.JobChanges

/-!
# Discoveries after failed sources

When the source of a mapping failed, there is nothing to tell which monitors are still there, and a
discovery must not mark any of them as missed. The sources that run before all jobs and those of a
job are run apart, and each run has its own failed sources.

* `CompletedDiscovery` is the discovery of a job whose sources were all run.
* `runs_discoverJob` says that a discovery is completed or too late,
  `exists_discoveries_of_runs_runConnector` that running a connector is running such discoveries.
* `CompletedDiscovery.failed_iff` says when a discovery fails and leaves all monitors as stale as they
  were: when the failure comes to its source among the sources before or among its own.
  `discovery_failed_iff` says so of all discoveries of a run of a connector.
* `UnansweredSource.discovery_succeeds_on_failed_source` has a failure that passes from the sources
  before to those of the job.
-/

namespace HardwareWatch

open Activity SourceRun

/-! ## Changes that mark nothing as missed -/

namespace Resource

/-- Every monitor is still there and as stale as it was. -/
def KeepsStaleness (r r' : Resource) : Prop := r.Keeps (fun m m' => m'.isStale = m.isStale) r'

theorem keepsStaleness_refl (r : Resource) : r.KeepsStaleness r :=
  Keeps.refl (P := fun m m' => m'.isStale = m.isStale) (fun _ => rfl) r

theorem keepsStaleness_updateEndpoint (r : Resource) {f : Monitor → Monitor}
    (hf : ∀ m, (f m).isStale = m.isStale) : r.KeepsStaleness (r.updateEndpoint f) :=
  Keeps.upsert (P := fun m m' => m'.isStale = m.isStale) (fun _ => rfl) fun _ _ => hf _

theorem Keeps.staleness {r r' : Resource} (h : r.Keeps Monitor.Rewritten r') :
    r.KeepsStaleness r' :=
  h.mono fun m m' hm => by rw [hm]

end Resource

namespace SourceRun

variable (x : SourceRun)

theorem runs_recordDuration (w : Surroundings) (phase type : String) (started : Nat) :
    ∃ cs, Runs w (x.recordDuration phase type started) cs (some ()) :=
  ⟨_, runs_bind_some_iff.2 ⟨started, 0, _, rfl, .now started .done,
    runs_modify_some_iff.2 ⟨.named "" .linux, rfl⟩⟩⟩

/-- Collection marks nothing as missed. -/
theorem keepsStaleness_of_collectionChange {r r' : Resource} (h : r.CollectionChange r') :
    r.KeepsStaleness r' := by
  cases h with
  | none => exact r.keepsStaleness_refl
  | rows job mapping rows => exact (job.keeps_collect r mapping rows).staleness
  | row job mapping rows id => exact (job.keeps_collectOne r mapping rows id).staleness
  | endpoint => exact r.keepsStaleness_updateEndpoint fun _ => rfl

/-! ## Missing tables -/

variable {x} {w : Surroundings} {type : String} {job : MonitorJob} {m : Mapping} {k : String}
  {cs : Multiset Change} {state : PhaseState}

theorem isMissing_iff (hk : Reference.key? m.source = some k) {failed : String → Bool}
    {tables : Namespace} :
    m.isMissing failed tables = true ↔ failed k = true ∨ ¬tables.contains k = true := by
  rw [Mapping.isMissing, Table.lookup, hk]
  cases h : tables.get? k <;> simp [NameMap.contains, h]

theorem runs_concludeDiscovery_of_missing (hm : (discoveryTask job.tasks).mapping = some m)
    {preFailed : NameSet} {h : Harvest}
    (hmiss : m.isMissing (fun key => h.failed.has key || preFailed.has key) h.tables = true) :
    Runs w (x.concludeDiscovery preFailed type job h) cs (some state) ↔
      cs = 0 ∧ state = .failed := by
  rw [concludeDiscovery, hm]
  change Runs w (x.discoverMonitors type job m _ h.tables >>= x.settleDiscovery type) _ _ ↔ _
  rw [discoverMonitors, if_pos hmiss, pure_bind]
  exact runs_pure_some_iff

theorem runs_discoverMonitors_iff {failed : String → Bool} {tables : Namespace}
    (hmiss : ¬m.isMissing failed tables = true) {found : Option NameSet} :
    Runs w (x.discoverMonitors type job m failed tables) cs (some found) ↔
      ∃ r, cs = {(r, ((x.jobContext type job).discover m (m.rows tables) r).1)} ∧
        found = some ((x.jobContext type job).discover m (m.rows tables) r).2 := by
  rw [discoverMonitors, if_neg hmiss, runs_bind_some_iff]
  constructor
  · rintro ⟨ids, _, _, rfl, hwork, hids⟩
    obtain ⟨r, rfl, rfl⟩ := runs_work_some_iff.1 hwork
    obtain ⟨rfl, rfl⟩ := runs_pure_some_iff.1 hids
    exact ⟨r, add_zero _, rfl⟩
  · rintro ⟨r, rfl, rfl⟩
    exact ⟨_, _, 0, (add_zero _).symm, runs_work_some_iff.2 ⟨r, rfl, rfl⟩,
      runs_pure_some_iff.2 ⟨rfl, rfl⟩⟩

theorem runs_settleDiscovery_iff (hw : ¬w.mayBeCancelled) {ids : NameSet} :
    Runs w (x.settleDiscovery type (some ids)) cs (some state) ↔
      ∃ r, cs = {(r, r.markStale x.connector.id type ids)} ∧ state = .succeeded := by
  rw [settleDiscovery, runs_bind_some_iff]
  constructor
  · rintro ⟨b, _, cs₂, rfl, hb, hrun⟩
    obtain ⟨rfl, hcancel⟩ := runs_cancelled_some_iff.1 hb
    cases b with
    | true => exact absurd (hcancel rfl) hw
    | false =>
      obtain ⟨_, _, _, rfl, hmark, hend⟩ := runs_bind_some_iff.1 hrun
      obtain ⟨r, rfl⟩ := runs_modify_some_iff.1 hmark
      obtain ⟨rfl, rfl⟩ := runs_pure_some_iff.1 hend
      exact ⟨r, by simp, rfl⟩
  · rintro ⟨r, rfl, rfl⟩
    exact ⟨false, 0, _, (zero_add _).symm, runs_cancelled_some_iff.2 ⟨rfl, nofun⟩,
      runs_bind_some_iff.2 ⟨(), _, 0, (add_zero _).symm, runs_modify_some_iff.2 ⟨r, rfl⟩,
        runs_pure_some_iff.2 ⟨rfl, rfl⟩⟩⟩

theorem runs_concludeDiscovery_of_present (hw : ¬w.mayBeCancelled)
    (hm : (discoveryTask job.tasks).mapping = some m) {preFailed : NameSet} {h : Harvest}
    (hmiss : ¬m.isMissing (fun key => h.failed.has key || preFailed.has key) h.tables = true) :
    Runs w (x.concludeDiscovery preFailed type job h) cs (some state) ↔
      ∃ r r', let found := (x.jobContext type job).discover m (m.rows h.tables) r
        cs = {(r, found.1)} + {(r', r'.markStale x.connector.id type found.2)} ∧
          state = .succeeded := by
  rw [concludeDiscovery, hm]
  change Runs w (x.discoverMonitors type job m _ h.tables >>= x.settleDiscovery type) _ _ ↔ _
  rw [runs_bind_some_iff]
  constructor
  · rintro ⟨found, cs₁, cs₂, rfl, hfound, hsettle⟩
    obtain ⟨r, rfl, rfl⟩ := (runs_discoverMonitors_iff hmiss).1 hfound
    obtain ⟨r', rfl, rfl⟩ := (runs_settleDiscovery_iff hw).1 hsettle
    exact ⟨r, r', rfl, rfl⟩
  · rintro ⟨r, r', rfl, rfl⟩
    exact ⟨_, _, _, rfl, (runs_discoverMonitors_iff hmiss).2 ⟨r, rfl, rfl⟩,
      (runs_settleDiscovery_iff hw).2 ⟨r', rfl, rfl⟩⟩

end SourceRun

/-! ## Discoveries -/

/-- The end of the discovery of a job whose sources were run. -/
def SourceRun.closeDiscovery (x : SourceRun) (preFailed : NameSet) (type : String)
    (job : MonitorJob) (started : Nat) (h : Harvest) : Activity PhaseState := do
  let state ← x.concludeDiscovery preFailed type job h
  x.recordDuration "discovery" type started
  return state

/-- The discovery of a job whose sources were all run: the outcomes of the sources that run before
all jobs and of its own, the changes that it made to the resource, and its state. -/
structure CompletedDiscovery (w : Surroundings) (x : SourceRun) (type : String) (job : MonitorJob)
    (pre own : List SourceOutcome) (cs : Multiset Change) (state : PhaseState) : Prop where
  before : Gathers w x none ⟨.empty, .empty⟩ (dependencyWaves x.connector.pre) pre
  sources : Gathers w x none ⟨(harvest .empty pre).tables, .empty⟩
    (dependencyWaves (discoveryTask job.tasks).sources) own
  close : ∃ started, Runs w (x.closeDiscovery (harvest .empty pre).failed type job started
    (harvest (harvest .empty pre).tables own)) cs (some state)

variable {w : Surroundings} {x : SourceRun} {type : String} {job : MonitorJob}
  {pre own : List SourceOutcome} {cs : Multiset Change} {state : PhaseState} {m : Mapping}
  {k : String}

/-- A discovery that ends has run all of its sources, or it is too late. -/
theorem runs_discoverJob (hw : ¬w.mayBeCancelled)
    (hpre : Gathers w x none ⟨.empty, .empty⟩ (dependencyWaves x.connector.pre) pre)
    {tables : Namespace}
    (h : Runs w (x.discoverJob (harvest .empty pre) type job) cs (some (state, tables))) :
    (∃ own, CompletedDiscovery w x type job pre own cs state) ∨
      w.mayBeLate ∧ state = .failed ∧ ∀ c ∈ cs, c.1.KeepsStaleness c.2 := by
  obtain ⟨started, _, _, rfl, hclock, h⟩ := runs_bind_some_iff.1 h
  obtain ⟨⟨gathered, isComplete⟩, cs₁, _, rfl, hsources, h⟩ := runs_bind_some_iff.1 h
  rw [runs_clock hclock, zero_add]
  cases isComplete with
  | true =>
    obtain ⟨state', cs₂, _, rfl, hstate, h⟩ := runs_bind_some_iff.1 h
    obtain ⟨_, cs₃, _, rfl, hrecord, h⟩ := runs_bind_some_iff.1 h
    obtain ⟨rfl, h⟩ := runs_pure_some_iff.1 h
    cases h
    obtain ⟨rfl, own, hown, rfl⟩ := (runs_runSourcesBefore_iff hw).1 hsources
    rw [zero_add]
    exact .inl ⟨own, hpre, hown, started, runs_bind_some_iff.2 ⟨_, _, _, rfl, hstate,
      runs_bind_some_iff.2 ⟨_, _, _, rfl, hrecord, runs_pure_some_iff.2 ⟨rfl, rfl⟩⟩⟩⟩
  | false =>
    obtain ⟨state', cs₂, _, rfl, hstate, h⟩ := runs_bind_some_iff.1 h
    obtain ⟨_, cs₃, _, rfl, hrecord, h⟩ := runs_bind_some_iff.1 h
    obtain ⟨rfl, h⟩ := runs_pure_some_iff.1 h
    cases h
    have hlate : w.mayBeLate := runs_foldBefore_false hsources
    rw [Quiet.eq_zero (x.quiet_runSourcesBefore _ _ _) hsources, zero_add]
    obtain ⟨rfl, rfl⟩ := runs_pure_some_iff.1 hstate
    refine .inr ⟨hlate, rfl, fun c hc => ?_⟩
    rw [zero_add, add_zero] at hc
    exact keepsStaleness_of_collectionChange
      (x.changesOnly_recordDuration _ _ _ _ _ _ hrecord c hc)

/-- A completed discovery is a run of the discovery of its job. -/
theorem CompletedDiscovery.runs_discoverJob (hd : CompletedDiscovery w x type job pre own cs state)
    (hw : ¬w.mayBeCancelled) :
    ∃ tables, Runs w (x.discoverJob (harvest .empty pre) type job) cs (some (state, tables)) := by
  obtain ⟨started, hclose⟩ := hd.close
  obtain ⟨state', cs₁, _, rfl, hconclude, hrest⟩ := runs_bind_some_iff.1 hclose
  obtain ⟨_, cs₂, _, rfl, hrecord, hend⟩ := runs_bind_some_iff.1 hrest
  obtain ⟨rfl, rfl⟩ := runs_pure_some_iff.1 hend
  have hclock : Runs w clock 0 (some started) := .now started .done
  have hsources : Runs w (x.runSourcesBefore (started + x.jobLimitMs)
      (discoveryTask job.tasks).sources (harvest .empty pre).tables) 0
      (some (harvest (harvest .empty pre).tables own, true)) :=
    (runs_runSourcesBefore_iff hw).2 ⟨rfl, own, hd.sources, rfl⟩
  refine ⟨(harvest (harvest .empty pre).tables own).tables, ?_⟩
  rw [← zero_add (cs₁ + _), ← zero_add (0 + (cs₁ + _))]
  exact runs_bind_of_runs hclock (runs_bind_of_runs hsources
    (runs_bind_of_runs hconclude (runs_bind_of_runs hrecord .done)))

theorem runs_overJobs {β : Type} {run : String → MonitorJob → Activity β} {bs : List β}
    (h : Runs w (x.overJobs run) cs (some bs)) :
    List.Forall₂ (fun (j : String × MonitorJob) b => ∃ cs', cs' ≤ cs ∧
      Runs w (run j.1 j.2) cs' (some b)) (x.connector.leadingJobs ++ x.connector.otherJobs) bs := by
  obtain ⟨first, cs₁, cs₂, rfl, hfirst, h⟩ := runs_bind_some_iff.1 h
  have hrest : ∃ others, bs = first ++ others ∧ List.Forall₂ (fun (j : String × MonitorJob) b =>
      ∃ cs', cs' ≤ cs₂ ∧ Runs w (run j.1 j.2) cs' (some b)) x.connector.otherJobs others := by
    dsimp only at h
    split at h
    all_goals
      obtain ⟨others, cs₃, _, rfl, hothers, h⟩ := runs_bind_some_iff.1 h
      obtain ⟨rfl, rfl⟩ := runs_pure_some_iff.1 h
      rw [add_zero]
    · exact ⟨others, rfl, runs_mapM hothers⟩
    · exact ⟨others, rfl, List.forall₂_map_left_iff.1 (runs_all hothers)⟩
  obtain ⟨others, rfl, hothers⟩ := hrest
  refine List.rel_append ((runs_mapM hfirst).imp ?_) (hothers.imp ?_)
  · rintro j b ⟨cs', hcs, hj⟩
    exact ⟨cs', hcs.trans (Multiset.le_add_right ..), hj⟩
  · rintro j b ⟨cs', hcs, hj⟩
    exact ⟨cs', hcs.trans (Multiset.le_add_left ..), hj⟩

theorem exists_forall₂_of_forall₂_exists {ι α β : Type} {R : ι → α → β → Prop} {is : List ι}
    {as : List α} (h : List.Forall₂ (fun i a => ∃ b, R i a b) is as) :
    ∃ bs : List (α × β), bs.map Prod.fst = as ∧ List.Forall₂ (fun i b => R i b.1 b.2) is bs := by
  induction h with
  | nil => exact ⟨[], rfl, .nil⟩
  | cons hb _ ih =>
    obtain ⟨b, hb⟩ := hb
    obtain ⟨bs, rfl, hbs⟩ := ih
    exact ⟨(_, b) :: bs, rfl, .cons hb hbs⟩

/-- Running a connector is running its sources, and then a discovery for every job that is completed
or too late. -/
theorem exists_discoveries_of_runs_runConnector (hw : ¬w.mayBeCancelled) {v : Visit}
    {c : Connector} {states : PhaseState × PhaseState}
    (h : Runs w (v.runConnector c) cs (some states)) :
    ∃ previous pre, ∃ ds : List (PhaseState × Multiset Change),
      states.1 = .ofJobs (ds.map Prod.fst) ∧
      List.Forall₂ (fun (j : String × MonitorJob) d => d.2 ≤ cs ∧
        (∃ tables, Runs w (SourceRun.discoverJob ⟨v, c, previous⟩ (harvest .empty pre) j.1 j.2) d.2
          (some (d.1, tables))) ∧
        ((∃ own, CompletedDiscovery w ⟨v, c, previous⟩ j.1 j.2 pre own d.2 d.1) ∨
          w.mayBeLate ∧ d.1 = .failed ∧ ∀ change ∈ d.2, change.1.KeepsStaleness change.2))
        (c.leadingJobs ++ c.otherJobs) ds := by
  obtain ⟨previous, cs₀, _, rfl, -, h⟩ := runs_bind_some_iff.1 h
  obtain ⟨base, cs₁, _, rfl, hbase, h⟩ := runs_bind_some_iff.1 h
  obtain ⟨discovered, cs₂, rest, rfl, hdiscovered, h⟩ := runs_bind_some_iff.1 h
  obtain ⟨collected, _, _, -, -, h⟩ := runs_bind_some_iff.1 h
  obtain ⟨_, _, _, -, -, h⟩ := runs_bind_some_iff.1 h
  obtain ⟨-, rfl⟩ := runs_pure_some_iff.1 h
  obtain ⟨rfl, pre, hpre, rfl⟩ := (runs_runSources_iff hw).1 hbase
  obtain ⟨bs, rfl, hbs⟩ := exists_forall₂_of_forall₂_exists (runs_overJobs hdiscovered)
  have hcs : cs₂ ≤ cs₀ + (0 + (cs₂ + rest)) :=
    (Multiset.le_add_right cs₂ rest).trans (by
      rw [zero_add]
      exact Multiset.le_add_left ..)
  refine ⟨previous, pre, bs.map fun b => (b.1.1, b.2), by simp [Function.comp_def], ?_⟩
  refine List.forall₂_map_right_iff.2 (hbs.imp ?_)
  rintro j ⟨⟨state, tables⟩, changes⟩ ⟨hle, hrun⟩
  exact ⟨hle.trans hcs, ⟨tables, hrun⟩, runs_discoverJob hw hpre hrun⟩

/-- A completed discovery fails and marks nothing as missed exactly where the source of its mapping
fails among the sources that run before all jobs, or among its own, or where there is no such
source. -/
theorem CompletedDiscovery.failed_iff (hd : CompletedDiscovery w x type job pre own cs state)
    (hw : ¬w.mayBeCancelled)
    (hm : (discoveryTask job.tasks).mapping = some m) (hk : Reference.key? m.source = some k) :
    (state = .failed ∧ ∀ c ∈ cs, c.1.KeepsStaleness c.2) ↔
      Failing pre k ∨ Failing own k ∨ ∀ o ∈ pre ++ own, o.key ≠ k := by
  obtain ⟨started, hclose⟩ := hd.close
  obtain ⟨state', cs₁, _, rfl, hconclude, hrest⟩ := runs_bind_some_iff.1 hclose
  obtain ⟨_, cs₂, _, rfl, hrecord, hend⟩ := runs_bind_some_iff.1 hrest
  obtain ⟨rfl, rfl⟩ := runs_pure_some_iff.1 hend
  have hmissing : (Failing pre k ∨ Failing own k ∨ ∀ o ∈ pre ++ own, o.key ≠ k) ↔
      m.isMissing (fun key => (harvest (harvest .empty pre).tables own).failed.has key ||
        (harvest .empty pre).failed.has key)
        (harvest (harvest .empty pre).tables own).tables = true := by
    rw [isMissing_iff hk, Bool.or_eq_true, has_failed_harvest, has_failed_harvest,
      contains_harvest, contains_harvest]
    have hnone : (∀ o ∈ pre ++ own, o.key ≠ k) ↔ ¬(((NameMap.empty : Namespace).contains k = true ∨
        ∃ o ∈ pre, o.key = k) ∨ ∃ o ∈ own, o.key = k) := by
      simp [NameMap.contains, or_imp, forall_and]
    rw [hnone]
    exact or_left_comm.trans or_assoc.symm
  rw [hmissing]
  constructor
  · rintro ⟨rfl, -⟩
    by_contra hmiss
    obtain ⟨r, r', -, hstate⟩ := (runs_concludeDiscovery_of_present hw hm hmiss).1 hconclude
    cases hstate
  · intro hmiss
    obtain ⟨rfl, rfl⟩ := (runs_concludeDiscovery_of_missing hm hmiss).1 hconclude
    refine ⟨rfl, fun c hc => ?_⟩
    rw [zero_add, add_zero] at hc
    exact keepsStaleness_of_collectionChange
      (x.changesOnly_recordDuration _ _ _ _ _ _ hrecord c hc)

/-- **When discoveries fail**: in every run of a connector that is not cancelled and never too late, a
discovery fails and marks nothing as missed exactly where the source of its mapping fails among the
sources that run before all jobs, or among its own, or where there is no such source. -/
theorem discovery_failed_iff (hw : ¬w.mayBeCancelled) (hl : ¬w.mayBeLate) {v : Visit} {c : Connector}
    {states : PhaseState × PhaseState} (h : Runs w (v.runConnector c) cs (some states)) :
    ∃ previous pre, ∃ ds : List (PhaseState × Multiset Change),
      states.1 = .ofJobs (ds.map Prod.fst) ∧
      List.Forall₂ (fun (j : String × MonitorJob) d => d.2 ≤ cs ∧
        (∃ tables, Runs w (SourceRun.discoverJob ⟨v, c, previous⟩ (harvest .empty pre) j.1 j.2) d.2
          (some (d.1, tables))) ∧
        ∃ own, CompletedDiscovery w ⟨v, c, previous⟩ j.1 j.2 pre own d.2 d.1 ∧
          ∀ m k, (discoveryTask j.2.tasks).mapping = some m → Reference.key? m.source = some k →
            ((d.1 = .failed ∧ ∀ change ∈ d.2, change.1.KeepsStaleness change.2) ↔
              Failing pre k ∨ Failing own k ∨ ∀ o ∈ pre ++ own, o.key ≠ k))
        (c.leadingJobs ++ c.otherJobs) ds := by
  obtain ⟨previous, pre, ds, hstates, hds⟩ := exists_discoveries_of_runs_runConnector hw h
  refine ⟨previous, pre, ds, hstates, hds.imp ?_⟩
  rintro j d ⟨hle, hrun, ⟨own, hd⟩ | ⟨hlate, -⟩⟩
  · exact ⟨hle, hrun, own, hd, fun m k hm hk => hd.failed_iff hw hm hk⟩
  · exact absurd hlate hl

/-! ## A failure that is lost between two runs of sources -/

namespace UnansweredSource

/-- A source that no extension runs. -/
def asked : Source := ⟨"A", 0, false, [], none, .snmpGet "1.1"⟩

/-- A copy of its table. -/
def copied : Source := ⟨"B", 0, false, [], none, .copy "$\x7bsource::A\x7d"⟩

/-- The mapping of the copy. -/
def rows : Mapping := ⟨"$\x7bsource::B\x7d", .empty, .empty, .empty⟩

/-- The job for disks, with some sources. -/
def disks (sources : List Source) : MonitorJob := ⟨["id"], .simple ⟨sources, some rows⟩⟩

/-- The connector with some sources before all jobs. -/
def connector (before sources : List Source) : Connector :=
  ⟨1, "C", none, none, [], ⟨[], false, [], []⟩, .empty, .empty, before,
    .ofList [("disk", disks sources)]⟩

/-- A visit without extensions. -/
def visit : Visit := ⟨⟨[], none⟩, .named "srv" .linux, .standard, 0⟩

/-- The answer of whoever is asked. -/
def unanswered (r : Request) : Except EngineError r.Answer := .error ⟨.probeFailure, "no answer"⟩

theorem references_asked : asked.references = [] := by
  rw [Source.references_eq]
  decide +kernel

theorem references_copied : copied.references = ["A"] := by
  rw [Source.references_eq]
  decide +kernel

theorem dependencyWaves_asked : dependencyWaves [asked] = [[asked]] := by
  simp [dependencyWaves, levels, levelOf, references_asked, List.range_succ]

theorem dependencyWaves_copied : dependencyWaves [copied] = [[copied]] := by
  simp [dependencyWaves, levels, levelOf, references_copied, List.range_succ, List.filterMap]

theorem dependencyWaves_both : dependencyWaves [asked, copied] = [[asked], [copied]] := by
  have hkey : asked.key = "A" := rfl
  simp [dependencyWaves, levels, levelOf, references_asked, references_copied, List.range_succ,
    NameMap.get?_insert, hkey]

theorem gives_obtain_asked (c : Connector) (previous tables : Namespace) :
    Gives unanswered (SourceRun.obtain ⟨visit, c, previous⟩ tables none asked) none := by
  have hexecute : SourceRun.execute ⟨visit, c, previous⟩ asked tables none =
      pure (.error (noRunner visit .snmpGet)) := rfl
  rw [obtain, hexecute]
  refine (Gives.pure _).bind (Gives.cancelled.bind ?_)
  split
  · exact (Gives.pause _).bind ((Gives.pure _).bind (Gives.pure none))
  · exact Gives.pure none

theorem gives_obtain_copied (c : Connector) (previous tables : Namespace) :
    Gives unanswered (SourceRun.obtain ⟨visit, c, previous⟩ tables none copied)
      (some (copied.kind.derive tables)) := by
  have hexecute : SourceRun.execute ⟨visit, c, previous⟩ copied tables none =
      pure (.ok (copied.kind.derive tables)) := rfl
  rw [obtain, hexecute]
  refine (Gives.pure _).bind (Gives.cancelled.bind ?_)
  split
  · exact (Gives.pause _).bind ((Gives.pure _).bind (Gives.pure _))
  · exact Gives.pure _

theorem jobs_connector (before sources : List Source) :
    (connector before sources).leadingJobs = [] ∧
      (connector before sources).otherJobs = [("disk", disks sources)] := ⟨rfl, rfl⟩

/-- A copy of the table is built on a failure. -/
theorem failing_copied {t : Option Table} {more : List SourceOutcome} :
    Failing ([(asked, none)] ++ (copied, t) :: more) "B" := by
  have hasked : Failing [(asked, none)] "A" := .own List.mem_cons_self
  exact .built (references_copied ▸ List.mem_singleton_self "A") hasked

theorem eq_of_gathers {c : Connector} {previous tables : Namespace} {failed : NameSet}
    {os : List SourceOutcome} (h : Gathers (.prompt unanswered) ⟨visit, c, previous⟩ none
      ⟨tables, failed⟩ (dependencyWaves [asked, copied]) os) :
    ∃ t, os = [(asked, none)] ++ [(copied, t)] := by
  rw [dependencyWaves_both] at h
  have hkeys := h.map_fst
  obtain ⟨first, more, rfl, hfirst, hruns, -⟩ := gathers_cons_iff.1 h
  obtain ⟨⟨s, t⟩, rfl, rfl⟩ := List.map_eq_singleton_iff.1 hfirst
  have hnone := ((gives_obtain_asked c previous tables _ _).1
    (hruns _ (List.mem_singleton_self _))).2
  cases hnone
  obtain ⟨⟨s, t'⟩, rfl, rfl⟩ := List.map_eq_singleton_iff.1 (List.cons.inj hkeys).2
  exact ⟨t', rfl⟩

/-- Where both sources belong to the job, every run ends with a failure. -/
theorem discovery_failed_in_job : ∃ cs states, Runs (.prompt unanswered)
    (visit.runConnector (connector [] [asked, copied])) cs (some states) ∧ states.1 = .failed := by
  obtain ⟨cs, states, h⟩ := exists_runs (w := .prompt unanswered) (.named "srv" .linux)
    (fun r => ⟨unanswered r, rfl⟩) (visit.runConnector (connector [] [asked, copied]))
  refine ⟨cs, states, h, ?_⟩
  obtain ⟨previous, pre, ds, hstates, hds⟩ := discovery_failed_iff not_false not_false h
  rw [(jobs_connector _ _).1, (jobs_connector _ _).2] at hds
  have hkey : Reference.key? rows.source = some "B" := by decide +kernel
  cases hds with
  | cons hd hrest =>
    cases hrest with
    | nil =>
      obtain ⟨-, -, own, hcompleted, hiff⟩ := hd
      obtain ⟨t, rfl⟩ := eq_of_gathers hcompleted.sources
      rw [hstates, List.map_singleton, ((hiff rows "B" rfl hkey).2 (.inr (.inl failing_copied))).1]
      rfl

/-- The run of the connector on a host of which there are no tables. -/
def run (before sources : List Source) : SourceRun := ⟨visit, connector before sources, .empty⟩

/-- The host with a disk that was there in the last discovery. -/
def known : Resource :=
  (Resource.named "srv" .linux).put "disk" "C_d0" (.named "d0" "disk" (some "C"))

theorem not_keepsStaleness_known :
    ¬known.KeepsStaleness (known.markStale "C" "disk" .empty) := by
  intro h
  have hat : known.at? "disk" "C_d0" = some (.named "d0" "disk" (some "C")) := by
    rw [known, Resource.at?_put, if_pos ⟨rfl, rfl⟩]
  obtain ⟨m', hm', hstale⟩ := h "disk" "C_d0" _ hat
  rw [Resource.at?_markStale, hat] at hm'
  cases hm'
  exact Bool.noConfusion hstale

theorem gathers_asked : Gathers (.prompt unanswered) (run [asked] [copied]) none ⟨.empty, .empty⟩
    (dependencyWaves [asked]) [(asked, none)] := by
  rw [dependencyWaves_asked]
  refine gathers_cons_iff.2 ⟨[(asked, none)], [], rfl, rfl, fun o ho => ?_, .done _⟩
  cases List.mem_singleton.1 ho
  exact (gives_obtain_asked _ _ _ _ _).2 ⟨rfl, rfl⟩

theorem gathers_copied : Gathers (.prompt unanswered) (run [asked] [copied]) none
    ⟨(harvest .empty [(asked, none)]).tables, .empty⟩ (dependencyWaves [copied])
    [(copied, some .empty)] := by
  have hderive : copied.kind.derive (harvest .empty [(asked, none)]).tables = .empty := by
    decide +kernel
  rw [dependencyWaves_copied]
  refine gathers_cons_iff.2 ⟨[(copied, some .empty)], [], rfl, rfl, fun o ho => ?_, .done _⟩
  cases List.mem_singleton.1 ho
  exact (gives_obtain_copied _ _ _ _ _).2 ⟨rfl, by rw [hderive]⟩

/-- A discovery where the source that failed runs before all jobs. Its copy counts as an empty table
that is there, and all disks are marked as missed. -/
theorem exists_discovery_on_failed_source : ∃ ds, CompletedDiscovery (.prompt unanswered)
    (run [asked] [copied]) "disk" (disks [copied]) [(asked, none)] [(copied, some .empty)] ds
      .succeeded ∧ ∃ c ∈ ds, ¬c.1.KeepsStaleness c.2 := by
  have hpresent : ¬rows.isMissing (fun key =>
      (harvest (harvest .empty [(asked, none)]).tables [(copied, some .empty)]).failed.has key ||
        (harvest .empty [(asked, none)]).failed.has key)
      (harvest (harvest .empty [(asked, none)]).tables [(copied, some .empty)]).tables = true := by
    simp only [harvest, List.foldl, store, references_asked, references_copied, Mapping.isMissing]
    decide +kernel
  have hrows : rows.rows
      (harvest (harvest .empty [(asked, none)]).tables [(copied, some .empty)]).tables = [] := by
    decide +kernel
  obtain ⟨cs, hrecord⟩ :=
    (run [asked] [copied]).runs_recordDuration (.prompt unanswered) "discovery" "disk" 0
  have hconclude : Runs (.prompt unanswered) ((run [asked] [copied]).concludeDiscovery
      (harvest .empty [(asked, none)]).failed "disk" (disks [copied])
      (harvest (harvest .empty [(asked, none)]).tables [(copied, some .empty)])) _
      (some .succeeded) :=
    (runs_concludeDiscovery_of_present not_false rfl hpresent).2 ⟨known, known, rfl, rfl⟩
  rw [hrows] at hconclude
  exact ⟨_, ⟨gathers_asked, gathers_copied, 0,
      runs_bind_of_runs hconclude (runs_bind_of_runs hrecord .done)⟩,
    (known, known.markStale "C" "disk" .empty),
    Multiset.mem_add.2 (.inl (Multiset.mem_add.2 (.inr (Multiset.mem_singleton_self _)))),
    not_keepsStaleness_known⟩

/-- Where the source that failed runs before all jobs, the copy in the job does not count as failed.
The discovery succeeds and marks all disks as missed. -/
theorem discovery_succeeds_on_failed_source : ∃ cs states, Runs (.prompt unanswered)
    (visit.runConnector (connector [asked] [copied])) cs (some states) ∧ states.1 = .succeeded ∧
    ∃ ds, ds ≤ cs ∧ CompletedDiscovery (.prompt unanswered) (run [asked] [copied]) "disk"
        (disks [copied]) [(asked, none)] [(copied, some .empty)] ds .succeeded ∧
      Reference.key? rows.source = some "B" ∧
      Failing ([(asked, none)] ++ [(copied, some .empty)]) "B" ∧
      ∃ c ∈ ds, ¬c.1.KeepsStaleness c.2 := by
  obtain ⟨ds, hd, hstale⟩ := exists_discovery_on_failed_source
  obtain ⟨tables, hjob⟩ := hd.runs_discoverJob not_false
  have hprevious := (runs_work_some_iff (w := .prompt unanswered)
    (f := fun r => (r.tablesOf "C", r.rotateTables "C"))).2 ⟨known, rfl, rfl⟩
  have hbase := (runs_runSources_iff (w := .prompt unanswered) not_false).2
    ⟨rfl, _, gathers_asked, rfl⟩
  have hjobs : Runs (.prompt unanswered)
      ((run [asked] [copied]).overJobs
        ((run [asked] [copied]).discoverJob (harvest .empty [(asked, none)])))
      (0 + ((ds + 0 + 0) + 0)) (some [(.succeeded, tables)]) :=
    runs_bind_of_runs .done (runs_bind_of_runs (.both _ [] hjob .done .done) .done)
  obtain ⟨cs', collected, hcollect⟩ := exists_runs (w := .prompt unanswered) known
    (fun r => ⟨unanswered r, rfl⟩) ((run [asked] [copied]).overJobs
      ((run [asked] [copied]).collectIfAny tables))
  refine ⟨_, _, runs_bind_of_runs hprevious (runs_bind_of_runs hbase (runs_bind_of_runs hjobs
    (runs_bind_of_runs hcollect (runs_bind_of_runs (.update known .done) .done)))), rfl, ds, ?_, hd,
    by decide +kernel, failing_copied, hstale⟩
  simp only [zero_add, add_zero]
  exact (Multiset.le_add_right ..).trans (Multiset.le_add_left ..)

end UnansweredSource

end HardwareWatch
