import HardwareWatch.Proofs.Activity.InTime
import HardwareWatch.Proofs.Sources.Rows
import HardwareWatch.Proofs.Visit.Retries

/-!
# Outages of sources that loop over rows

A source that loops over rows does not fail with the answers for its rows, not even where all of
them are errors. Its table is then made of empty tables, and a discovery takes it for the answer
that nothing is left.

* `LoopFate` says what becomes of such a source, and `LoopCourse` relates it to the run of the
  sources around it.
* `DiscoveryEnd` says how the discovery of a job depends on the sources that failed.
* `SourceRun.loopCourse_of_runs` says when a source with a loop fails, and the discovery with it.
* `SilentRows.outage_succeeds` has an outage in which nothing fails and a monitor is marked as
  missed.
-/

namespace HardwareWatch

open Activity SourceRun

/-- What becomes of a source with a loop, given the source with its gaps filled, what there was when
its outcome was stored, the tables that it read, and what came of its rows. -/
structure LoopFate (x : SourceRun) (s ready : Source) (loop : EntryLoop) (before : Harvest)
    (seen : Namespace) (p : Poll) (h : Harvest) : Prop where
  /-- It fails where the loop ended before its time and where it is built on a failure. -/
  failed : h.failed.has s.key = true ↔
    p.broken.isSome = true ∨ ∃ k ∈ s.references, before.failed.has k = true
  table : p.broken = none →
    h.tables.get? s.key = some (x.finish ready seen (loop.merge.merge p.tables))
  /-- An outage is no failure, and its table is that of empty answers. -/
  outage : p.IsOutage →
    (h.failed.has s.key = true ↔ ∃ k ∈ s.references, before.failed.has k = true) ∧
      h.tables.get? s.key =
        some (x.finish ready seen (loop.merge.merge (p.rows.map fun row => (row, .empty))))

/-- The course of sources among which there is one with a loop: the outcomes that were stored before
and after its own, and those of the waves before its wave. -/
structure LoopCourse (w : Surroundings) (x : SourceRun) (attributes : Option (NameMap String))
    (sources : List Source) (tables : Namespace) (s ready : Source) (loop : EntryLoop) (h : Harvest)
    (earlier before after : List SourceOutcome) (t : Option Table) : Prop where
  gathers : Gathers w x attributes ⟨tables, .empty⟩ (dependencyWaves sources)
    (before ++ (s, t) :: after)
  left : h = harvest tables (before ++ (s, t) :: after)
  waves : earlier <+: before
  /-- What the last attempt came to. -/
  fate : ∀ entries, Table.lookup loop.source (harvest tables earlier).tables = some entries →
    ∃ p : Poll, p.rows = entries.rows ∧ Polls w x ready (harvest tables earlier).tables p ∧
      LoopFate x s ready loop (harvest tables before) (harvest tables earlier).tables p h

/-- How the discovery of a job ends whose mapping reads the table with the key, given what the
sources that run before all jobs left. -/
inductive DiscoveryEnd (w : Surroundings) (x : SourceRun) (base : Harvest) (job : MonitorJob)
    (k : String) (cs : Multiset Change) (state : PhaseState) : Prop
  | late (hl : w.mayBeLate) (hstate : state = .failed) (hkept : ∀ c ∈ cs, c.1.KeepsStaleness c.2)
  | inTime {own : Harvest}
      (hown : Runs w (x.runSources none (discoveryTask job.tasks).sources base.tables) 0 (some own))
      (hfailed : (state = .failed ∧ ∀ c ∈ cs, c.1.KeepsStaleness c.2) ↔
        base.failed.has k = true ∨ own.failed.has k = true)

variable {w : Surroundings} {x : SourceRun} {attributes : Option (NameMap String)}
  {sources : List Source} {tables : Namespace} {s ready : Source} {loop : EntryLoop}
  {before after : List SourceOutcome} {t : Option Table} {p : Poll} {cs : Multiset Change}

/-! ## What becomes of the source -/

theorem loopFate_of_polls {seen : Namespace} (hpolls : Polls w x ready seen p)
    (hbefore : ∀ o ∈ before, o.key ≠ s.key) (hafter : ∀ o ∈ after, o.key ≠ s.key)
    (ht : t = (p.result.map fun results =>
      x.finish ready seen (loop.merge.merge results)).toOption) :
    LoopFate x s ready loop (harvest tables before) seen p
      (harvest tables (before ++ (s, t) :: after)) := by
  have hfailed : (harvest tables (before ++ (s, t) :: after)).failed.has s.key = true ↔
      p.broken.isSome = true ∨ ∃ k ∈ s.references, (harvest tables before).failed.has k = true := by
    simp only [has_failed_harvest]
    rw [Failing.middle_iff hbefore hafter]
    refine or_congr_left ?_
    rw [ht, Poll.result]
    cases p.broken <;> simp [Except.map, Except.toOption]
  have htable : ∀ results, p.result = .ok results →
      (harvest tables (before ++ (s, t) :: after)).tables.get? s.key =
        some (x.finish ready seen (loop.merge.merge results)) := by
    intro results hresults
    rw [get?_harvest_middle hafter, ht, hresults]
    rfl
  refine ⟨hfailed, fun hb => htable _ (by rw [Poll.result, hb]), fun ho => ⟨?_, ?_⟩⟩
  · rw [hfailed, ho.unbroken]
    simp
  · exact htable _ (hpolls.result_of_isOutage ho)

/-- The outcomes around one whose key no other source has. -/
theorem SourceRun.exists_split (hs : s ∈ sources) (hone : (sources.map (·.key)).count s.key = 1)
    {os : List SourceOutcome} (hos : (os.map Prod.fst).Perm sources) :
    ∃ (before after : List SourceOutcome) (t : Option Table), os = before ++ (s, t) :: after ∧
      (∀ o ∈ before, o.key ≠ s.key) ∧ ∀ o ∈ after, o.key ≠ s.key := by
  obtain ⟨⟨s', t⟩, ho, rfl⟩ := List.mem_map.1 (hos.mem_iff.2 hs)
  obtain ⟨before, after, rfl⟩ := List.append_of_mem ho
  have hcount : ((before ++ (s', t) :: after).map SourceOutcome.key).count s'.key = 1 := by
    rw [← hone, ← (hos.map (·.key)).count_eq, List.map_map]
    rfl
  rw [List.map_append, List.map_cons, List.count_append,
    show SourceOutcome.key (s', t) = s'.key from rfl, List.count_cons_self] at hcount
  have habsent {os : List SourceOutcome} (h : (os.map SourceOutcome.key).count s'.key = 0) :
      ∀ o ∈ os, o.key ≠ s'.key := fun o ho hkey =>
    List.not_mem_of_count_eq_zero h (hkey ▸ List.mem_map_of_mem (f := SourceOutcome.key) ho)
  exact ⟨before, after, t, rfl, habsent (by omega), habsent (by omega)⟩

theorem SourceRun.exists_loopCourse (hw : ¬w.mayBeCancelled) (hs : s ∈ sources)
    (hone : (sources.map (·.key)).count s.key = 1) (hready : s.ready? attributes = some ready)
    (hloop : ready.entries = some loop) {h : Harvest}
    (hruns : Runs w (x.runSources attributes sources tables) cs (some h)) :
    ∃ earlier before after t,
      LoopCourse w x attributes sources tables s ready loop h earlier before after t := by
  obtain ⟨-, os, hg, rfl⟩ := (runs_runSources_iff hw).1 hruns
  have hos : (os.map Prod.fst).Perm sources := by
    rw [hg.map_fst]
    exact perm_flatten_dependencyWaves sources
  obtain ⟨before, after, t, rfl, hbefore, hafter⟩ := exists_split hs hone hos
  obtain ⟨earlier, hearlier, hpoll⟩ := hg.exists_poll hw hready hloop
  refine ⟨earlier, before, after, t, hg, rfl, hearlier, fun entries hentries => ?_⟩
  obtain ⟨p, hrows, hpolls, ht⟩ := hpoll entries hentries
  exact ⟨p, hrows, hpolls, loopFate_of_polls hpolls hbefore hafter ht⟩

/-! ## The discovery of a job -/

/-- A discovery fails and marks nothing as missed where the source of its mapping failed. -/
theorem SourceRun.discoveryEnd_of_runs (hw : ¬w.mayBeCancelled) {base : Harvest}
    {cs₀ : Multiset Change}
    (hbase : Runs w (x.runSources none x.connector.pre .empty) cs₀ (some base))
    {type : String} {job : MonitorJob} {m : Mapping} {k : String}
    (hm : (discoveryTask job.tasks).mapping = some m) (hk : Reference.key? m.source = some k)
    (hs : ∃ s ∈ x.connector.pre ++ (discoveryTask job.tasks).sources, s.key = k)
    {state : PhaseState} {left : Namespace}
    (hruns : Runs w (x.discoverJob base type job) cs (some (state, left))) :
    DiscoveryEnd w x base job k cs state := by
  obtain ⟨-, pre, hpre, rfl⟩ := (runs_runSources_iff hw).1 hbase
  rcases runs_discoverJob hw hpre hruns with ⟨own, hd⟩ | ⟨hl, hstate, hkept⟩
  · have hown := (runs_runSources_iff hw).2 ⟨rfl, own, hd.sources, rfl⟩
    refine .inTime hown ?_
    rw [hd.failed_iff hw hm hk, has_failed_harvest, has_failed_harvest]
    refine or_congr_right (or_iff_left fun hnone => ?_)
    obtain ⟨s, hs, hkey⟩ := hs
    have hmem : s ∈ (pre ++ own).map Prod.fst := by
      rw [List.map_append, hd.before.map_fst, hd.sources.map_fst, List.mem_append,
        (perm_flatten_dependencyWaves _).mem_iff, (perm_flatten_dependencyWaves _).mem_iff]
      exact List.mem_append.1 hs
    obtain ⟨o, ho, rfl⟩ := List.mem_map.1 hmem
    exact hnone o ho hkey
  · exact .late hl hstate hkept

/-- **When a source with a loop fails**, be it in whatever sources with no other one of its key. Its
last attempt is for the rows of a table that there was before its wave. It fails if and only if the
loop ended before its time, with a row that cannot be filled in or an answer of a cancelled probe,
or if a source failed that it refers to. So it does not fail with an outage, in which the answer for
every row is an error: then its table is that of empty answers. If it belongs to the sources before
all jobs or to those of a job whose mapping reads its table, the discovery of the job fails and
marks nothing as missed if and only if it failed, unless the job was too late. -/
theorem SourceRun.loopCourse_of_runs (x : SourceRun) (hw : ¬w.mayBeCancelled) (hs : s ∈ sources)
    (hone : (sources.map (·.key)).count s.key = 1) (hready : s.ready? attributes = some ready)
    (hloop : ready.entries = some loop) :
    (∀ tables cs h, Runs w (x.runSources attributes sources tables) cs (some h) →
      ∃ earlier before after t,
        LoopCourse w x attributes sources tables s ready loop h earlier before after t) ∧
    ∀ base cs₀, Runs w (x.runSources none x.connector.pre .empty) cs₀ (some base) →
      ∀ type job m, (discoveryTask job.tasks).mapping = some m →
        Reference.key? m.source = some s.key →
        sources = x.connector.pre ∨ sources = (discoveryTask job.tasks).sources →
        ∀ cs state left, Runs w (x.discoverJob base type job) cs (some (state, left)) →
          DiscoveryEnd w x base job s.key cs state := by
  refine ⟨fun tables cs h => exists_loopCourse hw hs hone hready hloop, ?_⟩
  intro base cs₀ hbase type job m hm hk hsources cs state left hruns
  refine discoveryEnd_of_runs hw hbase hm hk ⟨s, ?_, rfl⟩ hruns
  rcases hsources with rfl | rfl
  · exact List.mem_append_left _ hs
  · exact List.mem_append_right _ hs

/-! ## An outage -/

namespace SilentRows

/-- A table with one row. -/
def ids : Source := ⟨"ids", 0, false, [], none, .static "d0"⟩

/-- A source that an extension is asked for, for each row of the table. -/
def asked : Source :=
  ⟨"A", 1, false, [], some ⟨"$\x7bsource::ids\x7d", .list⟩, .snmpGet "1.2.$1"⟩

/-- The table that the source loops over. -/
def entriesIn (tables : Namespace) : Option Table :=
  asked.entries.bind fun loop => Table.lookup loop.source tables

/-- The mapping of its rows. -/
def rows : Mapping := ⟨"$\x7bsource::A\x7d", .ofList [("id", "$1")], .empty, .empty⟩

/-- The job that discovers the disks. -/
def disks : MonitorJob := ⟨["id"], .standard ⟨[ids, asked], some rows⟩ none⟩

/-- The connector that asks for each disk when it discovers them. -/
def connector : Connector :=
  ⟨1, "C", none, none, [], ⟨[], false, [], []⟩, .empty, .empty, [], .ofList [("disk", disks)]⟩

/-- The extension that is asked. -/
def snmp : Extension := ⟨"snmp", [.snmpGet], [], fun _ => true⟩

/-- A visit to the host. -/
def visit : Visit := ⟨⟨[snmp], none⟩, .named "srv" .linux, .standard, 0⟩

/-- The run of the connector on a host of which there are no tables. -/
def run : SourceRun := ⟨visit, connector, .empty⟩

/-- What the extension is asked for the row. -/
def request : Request := visit.request snmp (visit.host.timeoutFor none)
  (.source ⟨"A", 1, false, [], none, .snmpGet "1.2.d0"⟩)

/-- Nobody answers. -/
def silence : EngineError := ⟨.probeFailure, "no answer"⟩

/-- Nobody answers whatever is asked. -/
def network : Network Unit := fun _ u => (⟨0, .error silence⟩, u)

/-- The site of a visit to a host with a disk that was there in the last discovery. -/
def site : Site Unit :=
  { Site.fresh (.named "srv" .linux) () with
    resource := (Resource.named "srv" .linux).put "disk" "C_d0" (.named "d0" "disk" (some "C")) }

theorem references_ids : ids.references = [] := by
  rw [Source.references_eq]
  decide +kernel

theorem references_asked : asked.references = ["ids"] := by
  rw [Source.references_eq]
  decide +kernel

theorem dependencyWaves_sources : dependencyWaves [ids, asked] = [[ids], [asked]] := by
  simp only [dependencyWaves, levels, levelOf, references_ids, references_asked]
  decide +kernel

/-- The sources come to their end at once, with one request, and none of them fails. -/
theorem run_sources : ∃ h left,
    (run.runSources none [ids, asked] .empty).run network none site = (h, left) ∧
      (entriesIn h.tables).map (·.rows) = some [["d0"]] ∧ h.failed.has "A" = false ∧
      CallEvent.answered left.events = [request] ∧ left.cancelled = false := by
  rw [runSources, dependencyWaves_sources]
  have hpolled :
      let polled := ([[ids], [asked]].foldlM (run.runWave none [ids, asked])
        ⟨.empty, .empty⟩).poll network site
      polled.1.result?.map (fun h => ((entriesIn h.tables).map (·.rows), h.failed.has "A")) =
          some (some [["d0"]], false) ∧
        CallEvent.answered polled.2.events = [request] ∧ polled.2.cancelled = false := by
    decide +kernel
  obtain ⟨hleft, hsite⟩ := hpolled
  obtain ⟨h, hresult, hleft⟩ := Option.map_eq_some_iff.1 hleft
  exact ⟨h, _, run_at_once rfl rfl hresult, congrArg Prod.fst hleft, congrArg Prod.snd hleft, hsite⟩

/-- The run of the connector comes to its end at once, too, and the disk is marked as missed. -/
theorem run_visit : ∃ left,
    (visit.runConnector connector).run network none site = ((.succeeded, .skipped), left) ∧
      CallEvent.answered left.events = [request] ∧
      (left.resource.at? "disk" "C_d0").map (·.isStale) = some true := by
  have hpolled :
      let polled := (visit.runConnector connector).poll network site
      polled.1.result? = some (.succeeded, .skipped) ∧
        CallEvent.answered polled.2.events = [request] ∧
        (polled.2.resource.at? "disk" "C_d0").map (·.isStale) = some true := by
    decide +kernel
  exact ⟨_, run_at_once rfl rfl hpolled.1, hpolled.2⟩

/-- The only row of the table has a request whose answer is an error. The source with the loop does
not fail, and the discovery succeeds and marks the disk as missed. -/
theorem outage_succeeds :
    let gathered := (run.runSources none [ids, asked] .empty).run network none site
    let visited := (visit.runConnector connector).run network none site
    (discoveryTask disks.tasks).sources = [ids, asked] ∧
    Reference.key? rows.source = some asked.key ∧
    (entriesIn gathered.1.tables).map (·.rows) = some [["d0"]] ∧
    CallEvent.answered gathered.2.events = [request] ∧
    (network request ()).1.answer = .error silence ∧
    gathered.1.failed.has asked.key = false ∧
    visited.1.1 = .succeeded ∧ CallEvent.answered visited.2.events = [request] ∧
    (site.resource.at? "disk" "C_d0").map (·.isStale) = some false ∧
    (visited.2.resource.at? "disk" "C_d0").map (·.isStale) = some true := by
  intro gathered visited
  obtain ⟨h, left, hgathered, hentries, hfailed, hasked, -⟩ := run_sources
  obtain ⟨left', hvisited, hasked', hstale⟩ := run_visit
  have hgathered : gathered = (h, left) := hgathered
  have hvisited : visited = ((.succeeded, .skipped), left') := hvisited
  rw [hgathered, hvisited]
  exact ⟨rfl, by decide +kernel, hentries, hasked, rfl, hfailed, rfl, hasked', by decide +kernel,
    hstale⟩

/-- What becomes of the source in this run, and in discoveries, by the rule for all runs. -/
theorem loopCourse_of_asked :
    let gathered := (run.runSources none [ids, asked] .empty).run network none site
    let loop : EntryLoop := ⟨"$\x7bsource::ids\x7d", .list⟩
    let w := Surroundings.around network (gathered.2.cancelled = true)
    ¬w.mayBeCancelled ∧ asked ∈ [ids, asked] ∧ ([ids, asked].map (·.key)).count asked.key = 1 ∧
    asked.ready? none = some asked ∧ asked.entries = some loop ∧
    (∃ earlier before after t,
      LoopCourse w run none [ids, asked] .empty asked asked loop gathered.1 earlier before after
        t) ∧
    ∀ base cs₀, Runs w (run.runSources none run.connector.pre .empty) cs₀ (some base) →
      ∀ cs state left, Runs w (run.discoverJob base "disk" disks) cs (some (state, left)) →
        DiscoveryEnd w run base disks "A" cs state := by
  intro gathered loop w
  obtain ⟨h, left, hgathered, -, -, -, hcancelled⟩ := run_sources
  have hgathered : gathered = (h, left) := hgathered
  have hw : ¬w.mayBeCancelled := by
    change ¬gathered.2.cancelled = true
    rw [hgathered, hcancelled]
    exact nofun
  have hmem : asked ∈ [ids, asked] := List.mem_cons_of_mem _ (List.mem_singleton_self _)
  obtain ⟨hcourse, hdiscovery⟩ :=
    @SourceRun.loopCourse_of_runs w none [ids, asked] asked asked loop run hw hmem rfl rfl rfl
  obtain ⟨cs, hruns⟩ :=
    Activity.exists_runs_run network none (run.runSources none [ids, asked] .empty) site
  have hkey : Reference.key? rows.source = some asked.key := by decide +kernel
  exact ⟨hw, hmem, rfl, rfl, rfl, hcourse _ _ _ hruns, fun base cs₀ hbase cs state left =>
    hdiscovery base cs₀ hbase "disk" disks rows rfl hkey (.inr rfl) cs state left⟩

end SilentRows

end HardwareWatch
