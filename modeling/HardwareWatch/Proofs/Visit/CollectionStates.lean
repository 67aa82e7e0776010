import HardwareWatch.Proofs.Activity.Seen
import HardwareWatch.Proofs.Visit.Selection
import HardwareWatch.Proofs.Visit.Pass

/-!
# The states of collections

The report of a visit has an entry for every staged connector, and the entry has one state for all
collections of the connector. A log of the visit keeps what became of each of them.

* `CollectionCourse` says how the collection of a job went, `ConnectorCourse` what became of a
  connector.
* `Visit.watch` is the visit with its log, `Visit.seenAs_run` says that it is the same visit.
* `ConnectorLog.Tells` says what the log of a connector and its entry have to do with each other.
  `tells_of_runs_watchSelected` is about one connector that is run, `tells_of_runs_foldlM` about all
  of them.
* `Visit.reports_collections` is the main statement.
-/

namespace HardwareWatch

open Activity

/-! ## Logs -/

/-- How the collection of a job went. -/
inductive CollectionCourse
  /-- There is no mapping, and so nothing is done. -/
  | unmapped
  /-- The collection ran. It came to its end in time or not, and by then the run was cancelled or
  not. -/
  | ran (inTime wasCancelled : Bool)
  deriving DecidableEq

namespace CollectionCourse

/-- Whether the collection ran. -/
def hasRun : CollectionCourse → Bool
  | unmapped => false
  | ran _ _ => true

/-- Whether the collection ran and failed. -/
def hasFailed : CollectionCourse → Bool
  | unmapped => false
  | ran inTime wasCancelled => wasCancelled || !inTime

/-- The state of the job. -/
def state : CollectionCourse → PhaseState
  | unmapped => .skipped
  | ran inTime wasCancelled => if wasCancelled || !inTime then .failed else .succeeded

theorem state_eq_failed_iff {course : CollectionCourse} :
    course.state = .failed ↔ course.hasFailed = true := by
  cases course with
  | unmapped => exact iff_of_false nofun nofun
  | ran inTime wasCancelled => cases inTime <;> cases wasCancelled <;> decide

end CollectionCourse

/-- A job with something to collect, and how its collection went. -/
structure JobCollection where
  type : String
  collect : CollectTask
  course : CollectionCourse

/-- What became of a connector. -/
inductive ConnectorCourse
  /-- It was not selected. -/
  | unselected
  /-- The run was cancelled before it. -/
  | cancelledBefore
  /-- It was run, with a state of its discovery. -/
  | ran (discovery : PhaseState) (collections : List JobCollection)

/-- The collections of a connector. -/
def ConnectorCourse.collections : ConnectorCourse → List JobCollection
  | ran _ collections => collections
  | _ => []

/-- What became of a connector, with its entry in the report. -/
structure ConnectorLog where
  report : ConnectorReport
  course : ConnectorCourse

/-- Change the logs of the connectors with an id. -/
def changeLogs (id : String) (change : ConnectorLog → ConnectorLog) (logs : List ConnectorLog) :
    List ConnectorLog :=
  logs.map fun log => if log.report.connectorId = id then change log else log

theorem map_report_changeLogs {id : String} {change : ConnectorLog → ConnectorLog}
    {change' : ConnectorReport → ConnectorReport} (h : ∀ log, (change log).report = change' log.report)
    (logs : List ConnectorLog) : (changeLogs id change logs).map (·.report) =
      (logs.map (·.report)).map fun r => if r.connectorId = id then change' r else r := by
  rw [changeLogs, List.map_map, List.map_map]
  refine List.map_congr_left fun log _ => ?_
  rw [Function.comp_apply, Function.comp_apply, apply_ite ConnectorLog.report, h]

/-- What became of the connectors of a host, and which of them were selected. -/
structure VisitLog where
  selected : List StagedConnector
  connectors : List ConnectorLog
  cancelled : Bool

/-- The report of a visit with a log. -/
def VisitLog.report (v : Visit) (log : VisitLog) : HostReport :=
  ⟨v.host.hostname, v.time, log.connectors.map (·.report), log.cancelled⟩

/-- What is collected for a job. -/
def JobTasks.collect? : JobTasks → Option CollectTask
  | standard _ collect => collect
  | simple _ => none

/-- All that is collected for a connector, with the types of the jobs, in their order. -/
def Connector.collectTasks (c : Connector) : List (String × CollectTask) :=
  c.jobs.filterMap fun j => j.2.tasks.collect?.map fun collect => (j.1, collect)

/-! ## Visits with logs -/

namespace SourceRun

variable (x : SourceRun) (tables : Namespace) (type : String) (job : MonitorJob)

/-- Collect the monitors of a job and keep how it went. -/
def watchJob (collect : CollectTask) : Activity CollectionCourse := do
  let started ← Activity.clock
  match collect.task.mapping with
  | none => return .unmapped
  | some mapping =>
    let run := match collect.mode with
      | .multiInstance => x.collectAll
      | .monoInstance => x.collectEach
    let ran ← Activity.before (started + x.jobLimitMs) (run tables type job collect.task mapping)
    let cancelled ← Activity.cancelled
    x.recordDuration "collect" type started
    return .ran ran.isSome cancelled

/-- Collect the monitors of a job that has something to collect, and keep how it went. -/
def watchIfAny : Activity (Option JobCollection) :=
  match job.tasks with
  | .standard _ (some collect) =>
    return some ⟨type, collect, ← x.watchJob tables type job collect⟩
  | _ => return none

theorem seenAs_collectJob (collect : CollectTask) :
    SeenAs CollectionCourse.state (x.watchJob tables type job collect)
      (x.collectJob tables type job collect) := by
  refine .after clock fun started => ?_
  cases collect.task.mapping with
  | none => exact .pure rfl
  | some mapping =>
    refine .after _ fun ran => .after _ fun cancelled => .after _ fun _ => .pure ?_
    rw [CollectionCourse.state, Option.not_isSome]

theorem seenAs_collectIfAny : SeenAs (Option.map fun c : JobCollection => c.course.state)
    (x.watchIfAny tables type job) (x.collectIfAny tables type job) := by
  obtain ⟨keys, tasks⟩ := job
  rcases tasks with ⟨discovery, _ | collect⟩ | task
  · exact .pure rfl
  · exact (x.seenAs_collectJob tables type _ collect).bind fun course => .pure rfl
  · exact .pure rfl

theorem seenAs_overJobs {α β : Type} {f : α → β} {run : String → MonitorJob → Activity α}
    {run' : String → MonitorJob → Activity β} (h : ∀ type job, SeenAs f (run type job) (run' type job)) :
    SeenAs (List.map f) (x.overJobs run) (x.overJobs run') := by
  have hjob : ∀ j : String × MonitorJob, SeenAs f (run j.1 j.2) (run' j.1 j.2) :=
    fun j => h j.1 j.2
  refine (SeenAs.mapM fun j _ => hjob j).bind fun first => ?_
  have hend (others : List α) : SeenAs (List.map f)
      (pure (first ++ others)) (pure (first.map f ++ others.map f)) := .pure List.map_append
  dsimp only
  split
  · exact (SeenAs.mapM fun j _ => hjob j).bind hend
  · exact (SeenAs.all fun j _ => hjob j).bind hend

end SourceRun

namespace Visit

/-- Run a connector and keep what became of its collections. -/
def watchConnector (v : Visit) (c : Connector) : Activity (PhaseState × List JobCollection) := do
  let previous ← Activity.work fun r => (r.tablesOf c.id, r.rotateTables c.id)
  let x : SourceRun := ⟨v, c, previous⟩
  let base ← x.runSources none c.pre .empty
  let discovered ← x.overJobs (x.discoverJob base)
  let tables := (discovered.map Prod.snd).foldl Namespace.extend base.tables
  let collected ← x.overJobs (x.watchIfAny tables)
  Activity.modify fun r => { r with tables := r.tables.insert c.id tables }
  return (.ofJobs (discovered.map Prod.fst), collected.filterMap id)

/-- Run a connector and add to its log what became of it, unless the run was cancelled. -/
def watchSelected (v : Visit) (logs : List ConnectorLog) (s : StagedConnector) :
    Activity (List ConnectorLog) := do
  if ← Activity.cancelled then
    return changeLogs s.connector.id (fun log => { log with course := .cancelledBefore }) logs
  else
    let (discovery, collections) ← v.watchConnector s.connector
    return changeLogs s.connector.id (fun log =>
      { report := { log.report with
          discovery, collection := .ofJobs (collections.map (·.course.state)) }
        course := .ran discovery collections }) logs

/-- Visit the host and keep a log. -/
def watch (v : Visit) (store : ConnectorStore) : Activity VisitLog := do
  v.checkProtocols
  let (selected, reports) ← v.detect (stage store v.host)
  let logs ← selected.foldlM v.watchSelected (reports.map (⟨·, .unselected⟩))
  return ⟨selected, logs, ← Activity.cancelled⟩

theorem seenAs_runConnector (v : Visit) (c : Connector) :
    SeenAs (fun found => (found.1, .ofJobs (found.2.map (·.course.state)))) (v.watchConnector c)
      (v.runConnector c) := by
  refine .after _ fun previous => .after _ fun base => .after _ fun discovered => ?_
  refine (SourceRun.seenAs_overJobs _ fun type job => SourceRun.seenAs_collectIfAny ..).bind
    fun collected => .after _ fun _ => .pure ?_
  rw [List.filterMap_map, List.map_filterMap]
  rfl

theorem seenAs_runSelected (v : Visit) (logs : List ConnectorLog) (s : StagedConnector) :
    SeenAs (List.map (·.report)) (v.watchSelected logs s)
      (v.runSelected (logs.map (·.report)) s) := by
  refine .after _ fun cancelled => ?_
  cases cancelled with
  | true =>
    have hkept (log : ConnectorLog) : ({ log with course := .cancelledBefore } : ConnectorLog).report =
        id log.report := rfl
    refine .pure ((map_report_changeLogs hkept logs).trans ?_)
    simp only [id, ite_self, List.map_id']
  | false =>
    refine (v.seenAs_runConnector s.connector).bind fun found => .pure ?_
    exact map_report_changeLogs (fun _ => rfl) logs

/-- **A visit with a log** is the same visit. -/
theorem seenAs_run (v : Visit) (store : ConnectorStore) :
    SeenAs (VisitLog.report v) (v.watch store) (v.run store) := by
  refine .after _ fun _ => .after _ fun found => ?_
  have hlogs := SeenAs.foldlM (l := found.1) (fun logs s _ => v.seenAs_runSelected logs s)
    (found.2.map (⟨·, .unselected⟩))
  rw [List.map_map, Function.comp_def, List.map_id'] at hlogs
  exact hlogs.bind fun logs => .after _ fun cancelled => .pure rfl

end Visit

/-! ## What logs tell -/

/-- What became of a connector fits what it has to collect: there is a collection for each of its
jobs that have one, and those without a mapping did not run. -/
def ConnectorCourse.Fits (c : Connector) (course : ConnectorCourse) : Prop :=
  ∀ discovery collections, course = ran discovery collections →
    collections.map (fun k => (k.type, k.collect)) = c.collectTasks ∧
      ∀ k ∈ collections, (k.course = .unmapped ↔ k.collect.task.mapping = none)

/-- The log of a staged connector, of which it is known whether it was selected. -/
structure ConnectorLog.Tells (selected : List StagedConnector) (s : StagedConnector)
    (log : ConnectorLog) : Prop where
  id : log.report.connectorId = s.connector.id
  forced : log.report.forced = s.forced
  unselected : log.course = .unselected ↔ s ∉ selected
  fits : log.course.Fits s.connector
  collection : log.report.collection = .ofJobs (log.course.collections.map (·.course.state))

variable {w : Surroundings} {v : Visit} {x : SourceRun} {tables : Namespace} {type : String}
  {job : MonitorJob} {cs : Multiset Change}

theorem runs_watchJob {collect : CollectTask} {course : CollectionCourse}
    (h : Runs w (x.watchJob tables type job collect) cs (some course)) :
    course = .unmapped ↔ collect.task.mapping = none := by
  obtain ⟨started, _, _, rfl, -, h⟩ := runs_bind_some_iff.1 h
  cases hmapping : collect.task.mapping with
  | none =>
    rw [hmapping] at h
    exact iff_of_true (runs_pure_some_iff.1 h).2 rfl
  | some mapping =>
    rw [hmapping] at h
    obtain ⟨ran, _, _, rfl, -, h⟩ := runs_bind_some_iff.1 h
    obtain ⟨cancelled, _, _, rfl, -, h⟩ := runs_bind_some_iff.1 h
    obtain ⟨_, _, _, rfl, -, h⟩ := runs_bind_some_iff.1 h
    obtain ⟨-, rfl⟩ := runs_pure_some_iff.1 h
    exact iff_of_false nofun nofun

/-- The collection of a job, if it has one. -/
theorem runs_watchIfAny {collection : Option JobCollection}
    (h : Runs w (x.watchIfAny tables type job) cs (some collection)) :
    collection.map (fun k => (k.type, k.collect)) =
        job.tasks.collect?.map (fun collect => (type, collect)) ∧
      ∀ k ∈ collection, (k.course = .unmapped ↔ k.collect.task.mapping = none) := by
  obtain ⟨keys, tasks⟩ := job
  rcases tasks with ⟨discovery, _ | collect⟩ | task
  · obtain ⟨-, rfl⟩ := runs_pure_some_iff.1 h
    exact ⟨rfl, nofun⟩
  · obtain ⟨course, _, _, rfl, hcourse, h⟩ := runs_bind_some_iff.1 h
    obtain ⟨-, rfl⟩ := runs_pure_some_iff.1 h
    refine ⟨rfl, fun k hk => ?_⟩
    obtain rfl := Option.some.inj hk
    exact runs_watchJob hcourse
  · obtain ⟨-, rfl⟩ := runs_pure_some_iff.1 h
    exact ⟨rfl, nofun⟩

/-- The collections of all jobs, in the order of the jobs. -/
theorem runs_overJobs_watchIfAny {collected : List (Option JobCollection)}
    (h : Runs w (x.overJobs (x.watchIfAny tables)) cs (some collected)) :
    (collected.filterMap id).map (fun k => (k.type, k.collect)) = x.connector.collectTasks ∧
      ∀ k ∈ collected.filterMap id, (k.course = .unmapped ↔ k.collect.task.mapping = none) := by
  have hjobs : List.Forall₂ (fun (j : String × MonitorJob) (collection : Option JobCollection) =>
      collection.map (fun k => (k.type, k.collect)) =
          j.2.tasks.collect?.map (fun collect => (j.1, collect)) ∧
        ∀ k ∈ collection, (k.course = .unmapped ↔ k.collect.task.mapping = none))
      x.connector.jobs collected :=
    (runs_overJobs h).imp fun j collection ⟨_, _, hj⟩ => runs_watchIfAny hj
  rw [Connector.collectTasks]
  generalize x.connector.jobs = jobs at hjobs
  clear h
  induction hjobs with
  | nil => exact ⟨rfl, nofun⟩
  | @cons j collection jobs collected hj _ ih =>
    obtain ⟨htask, hmapping⟩ := hj
    obtain ⟨htasks, hmappings⟩ := ih
    rw [List.filterMap_cons (l := jobs), ← htask]
    cases collection with
    | none => exact ⟨htasks, hmappings⟩
    | some k =>
      exact ⟨congrArg (_ :: ·) htasks, List.forall_mem_cons.2 ⟨hmapping k rfl, hmappings⟩⟩

theorem runs_watchConnector {c : Connector} {found : PhaseState × List JobCollection}
    (h : Runs w (v.watchConnector c) cs (some found)) :
    (ConnectorCourse.ran found.1 found.2).Fits c := by
  obtain ⟨previous, _, _, rfl, -, h⟩ := runs_bind_some_iff.1 h
  obtain ⟨base, _, _, rfl, -, h⟩ := runs_bind_some_iff.1 h
  obtain ⟨discovered, _, _, rfl, -, h⟩ := runs_bind_some_iff.1 h
  obtain ⟨collected, _, _, rfl, hcollected, h⟩ := runs_bind_some_iff.1 h
  obtain ⟨_, _, _, rfl, -, h⟩ := runs_bind_some_iff.1 h
  obtain ⟨-, rfl⟩ := runs_pure_some_iff.1 h
  rintro _ _ ⟨⟩
  exact runs_overJobs_watchIfAny hcollected

/-! ## Connectors one after the other -/

section

variable {staged done : List StagedConnector} {logs logs' : List ConnectorLog} {s t : StagedConnector}
  {log : ConnectorLog}

/-- What is known of another connector. -/
theorem ConnectorLog.Tells.of_ne (h : log.Tells done t) (hne : t ≠ s) :
    log.Tells (done ++ [s]) t where
  id := h.id
  forced := h.forced
  unselected := by rw [h.unselected, List.mem_append, List.mem_singleton, or_iff_left hne]
  fits := h.fits
  collection := h.collection

/-- The log of the connector that comes next is changed, and those of the others stay. -/
theorem forall₂_tells_changeLogs (hids : (staged.map (·.connector.id)).Nodup) (hs : s ∈ staged)
    {change : ConnectorLog → ConnectorLog}
    (hchange : ∀ log, log.Tells done s → (change log).Tells (done ++ [s]) s)
    (h : List.Forall₂ (ConnectorLog.Tells done) staged logs) :
    List.Forall₂ (ConnectorLog.Tells (done ++ [s])) staged
      (changeLogs s.connector.id change logs) := by
  refine List.forall₂_map_right_iff.2
    (((List.forall₂_and_left _ _).2 ⟨fun _ => id, h⟩).imp ?_)
  rintro t log ⟨ht, hlog⟩
  rw [hlog.id]
  split
  · rename_i hid
    obtain rfl := List.inj_on_of_nodup_map hids ht hs hid
    exact hchange log hlog
  · rename_i hid
    exact hlog.of_ne fun he => hid (he ▸ rfl)

/-- **One connector** that is run, or passed over because the run was cancelled. -/
theorem tells_of_runs_watchSelected (hids : (staged.map (·.connector.id)).Nodup) (hs : s ∈ staged)
    (hnew : s ∉ done) (h : Runs w (v.watchSelected logs s) cs (some logs'))
    (hlogs : List.Forall₂ (ConnectorLog.Tells done) staged logs) :
    List.Forall₂ (ConnectorLog.Tells (done ++ [s])) staged logs' := by
  have hselected : ¬s ∉ done ++ [s] := not_not.2 (List.mem_append_right _ List.mem_cons_self)
  obtain ⟨cancelled, _, _, rfl, -, h⟩ := runs_bind_some_iff.1 h
  cases cancelled with
  | true =>
    obtain ⟨-, rfl⟩ := runs_pure_some_iff.1 h
    refine forall₂_tells_changeLogs hids hs (fun log hlog => ?_) hlogs
    have hcollection := hlog.collection
    rw [hlog.unselected.2 hnew] at hcollection
    exact ⟨hlog.id, hlog.forced, iff_of_false nofun hselected, nofun, hcollection⟩
  | false =>
    obtain ⟨found, _, _, rfl, hfound, h⟩ := runs_bind_some_iff.1 h
    obtain ⟨-, rfl⟩ := runs_pure_some_iff.1 h
    refine forall₂_tells_changeLogs hids hs (fun log hlog => ?_) hlogs
    exact ⟨hlog.id, hlog.forced, iff_of_false nofun hselected, runs_watchConnector hfound, rfl⟩

/-- **All connectors** that are selected, one after the other. -/
theorem tells_of_runs_foldlM {selected : List StagedConnector}
    (hids : (staged.map (·.connector.id)).Nodup) (hselected : ∀ s ∈ selected, s ∈ staged)
    (hnodup : (done ++ selected).Nodup)
    (h : Runs w (selected.foldlM v.watchSelected logs) cs (some logs'))
    (hlogs : List.Forall₂ (ConnectorLog.Tells done) staged logs) :
    List.Forall₂ (ConnectorLog.Tells (done ++ selected)) staged logs' := by
  induction selected generalizing done logs cs with
  | nil =>
    obtain ⟨-, rfl⟩ := runs_pure_some_iff.1 h
    rwa [List.append_nil]
  | cons s rest ih =>
    rw [List.foldlM_cons] at h
    obtain ⟨logs₁, _, _, rfl, hfirst, h⟩ := runs_bind_some_iff.1 h
    obtain ⟨hs, hrest⟩ := List.forall_mem_cons.1 hselected
    have hnew : s ∉ done := fun hmem => List.disjoint_of_nodup_append hnodup hmem List.mem_cons_self
    rw [List.append_cons] at hnodup ⊢
    exact ih hrest hnodup h (tells_of_runs_watchSelected hids hs hnew hfirst hlogs)

/-- The logs at the beginning are those of connectors that are not selected. -/
theorem tells_of_selects {detected : Option NameSet} {selection : Selection}
    (h : v.Selects w staged detected selection) :
    List.Forall₂ (ConnectorLog.Tells []) staged
      ((selection.reports staged).map (⟨·, .unselected⟩)) := by
  have htells (t : StagedConnector) (detection : Option DetectionResult) :
      ConnectorLog.Tells [] t ⟨t.skippedReport detection, .unselected⟩ :=
    ⟨rfl, rfl, iff_of_true rfl List.not_mem_nil, nofun, rfl⟩
  cases h with
  | reused _ _ =>
    rw [Selection.reports, Visit.reuseDetection, List.map_map, List.forall₂_map_right_iff,
      List.forall₂_same]
    exact fun t _ => htells t none
  | @evaluated results _ _ hstaged _ _ =>
    subst hstaged
    rw [Selection.reports, List.map_map, List.forall₂_map_right_iff, List.forall₂_map_left_iff,
      List.forall₂_same]
    exact fun e _ => htells e.1 (some e.2)

/-- What is selected is staged, and nothing is selected twice. -/
theorem sublist_selected {detected : Option NameSet} {selection : Selection}
    (h : v.Selects w staged detected selection) : (selection.selected staged).Sublist staged := by
  cases h with
  | reused _ _ => exact List.filter_sublist
  | @evaluated results _ _ hstaged _ _ => exact hstaged ▸ sublist_selectDetected results

end

/-! ## States -/

namespace PhaseState

variable {states : List PhaseState}

theorem ofJobs_eq_skipped_iff : ofJobs states = .skipped ↔ states = [] := by
  rw [ofJobs]
  split
  · rename_i hnil
    exact iff_of_true rfl (List.isEmpty_iff.1 hnil)
  · rename_i hnil
    exact iff_of_false (by split <;> decide) fun h => hnil (List.isEmpty_iff.2 h)

theorem ofJobs_eq_failed_iff : ofJobs states = .failed ↔ .failed ∈ states := by
  rw [ofJobs]
  split
  · rename_i hnil
    rw [List.isEmpty_iff.1 hnil]
    exact iff_of_false (by decide) List.not_mem_nil
  · split
    · rename_i hmem
      exact iff_of_true rfl (List.contains_iff_mem.1 hmem)
    · rename_i hmem
      exact iff_of_false (by decide) fun h => hmem (List.contains_iff_mem.2 h)

/-- A phase succeeds if there are jobs and none of them fails, whether they had anything to do or
not. -/
theorem ofJobs_eq_succeeded_iff :
    ofJobs states = .succeeded ↔ states ≠ [] ∧ .failed ∉ states := by
  rw [← ofJobs_eq_failed_iff, Ne, ← ofJobs_eq_skipped_iff]
  cases ofJobs states <;> simp

end PhaseState

variable {selected : List StagedConnector} {s : StagedConnector} {log : ConnectorLog}

namespace ConnectorLog.Tells

/-- The state of the collections of a connector is that of the jobs that have something to collect. -/
theorem failed_iff (h : log.Tells selected s) :
    log.report.collection = .failed ↔ ∃ k ∈ log.course.collections, k.course.hasFailed = true := by
  rw [h.collection, PhaseState.ofJobs_eq_failed_iff, List.mem_map]
  exact exists_congr fun k => and_congr_right fun _ => CollectionCourse.state_eq_failed_iff

theorem skipped_iff (h : log.Tells selected s) :
    log.report.collection = .skipped ↔ log.course.collections = [] := by
  rw [h.collection, PhaseState.ofJobs_eq_skipped_iff, List.map_eq_nil_iff]

theorem succeeded_iff (h : log.Tells selected s) : log.report.collection = .succeeded ↔
    log.course.collections ≠ [] ∧ ∀ k ∈ log.course.collections, k.course.hasFailed = false := by
  have hfailed := h.failed_iff
  rw [h.collection] at hfailed ⊢
  rw [PhaseState.ofJobs_eq_succeeded_iff, ← PhaseState.ofJobs_eq_failed_iff, hfailed, Ne,
    List.map_eq_nil_iff]
  simp

/-- **When the state tells what ran**: if some collection ran or the connector has nothing to collect.
-/
theorem ran_iff (h : log.Tells selected s) :
    ((log.report.collection = .succeeded ↔
        (∃ k ∈ log.course.collections, k.course.hasRun = true) ∧
          ∀ k ∈ log.course.collections, k.course.hasFailed = false) ∧
      (log.report.collection = .skipped ↔
        ∀ k ∈ log.course.collections, k.course.hasRun = false)) ↔
    (log.course.collections ≠ [] → ∃ k ∈ log.course.collections, k.course.hasRun = true) := by
  rw [h.succeeded_iff, h.skipped_iff]
  generalize log.course.collections = collections
  constructor
  · rintro ⟨-, hskipped⟩ hne
    by_contra hnone
    refine hne (hskipped.2 fun k hk => ?_)
    exact Bool.eq_false_of_not_eq_true fun hrun => hnone ⟨k, hk, hrun⟩
  · intro h
    refine ⟨and_congr_left fun _ => ⟨h, fun ⟨k, hk, _⟩ => List.ne_nil_of_mem hk⟩, ?_, ?_⟩
    · rintro rfl k hk
      cases hk
    · intro hnone
      by_contra hne
      obtain ⟨k, hk, hrun⟩ := h hne
      exact Bool.false_ne_true ((hnone k hk).symm.trans hrun)

end ConnectorLog.Tells

/-! ## Reports -/

/-- The ids of the staged connectors are in the order of the store. -/
theorem ascending_ids_stage (connectors : List Connector) (host : HostSettings) :
    (stagedOf connectors host).Pairwise fun s t => s.connector.id < t.connector.id := by
  have hids : ∀ e ∈ (ConnectorStore.ofConnectors connectors).toList, ∀ s,
      stageOne? host e.1 e.2 = some s → s.connector.id = e.1 := fun e he s hs => by
    rw [connector_of_stageOne? hs]
    exact ConnectorStore.id_of_mem_ofConnectors he
  rw [stagedOf, stage, List.pairwise_filterMap]
  refine (ConnectorStore.ofConnectors connectors).ascending.imp_of_mem ?_
  intro e e' he he' hlt s hs s' hs'
  rwa [hids e he s hs, hids e' he' s' hs']

/-- **The states of collections.** A visit has a log, with an entry for every staged connector, in
the order of the store, that is its entry in the report. The connectors that were not selected and
those before which the run was cancelled have no collections, and a connector that was run has those
of its jobs with something to collect, of which the ones with a mapping ran. Then the state in the
report is failed if and only if one of the collections failed, succeeded if and only if there are
collections and none of them failed, and skipped if and only if there are none. Whether any of the
collections ran can be read off the state if and only if some did or there are none. -/
theorem Visit.reports_collections {σ : Type} (v : Visit) (connectors : List Connector)
    (network : Network σ) (cancelAt : Option Nat) (s : Site σ) :
    let store := ConnectorStore.ofConnectors connectors
    let watched := (v.watch store).run network cancelAt s
    (v.run store).run network cancelAt s = (watched.1.report v, watched.2) ∧
      ((stage store v.host).Pairwise fun s t => s.connector.id < t.connector.id) ∧
      List.Forall₂ (fun s log =>
        let collections := log.course.collections
        log.Tells watched.1.selected s ∧
        (log.report.collection = .failed ↔ ∃ k ∈ collections, k.course.hasFailed = true) ∧
        (log.report.collection = .succeeded ↔
          collections ≠ [] ∧ ∀ k ∈ collections, k.course.hasFailed = false) ∧
        (log.report.collection = .skipped ↔ collections = []) ∧
        (((log.report.collection = .succeeded ↔ (∃ k ∈ collections, k.course.hasRun = true) ∧
              ∀ k ∈ collections, k.course.hasFailed = false) ∧
            (log.report.collection = .skipped ↔ ∀ k ∈ collections, k.course.hasRun = false)) ↔
          (collections ≠ [] → ∃ k ∈ collections, k.course.hasRun = true)))
        (stage store v.host) watched.1.connectors := by
  intro store watched
  have htells : List.Forall₂ (ConnectorLog.Tells watched.1.selected) (stage store v.host)
      watched.1.connectors := by
    have hends := ends_run (Surroundings.around_admits network _) cancelAt (v.watch store) s id
    change Ends _ _ _ _ watched.1 _ at hends
    obtain ⟨_, _, -, hends⟩ := ends_bind_iff.1 hends
    obtain ⟨found, _, hdetect, hends⟩ := ends_bind_iff.1 hends
    obtain ⟨logs, _, hlogs, hends⟩ := ends_bind_iff.1 hends
    obtain ⟨cancelled, _, -, hends⟩ := ends_bind_iff.1 hends
    obtain ⟨hlog, -⟩ := ends_pure_iff.1 hends
    rw [hlog]
    obtain ⟨selection, hselects, -, rfl⟩ := ends_detect hdetect
    obtain ⟨_, hruns, -⟩ := hlogs.runs
    have hids := nodup_ids_stage connectors v.host
    have hsublist := sublist_selected hselects
    exact tells_of_runs_foldlM hids (fun _ hs => hsublist.subset hs)
      (hids.of_map.sublist hsublist) hruns (tells_of_selects hselects)
  refine ⟨(v.seenAs_run store).run network cancelAt s, ascending_ids_stage connectors v.host,
    htells.imp fun s log hlog => ?_⟩
  exact ⟨hlog, hlog.failed_iff, hlog.succeeded_iff, hlog.skipped_iff, hlog.ran_iff⟩

/-! ## A collection without a mapping -/

namespace UnmappedCollection

/-- A job that collects without a mapping. -/
def disks : MonitorJob := ⟨["id"], .standard ⟨[], none⟩ (some ⟨.multiInstance, ⟨[], none⟩⟩)⟩

/-- A connector with this job. -/
def connector : Connector :=
  ⟨1, "C", none, none, [], ⟨[], false, [], []⟩, .empty, .empty, [], .ofList [("disk", disks)]⟩

/-- A visit to a host, without extensions. -/
def visit : Visit := ⟨⟨[], none⟩, .named "srv" .linux, .standard, 0⟩

/-- Nobody is asked. -/
def network : Network Unit := fun _ s => (⟨0, .error ⟨.probeFailure, ""⟩⟩, s)

/-- The site of the visit. -/
def site : Site Unit := .fresh (.named "srv" .linux) ()

/-- The collection of the only job did not run, and the state is that of a success. -/
theorem succeeds_without_run :
    let store := ConnectorStore.ofConnectors [connector]
    let left := (visit.run store).run network none site
    let watched := (visit.watch store).run network none site
    stage store visit.host = [⟨connector, false⟩] ∧
      left.1.connectors.map (fun e => (e.connectorId, e.collection)) = [("C", .succeeded)] ∧
      watched.1.connectors.map (·.course.collections.map (·.course)) = [[.unmapped]] := by
  have hleft : ((visit.run (.ofConnectors [connector])).poll network site).1.result?.map
      (fun r => r.connectors.map fun e => (e.connectorId, e.collection)) =
        some [("C", .succeeded)] := by decide +kernel
  have hwatched : ((visit.watch (.ofConnectors [connector])).poll network site).1.result?.map
      (fun log => log.connectors.map (·.course.collections.map (·.course))) =
        some [[.unmapped]] := by decide +kernel
  exact ⟨by decide +kernel, map_run_at_once rfl rfl hleft, map_run_at_once rfl rfl hwatched⟩

end UnmappedCollection

end HardwareWatch
