import HardwareWatch.Proofs.Activity.AtSite
import HardwareWatch.Proofs.Visit.JobChanges
import HardwareWatch.Visit.Host

/-!
# Reachable resources

A resource starts without monitors and is then changed by visits, in small steps: a monitor is made
or renewed, values of a monitor are written, monitors are marked as missed.

* `Resource.Step` is one such step, `Resource.Reachable` says what steps lead to.
* `Visit.changesOnly_run` says that a visit changes its resource by such steps only.
* `Visit.reachable_run` says that every visit leaves a reachable resource behind.
-/

namespace HardwareWatch

open Activity Relation

namespace Resource

/-- A small change that a visit makes to the resource of its host. -/
inductive Step : Resource → Resource → Prop
  /-- A number is written for the host itself. -/
  | endpoint (r : Resource) (name : String) (value : Float) (time : Instant) :
    Step r (r.updateEndpoint (·.setNumber name value time))
  /-- The result of a detection is written. -/
  | detection (r : Resource) (time : Instant) (c : Connector) (result : DetectionResult) :
    Step r (recordDetection time c result r)
  /-- A monitor is made or renewed. -/
  | renewal {r r' : Resource} {job : JobContext} {attributes : NameMap String} {key : String}
      (h : job.createOrRenew r attributes = some (r', key)) : Step r r'
  /-- Values of a row are written. -/
  | values (r : Resource) (job : JobContext) (key : String) (row : InterpretedRow) :
    Step r (job.update r key (job.writeValues row))
  /-- Monitors are marked as missed. -/
  | staleness (r : Resource) (connector type : String) (ids : NameSet) :
    Step r (r.markStale connector type ids)
  /-- Nothing is changed that is about monitors. -/
  | other {r r' : Resource} (hm : r'.monitors = r.monitors) (hn : r'.hostname = r.hostname) :
    Step r r'

/-- Steps lead from one resource to another. -/
abbrev Steps : Resource → Resource → Prop := ReflTransGen Step

/-- Steps lead to the resource from one without monitors. -/
def Reachable (r : Resource) : Prop := ∃ hostname kind, Steps (.named hostname kind) r

theorem Reachable.steps {r r' : Resource} (hr : r.Reachable) (h : Steps r r') : r'.Reachable := by
  obtain ⟨hostname, kind, hr⟩ := hr
  exact ⟨hostname, kind, hr.trans h⟩

/-- What small steps preserve holds of all reachable resources. -/
theorem Reachable.invariant {P : Resource → Prop} (hinit : ∀ hostname kind, P (.named hostname kind))
    (hstep : ∀ r r', P r → Step r r' → P r') {r : Resource} (hr : r.Reachable) : P r := by
  obtain ⟨hostname, kind, hr⟩ := hr
  induction hr with
  | refl => exact hinit hostname kind
  | tail _ h ih => exact hstep _ _ ih h

end Resource

/-! ## Rows -/

namespace JobContext

open Resource

variable (job : JobContext)

theorem steps_discover (mapping : Mapping) (rows : List Row) (r : Resource) :
    Steps r (job.discover mapping rows r).1 := by
  have hrow : ∀ (state : Resource × NameSet) row,
      Steps state.1 (job.discoverRow mapping state row).1 := by
    intro state row
    rw [discoverRow]
    dsimp only
    split
    · exact .refl
    · rename_i r' key h
      exact (ReflTransGen.single (.renewal h)).tail (.values r' job key _)
  refine List.foldlRecOn (motive := fun state => Steps r state.1) _ (job.discoverRow mapping) ?_
    fun state h row _ => h.trans (hrow state row)
  exact .refl

theorem steps_collect (mapping : Mapping) (rows : List Row) (r : Resource) :
    Steps r (job.collect mapping rows r).1 := by
  have hrow : ∀ (state : Resource × Nat) row,
      Steps state.1 (job.collectRow mapping state row).1 := by
    intro state row
    rw [collectRow]
    split
    · exact .refl
    · exact .single (.values state.1 job _ _)
  refine List.foldlRecOn (motive := fun state => Steps r state.1) _ (job.collectRow mapping) ?_
    fun state h row _ => h.trans (hrow state row)
  exact .refl

theorem steps_collectOne (mapping : Mapping) (rows : List Row) (id : String) (r : Resource) :
    Steps r (job.collectOne mapping rows id r).1 := by
  cases rows with
  | nil => exact .refl
  | cons row rest => exact .single (.values r job _ _)

end JobContext

theorem steps_recordDetections (time : Instant) (results : List (StagedConnector × DetectionResult))
    (r : Resource) :
    r.Steps (results.foldl (fun r (s, result) => recordDetection time s.connector result r) r) :=
  List.foldlRecOn (motive := r.Steps) _ _ .refl fun r' h e _ =>
    h.tail (.detection r' time e.1.connector e.2)

/-! ## Visits -/

theorem Resource.CollectionChange.steps {r r' : Resource} (h : r.CollectionChange r') :
    r.Steps r' := by
  cases h with
  | none => exact .refl
  | rows job mapping rows => exact job.steps_collect mapping rows r
  | row job mapping rows id => exact job.steps_collectOne mapping rows id r
  | endpoint name value time => exact .single (.endpoint r name value time)

theorem SourceRun.changesOnly_steps_discoverJob (x : SourceRun) (base : Harvest) (type : String)
    (job : MonitorJob) : ChangesOnly Resource.Steps (x.discoverJob base type job) :=
  ChangesOnly.discoverJob (fun _ _ r => JobContext.steps_discover _ _ _ r)
    (fun _ r => .single (.staleness r _ _ _)) fun _ r => .single (.endpoint r _ _ _)

namespace Visit

variable (v : Visit)

theorem changesOnly_steps_runConnector (c : Connector) :
    ChangesOnly Resource.Steps (v.runConnector c) :=
  ChangesOnly.runConnector (fun _ => .single (.other rfl rfl))
    (fun _ base type job => SourceRun.changesOnly_steps_discoverJob _ base type job)
    (fun _ _ type job => (SourceRun.changesOnly_collectIfAny _ _ type job).mono fun _ _ h => h.steps)
    fun _ _ => .single (.other rfl rfl)

theorem quiet_evaluate (c : Criterion) : Quiet (v.evaluate c) := by
  rw [evaluate]
  split
  · exact ChangesOnly.pure _
  · exact ChangesOnly.pure _
  · rw [probeCriterion]
    split
    · exact ChangesOnly.pure _
    · refine ChangesOnly.bind (v.quiet_probe _ _ _) fun answer => ?_
      split
      · exact ChangesOnly.pure _
      · exact ChangesOnly.pure _

theorem quiet_evaluateAll (criteria : List Criterion) : Quiet (v.evaluateAll criteria) := by
  induction criteria with
  | nil => exact ChangesOnly.pure _
  | cons c rest ih =>
    refine ChangesOnly.bind (v.quiet_evaluate c) fun result => ?_
    split
    · exact ChangesOnly.bind ih fun _ => ChangesOnly.pure _
    · exact ChangesOnly.pure _

theorem quiet_detection (c : Connector) : Quiet (v.detection c) :=
  ChangesOnly.bind (v.quiet_evaluateAll _) fun _ => ChangesOnly.pure _

theorem changesOnly_steps_freshDetection (staged : List StagedConnector) :
    ChangesOnly Resource.Steps (v.freshDetection staged) := by
  refine (ChangesOnly.all fun p hp => ?_).bind fun results =>
    (ChangesOnly.modify fun r => steps_recordDetections v.time _ r).bind fun _ =>
      ChangesOnly.cancelled.bind fun _ => ?_
  · obtain ⟨s, -, rfl⟩ := List.mem_map.1 hp
    exact ChangesOnly.of_quiet (v.quiet_detection s.connector)
  · dsimp only
    split
    · exact (ChangesOnly.modify fun r => .single (.other rfl rfl)).bind fun _ => ChangesOnly.pure _
    · exact ChangesOnly.pure _

theorem changesOnly_steps_detect (staged : List StagedConnector) :
    ChangesOnly Resource.Steps (v.detect staged) := by
  refine (ChangesOnly.read fun _ => .refl).bind fun detected => ?_
  split
  · exact ChangesOnly.pure _
  · exact v.changesOnly_steps_freshDetection staged

/-- **The changes of a visit** are small steps. -/
theorem changesOnly_steps_run (store : ConnectorStore) :
    ChangesOnly Resource.Steps (v.run store) := by
  refine (ChangesOnly.forM fun e _ => (ChangesOnly.of_quiet (v.quiet_probe _ _ _)).bind fun _ =>
    ChangesOnly.modify fun r => .single (.endpoint r _ _ _)).bind fun _ =>
      (v.changesOnly_steps_detect _).bind fun found => ?_
  refine (ChangesOnly.foldlM fun reports s _ => ChangesOnly.cancelled.bind fun _ => ?_) _ |>.bind
    fun _ => ChangesOnly.cancelled.bind fun _ => ChangesOnly.pure _
  split
  · exact ChangesOnly.pure _
  · exact (v.changesOnly_steps_runConnector s.connector).bind fun _ => ChangesOnly.pure _

/-- **A visit leaves a reachable resource behind**, whatever the extensions answer and whenever it is
cancelled. -/
theorem reachable_run {σ : Type} (network : Network σ) (cancelAt : Option Nat)
    (store : ConnectorStore) (s : Site σ) (hs : s.resource.Reachable) :
    ((v.run store).run network cancelAt s).2.resource.Reachable := by
  refine hs.steps ?_
  have h := reflTransGen_run (v.changesOnly_steps_run store) network cancelAt s
  rwa [reflTransGen_eq_self] at h

end Visit

end HardwareWatch
