import HardwareWatch.Proofs.Connector.Places
import HardwareWatch.Proofs.Sources.Course
import HardwareWatch.Visit.Jobs

/-!
# What jobs change

The work of a job on the resource is a few steps: monitors are made of rows, missed ones are marked,
values are written onto known ones, and the duration of the job is noted. What all these steps do,
the job does.

* `Activity.ChangesOnly.discoverJob` and `Activity.ChangesOnly.collectIfAny` are the rules for one
  job.
* `Activity.ChangesOnly.overJobs` and `Activity.ChangesOnly.runConnector` are those for all jobs of
  a connector.
* `Resource.CollectionChange` is a change that collection makes. It writes values of monitors that are
  known, and how long it took, but makes no monitors and marks none;
  `SourceRun.changesOnly_collectIfAny` says that it makes no other changes.
-/

namespace HardwareWatch

namespace Activity.ChangesOnly

variable {R : Resource → Resource → Prop} {x : SourceRun} {type : String} {job : MonitorJob}

theorem recordDuration {phase : String} {started : Nat}
    (hduration : ∀ value r, R r (r.updateEndpoint
      (·.setNumber (jobDurationMetric phase type x.connector.id) value x.visit.time))) :
    ChangesOnly R (x.recordDuration phase type started) :=
  clock.bind fun _ => modify fun r => hduration _ r

/-! ## Discovery -/

theorem concludeDiscovery {preFailed : NameSet} {h : Harvest}
    (hdiscover : ∀ mapping rows r, R r ((x.jobContext type job).discover mapping rows r).1)
    (hstale : ∀ ids r, R r (r.markStale x.connector.id type ids)) :
    ChangesOnly R (x.concludeDiscovery preFailed type job h) := by
  rw [SourceRun.concludeDiscovery]
  split
  · exact cancelled.bind fun _ => pure _
  · refine bind ?_ fun found => ?_
    · rw [SourceRun.discoverMonitors]
      split
      · exact pure _
      · exact (work fun r => hdiscover _ _ r).bind fun _ => pure _
    · cases found with
      | none => exact pure _
      | some ids =>
        refine cancelled.bind fun _ => ?_
        split
        · exact pure _
        · exact (modify fun r => hstale ids r).bind fun _ => pure _

theorem discoverJob {base : Harvest}
    (hdiscover : ∀ mapping rows r, R r ((x.jobContext type job).discover mapping rows r).1)
    (hstale : ∀ ids r, R r (r.markStale x.connector.id type ids))
    (hduration : ∀ value r, R r (r.updateEndpoint
      (·.setNumber (jobDurationMetric "discovery" type x.connector.id) value x.visit.time))) :
    ChangesOnly R (x.discoverJob base type job) := by
  refine clock.bind fun started =>
    (of_quiet (x.quiet_runSourcesBefore _ _ _)).bind fun (h, isComplete) => ?_
  have hrecord (state : PhaseState) : ChangesOnly R (do
      x.recordDuration "discovery" type started
      return (state, h.tables)) := (recordDuration hduration).bind fun _ => pure _
  cases isComplete with
  | true => exact (concludeDiscovery hdiscover hstale).bind hrecord
  | false => exact (pure _).bind hrecord

/-! ## Collection -/

theorem collectAll {tables : Namespace} {task : Task} {mapping : Mapping}
    (hcollect : ∀ rows r, R r ((x.jobContext type job).collect mapping rows r).1) :
    ChangesOnly R (x.collectAll tables type job task mapping) :=
  (of_quiet (x.quiet_runSources none task.sources tables)).bind fun _ => modify fun r => hcollect _ r

theorem collectEach {tables : Namespace} {task : Task} {mapping : Mapping} (hrefl : ∀ r, R r r)
    (hone : ∀ rows id r, R r ((x.jobContext type job).collectOne mapping rows id r).1) :
    ChangesOnly R (x.collectEach tables type job task mapping) := by
  refine (read hrefl).bind fun monitors => forM fun m _ => cancelled.bind fun _ => ?_
  split
  · exact pure _
  · exact (of_quiet (x.quiet_runSources _ task.sources tables)).bind fun _ =>
      modify fun r => hone _ _ r

theorem collectIfAny {tables : Namespace} (hrefl : ∀ r, R r r)
    (hcollect : ∀ mapping rows r, R r ((x.jobContext type job).collect mapping rows r).1)
    (hone : ∀ mapping rows id r, R r ((x.jobContext type job).collectOne mapping rows id r).1)
    (hduration : ∀ value r, R r (r.updateEndpoint
      (·.setNumber (jobDurationMetric "collect" type x.connector.id) value x.visit.time))) :
    ChangesOnly R (x.collectIfAny tables type job) := by
  rw [SourceRun.collectIfAny]
  split
  · rename_i collect _
    refine bind ?_ fun _ => pure _
    refine clock.bind fun started => ?_
    split
    · exact pure _
    · refine (before ?_).bind fun _ => cancelled.bind fun _ =>
        (recordDuration hduration).bind fun _ => pure _
      cases collect.mode with
      | multiInstance => exact collectAll (hcollect _)
      | monoInstance => exact collectEach hrefl (hone _)
  · exact pure _

/-! ## Connectors -/

theorem overJobs {β : Type} {run : String → MonitorJob → Activity β}
    (hrun : ∀ type job, x.connector.monitors.get? type = some job → ChangesOnly R (run type job)) :
    ChangesOnly R (x.overJobs run) := by
  refine (mapM fun j hj => hrun j.1 j.2 (Connector.mem_leadingJobs_iff.1 hj).2).bind fun first => ?_
  dsimp only
  split
  · exact (mapM fun j hj => hrun j.1 j.2 (Connector.mem_otherJobs_iff.1 hj).2).bind fun _ => pure _
  · refine (all fun p hp => ?_).bind fun _ => pure _
    obtain ⟨j, hj, rfl⟩ := List.mem_map.1 hp
    exact hrun j.1 j.2 (Connector.mem_otherJobs_iff.1 hj).2

theorem runConnector {v : Visit} {c : Connector} (hrotate : ∀ r, R r (r.rotateTables c.id))
    (hdiscover : ∀ previous base type job, ChangesOnly R (SourceRun.discoverJob ⟨v, c, previous⟩ base
      type job))
    (hcollect : ∀ previous tables type job, ChangesOnly R (SourceRun.collectIfAny ⟨v, c, previous⟩
      tables type job))
    (hkeep : ∀ tables r, R r { r with tables := r.tables.insert c.id tables }) :
    ChangesOnly R (v.runConnector c) :=
  (work hrotate).bind fun previous =>
    (of_quiet (SourceRun.quiet_runSources _ _ _ _)).bind fun base =>
      (overJobs fun type job _ => hdiscover previous base type job).bind fun _ =>
        (overJobs fun type job _ => hcollect previous _ type job).bind fun _ =>
          (modify (hkeep _)).bind fun _ => pure _

end Activity.ChangesOnly

/-! ## What collection changes -/

open Activity

/-- A change that the collection of a job makes. -/
inductive Resource.CollectionChange : Resource → Resource → Prop
  | none (r : Resource) : CollectionChange r r
  /-- The rows of a table are written onto the monitors with their keys. -/
  | rows (r : Resource) (job : JobContext) (mapping : Mapping) (rows : List Row) :
    CollectionChange r (job.collect mapping rows r).1
  /-- The first row of a table is written onto one monitor. -/
  | row (r : Resource) (job : JobContext) (mapping : Mapping) (rows : List Row) (id : String) :
    CollectionChange r (job.collectOne mapping rows id r).1
  /-- A number is written for the host itself. -/
  | endpoint (r : Resource) (name : String) (value : Float) (time : Instant) :
    CollectionChange r (r.updateEndpoint (·.setNumber name value time))

namespace SourceRun

variable (x : SourceRun)

theorem changesOnly_recordDuration (phase type : String) (started : Nat) :
    ChangesOnly Resource.CollectionChange (x.recordDuration phase type started) :=
  ChangesOnly.recordDuration fun _ r => .endpoint r _ _ _

/-- **Collection** makes no other changes. -/
theorem changesOnly_collectIfAny (tables : Namespace) (type : String) (job : MonitorJob) :
    ChangesOnly Resource.CollectionChange (x.collectIfAny tables type job) :=
  ChangesOnly.collectIfAny .none (fun mapping rows r => .rows r _ mapping rows)
    (fun mapping rows id r => .row r _ mapping rows id) fun _ r => .endpoint r _ _ _

end SourceRun

end HardwareWatch
