import HardwareWatch.Proofs.Sources.EitherMode
import HardwareWatch.Proofs.Telemetry.Endpoint

/-!
# Jobs in either mode

A job does the same in either mode of the host, and so it does amid changes of others that it does
not see: it sees the monitors of its own type, and it reads no others if its mappings look nothing
up.

* `Connector.usesLookup` says whether a mapping of a connector looks up a monitor.
* `SourceRun.agree_discoverJob` and `SourceRun.agree_collectIfAny` say that the two ways to run a
  job agree.
-/

namespace HardwareWatch

open Activity

/-- The mappings of the tasks of a job. -/
def JobTasks.mappings : JobTasks → List Mapping
  | .standard discovery collect =>
    discovery.mapping.toList ++ (collect.bind fun collect => collect.task.mapping).toList
  | .simple task => task.mapping.toList

/-- Whether a mapping of a connector looks up a monitor. -/
def Connector.usesLookup (c : Connector) : Bool :=
  c.monitors.values.any fun job => job.tasks.mappings.any Mapping.usesLookup

theorem Connector.usesLookup_of_mem {c : Connector} (h : c.usesLookup = false) {type : String}
    {job : MonitorJob} (hjob : c.monitors.get? type = some job) {mapping : Mapping}
    (hmapping : mapping ∈ job.tasks.mappings) : mapping.usesLookup = false := by
  rw [usesLookup, List.any_eq_false] at h
  have hnone := h job (List.mem_map_of_mem (NameMap.get?_eq_some_iff.1 hjob))
  rw [Bool.not_eq_true, List.any_eq_false] at hnone
  exact Bool.not_eq_true _ ▸ hnone mapping hmapping

theorem JobTasks.mem_mappings_of_discovery {tasks : JobTasks} {mapping : Mapping}
    (h : (SourceRun.discoveryTask tasks).mapping = some mapping) : mapping ∈ tasks.mappings := by
  cases tasks with
  | standard discovery collect =>
    exact List.mem_append_left _ (Option.mem_toList.2 h)
  | simple task => exact Option.mem_toList.2 h

theorem JobTasks.mem_mappings_of_collect {discovery : Task} {collect : CollectTask}
    {mapping : Mapping} (h : collect.task.mapping = some mapping) :
    mapping ∈ (standard discovery (some collect)).mappings :=
  List.mem_append_right _ (Option.mem_toList.2 h)

/-- A duration that is noted for two resources, not the same one perhaps, is not seen. -/
theorem Resource.view_note_of_view {c : Connector} {type : String} {r r' : Resource}
    (h : r.view c type = r'.view c type) {name : String} (hname : name ∈ c.durationMetrics)
    (value value' : Float) (time : Instant) :
    (r.updateEndpoint (·.setNumber name value time)).view c type =
      (r'.updateEndpoint (·.setNumber name value' time)).view c type := by
  by_cases htype : type = hostMonitorType
  · subst htype
    exact view_updateEndpoint_of_view h fun _ _ hm =>
      hm.setNumber name time fun hnot => absurd hname hnot
  · rw [view_updateEndpoint_of_ne htype, view_updateEndpoint_of_ne htype, h]

namespace SourceRun

variable {x : SourceRun} {sequential : Bool} {type : String} {job : MonitorJob}
  {reply : String → Source → Except EngineError Table} {E : Resource → Resource → Prop}

/-- The monitors that are seen to be active are the same in what their collection needs. -/
theorem activeMonitors_of_view {r r' : Resource}
    (h : r.view x.connector type = r'.view x.connector type) :
    List.Forall₂ (fun m m' : Monitor => m.id = m'.id ∧ m.attributes = m'.attributes)
      (x.activeMonitors type r) (x.activeMonitors type r') := by
  have hactive (r : Resource) : (x.activeMonitors type (r.withoutDurations x.connector)).map
      (fun m => (m.id, m.attributes)) =
        (x.activeMonitors type r).map fun m => (m.id, m.attributes) := by
    simp only [activeMonitors, Resource.monitorsOf_withoutDurations, NameMap.values,
      NameMap.mapEntries, List.map_map, List.filter_map]
    rfl
  have hsame : (x.activeMonitors type r).map (fun m => (m.id, m.attributes)) =
      (x.activeMonitors type r').map fun m => (m.id, m.attributes) := by
    rw [← hactive r, ← hactive r', activeMonitors, activeMonitors, Resource.monitorsOf_of_view h]
  have hpairs := List.forall₂_eq_eq_eq ▸ hsame
  rw [List.forall₂_map_left_iff, List.forall₂_map_right_iff] at hpairs
  exact hpairs.imp fun _ _ he => Prod.mk.inj he

section Jobs

variable (hjob : x.connector.monitors.get? type = some job)
  (hx : x.visit.registry.IgnoresMode x.visit.host)
  (hlookup : x.connector.usesLookup = false)
  (hE : ∀ r s, E r s → s.view x.connector type = r.view x.connector type)

include hjob hE in
theorem agree_recordDuration {w : Surroundings} {phase : String} (hphase : phase ∈ jobPhases)
    (started started' : Nat) :
    Agree w E (Resource.view x.connector type) (x.recordDuration phase type started)
      ((x.inMode sequential).recordDuration phase type started') :=
  Agree.clock_bind hE fun _ _ => Agree.modify hE fun _ _ hr =>
    Resource.view_note_of_view hr (x.connector.mem_durationMetrics hjob hphase) _ _ _

include hjob hlookup hE in
theorem agree_concludeDiscovery {w : Surroundings} (hw : ¬w.mayBeCancelled) (preFailed : NameSet)
    (h : Harvest) :
    Agree w E (Resource.view x.connector type) (x.concludeDiscovery preFailed type job h)
      ((x.inMode sequential).concludeDiscovery preFailed type job h) := by
  rw [concludeDiscovery, concludeDiscovery]
  cases hmapping : (discoveryTask job.tasks).mapping with
  | none => exact (Agree.cancelled hE hw).bind fun _ => .pure hE _
  | some mapping =>
    have hl := x.connector.usesLookup_of_mem hlookup hjob (job.tasks.mem_mappings_of_discovery hmapping)
    refine Agree.bind ?_ fun found => ?_
    · rw [discoverMonitors, discoverMonitors]
      split
      · exact .pure hE _
      · refine (Agree.work hE fun r r' hr => ?_).bind fun _ => .pure hE _
        exact ((x.jobContext type job).view_discover hl _ hr).symm
    · cases found with
      | none => exact .pure hE _
      | some ids =>
        refine (Agree.cancelled hE hw).bind fun _ => ?_
        split
        · exact .pure hE _
        · exact (Agree.modify hE fun r r' hr => Resource.view_markStale_of_view hr _ ids).bind
            fun _ => .pure hE _

include hjob hx hlookup hE in
/-- **The discovery of a job** is the same in either mode. -/
theorem agree_discoverJob (base : Harvest) :
    Agree (.replying reply) E (Resource.view x.connector type) (x.discoverJob base type job)
      ((x.inMode sequential).discoverJob base type job) := by
  refine Agree.clock_bind hE fun started started' => ?_
  refine Agree.bind (Agree.of_quiet hE (x.quiet_runSourcesBefore _ _ _)
    (SourceRun.quiet_runSourcesBefore _ _ _ _)
    (sameResult_runSourcesBefore hx sequential _ _ _ _)) fun (h, isComplete) => ?_
  have hrecord (state : PhaseState) : Agree (.replying reply) E (Resource.view x.connector type) (do
      x.recordDuration "discovery" type started
      return (state, h.tables)) (do
      (x.inMode sequential).recordDuration "discovery" type started'
      return (state, h.tables)) :=
    (agree_recordDuration hjob hE (by simp [jobPhases]) started started').bind fun _ => .pure hE _
  cases isComplete with
  | true => exact (agree_concludeDiscovery hjob hlookup hE id base.failed h).bind hrecord
  | false => exact (Agree.pure hE _).bind hrecord

/-! ### Collection -/

variable {mapping : Mapping} (hl : mapping.usesLookup = false)

include hx hE hl in
theorem agree_collectAll (tables : Namespace) (task : Task) :
    Agree (.replying reply) E (Resource.view x.connector type)
      (x.collectAll tables type job task mapping)
      ((x.inMode sequential).collectAll tables type job task mapping) := by
  refine Agree.bind (Agree.of_quiet hE (x.quiet_runSources _ _ _)
    (SourceRun.quiet_runSources _ _ _ _) (sameResult_runSources hx sequential _ _ _)) fun h => ?_
  exact Agree.modify hE fun r r' hr =>
    (x.jobContext type job).view_collect hl _ hr

include hx hE hl in
theorem agree_collectMonitor (tables : Namespace) (task : Task) {m m' : Monitor}
    (hm : m.id = m'.id ∧ m.attributes = m'.attributes) :
    Agree (.replying reply) E (Resource.view x.connector type)
      (x.collectMonitor tables type job task mapping m)
      ((x.inMode sequential).collectMonitor tables type job task mapping m') := by
  rw [collectMonitor, collectMonitor, hm.1, hm.2]
  refine (Agree.cancelled hE id).bind fun _ => ?_
  split
  · exact .pure hE _
  · refine Agree.bind (Agree.of_quiet hE (x.quiet_runSources _ _ _)
      (SourceRun.quiet_runSources _ _ _ _) (sameResult_runSources hx sequential _ _ _)) fun h => ?_
    exact Agree.modify hE fun r r' hr =>
      (x.jobContext type job).view_collectOne hr hl _ _

include hx hE hl in
theorem agree_collectEach (tables : Namespace) (task : Task) :
    Agree (.replying reply) E (Resource.view x.connector type)
      (x.collectEach tables type job task mapping)
      ((x.inMode sequential).collectEach tables type job task mapping) :=
  Agree.read_bind hE fun _ _ hr => Agree.forM hE (activeMonitors_of_view hr) fun _ _ hm =>
    agree_collectMonitor hx hE hl tables task hm

include hjob hx hlookup hE in
/-- **The collection of a job** is the same in either mode. -/
theorem agree_collectIfAny (tables : Namespace) :
    Agree (.replying reply) E (Resource.view x.connector type) (x.collectIfAny tables type job)
      ((x.inMode sequential).collectIfAny tables type job) := by
  obtain ⟨keys, tasks⟩ := job
  rcases tasks with ⟨discovery, _ | collect⟩ | task
  · exact .pure hE _
  · refine Agree.bind (Agree.clock_bind hE fun started started' => ?_) fun _ => .pure hE _
    cases hmapping : collect.task.mapping with
    | none => exact .pure hE _
    | some mapping =>
      have hl := x.connector.usesLookup_of_mem hlookup hjob
        (JobTasks.mem_mappings_of_collect hmapping)
      refine Agree.bind (Agree.before id ?_) fun ran => (Agree.cancelled hE id).bind fun _ =>
        (agree_recordDuration hjob hE (by simp [jobPhases]) started started').bind fun _ =>
          .pure hE _
      cases collect.mode with
      | multiInstance => exact agree_collectAll hx hE hl tables _
      | monoInstance => exact agree_collectEach hx hE hl tables _
  · exact .pure hE _

end Jobs

end SourceRun

end HardwareWatch
