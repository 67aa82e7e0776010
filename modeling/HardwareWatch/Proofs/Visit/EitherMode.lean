import HardwareWatch.Proofs.Activity.InTime
import HardwareWatch.Proofs.Visit.Pass
import HardwareWatch.Proofs.Visit.Phases

/-!
# Connectors in either mode

A host can want its monitor jobs one after the other, or let them run at the same time. Where
nothing is late and nothing is cancelled, and where the answers depend on the sources that are asked
for, this makes no difference to what a run of a connector leaves, but for how long the jobs took.

* `Network.Replies` says that the answers of a network depend on the sources that are asked for.
* `Visit.OncePerPhase` says that a run of a connector discovers every job once and collects every
  job once.
* `Visit.runConnector_in_either_mode` compares runs of a connector in two modes.
-/

namespace HardwareWatch

open Activity SourceRun

/-- The answers of a network depend on the extension and on the source that is asked for. When they
arrive may depend on whatever there is. -/
def Network.Replies {σ : Type} (network : Network σ)
    (reply : String → Source → Except EngineError Table) : Prop :=
  ∀ (r : Request) (state : σ), r.AnsweredBy reply (network r state).1.answer

/-- The tables of a connector after its discoveries. -/
def discoveredTables (base : Harvest) (found : List (PhaseState × Namespace)) : Namespace :=
  (found.map Prod.snd).foldl Namespace.extend base.tables

/-- A run of a connector that goes through every job once in each phase. Its tables become those of
the cycle before, the changes of the discovery phase are those of one discovery of each job, the
changes of the collection phase are those of one collection of each job, and the tables are kept. -/
inductive Visit.OncePerPhase (w : Surroundings) (v : Visit) (c : Connector) (r : Resource) :
    PhaseState × PhaseState → Resource → Prop
  | mk {base : Harvest} {found : List (PhaseState × Namespace)} {collected : List (Option PhaseState)}
      {discovery collection : Multiset Change} {r₁ r₂ : Resource}
      (hpre : Runs w (runSources ⟨v, c, r.tablesOf c.id⟩ none c.pre .empty) 0 (some base))
      (hdiscovery : OneRunEach w (fun j : String × MonitorJob =>
        discoverJob ⟨v, c, r.tablesOf c.id⟩ base j.1 j.2) c.jobs discovery found)
      (hfound : Path (r.rotateTables c.id) discovery r₁)
      (hcollection : OneRunEach w (fun j : String × MonitorJob =>
        collectIfAny ⟨v, c, r.tablesOf c.id⟩ (discoveredTables base found) j.1 j.2) c.jobs
        collection collected)
      (hcollected : Path r₁ collection r₂) :
    OncePerPhase w v c r (.ofJobs (found.map Prod.fst), .ofJobs (collected.filterMap id))
      (r₂.keepTables c.id (discoveredTables base found))

variable {w : Surroundings} {v : Visit} {c : Connector} {r s s' : Resource}

/-- A run of a connector with nobody else there, phase by phase. -/
theorem Visit.exists_phases_of_ends {states : PhaseState × PhaseState}
    (h : Ends w Alone (v.runConnector c) r states s) :
    ∃ base found r₁ collected r₂,
      Runs w (runSources ⟨v, c, r.tablesOf c.id⟩ none c.pre .empty) 0 (some base) ∧
      Ends w Alone (overJobs ⟨v, c, r.tablesOf c.id⟩ (discoverJob ⟨v, c, r.tablesOf c.id⟩ base))
        (r.rotateTables c.id) found r₁ ∧
      Ends w Alone (overJobs ⟨v, c, r.tablesOf c.id⟩
        (collectIfAny ⟨v, c, r.tablesOf c.id⟩ (discoveredTables base found))) r₁ collected r₂ ∧
      states = (.ofJobs (found.map Prod.fst), .ofJobs (collected.filterMap id)) ∧
      s = r₂.keepTables c.id (discoveredTables base found) := by
  obtain ⟨previous, r₀, hrotate, h⟩ := ends_bind_iff.1 h
  obtain ⟨r₀', hbefore, rfl, hafter⟩ := ends_work_iff.1 hrotate
  rw [reflTransGen_alone_iff] at hbefore hafter
  subst hbefore hafter
  obtain ⟨base, r₁, hbase, h⟩ := ends_bind_iff.1 h
  obtain ⟨hruns, hstill⟩ := hbase.of_quiet (quiet_runSources _ _ _ _)
  rw [reflTransGen_alone_iff] at hstill
  subst hstill
  obtain ⟨found, r₁, hfound, h⟩ := ends_bind_iff.1 h
  obtain ⟨collected, r₂, hcollected, h⟩ := ends_bind_iff.1 h
  obtain ⟨_, r₃, hkeep, h⟩ := ends_bind_iff.1 h
  obtain ⟨rfl, hend⟩ := ends_pure_iff.1 h
  rw [ends_alone_modify_iff] at hkeep
  rw [reflTransGen_alone_iff] at hend
  subst hkeep hend
  exact ⟨base, found, r₁, collected, r₂, hruns, hfound, hcollected, rfl, rfl⟩

theorem Visit.oncePerPhase_of_ends {states : PhaseState × PhaseState}
    (h : Ends w Alone (v.runConnector c) r states s) : v.OncePerPhase w c r states s := by
  obtain ⟨base, found, r₁, collected, r₂, hbase, hfound, hcollected, rfl, rfl⟩ :=
    exists_phases_of_ends h
  obtain ⟨discovery, hdiscovery, hpath⟩ := hfound.path
  obtain ⟨collection, hcollection, hpath'⟩ := hcollected.path
  exact .mk hbase (oneRunEach_of_runs_overJobs hdiscovery) hpath
    (oneRunEach_of_runs_overJobs hcollection) hpath'

/-- Runs of a connector in two modes, with nobody else there. -/
theorem Visit.same_of_ends_runConnector {reply : String → Source → Except EngineError Table}
    (hregistry : v.registry.IgnoresMode v.host) (hlookup : c.usesLookup = false)
    {sequential : Bool} {states states' : PhaseState × PhaseState}
    (h : Ends (.replying reply) Alone (v.runConnector c) r states s)
    (h' : Ends (.replying reply) Alone ((v.inMode sequential).runConnector c) r states' s') :
    states' = states ∧ s'.withoutDurations c = s.withoutDurations c := by
  obtain ⟨base, discovered, r₁, collected, r₂, hbase, hfound, hcollected, rfl, rfl⟩ :=
    exists_phases_of_ends h
  obtain ⟨base', discovered', r₁', collected', r₂', hbase', hfound', hcollected', rfl, rfl⟩ :=
    exists_phases_of_ends h'
  let x : SourceRun := ⟨v, c, r.tablesOf c.id⟩
  have hx : x.visit.registry.IgnoresMode x.visit.host := hregistry
  obtain rfl : base = base' :=
    sameResult_runSources hx sequential none c.pre .empty _ _ _ _ hbase hbase'
  have hthere (hjobs : c.jobs ≠ []) : r₁.HasEndpoint ∧ r₁'.HasEndpoint :=
    ⟨hasEndpoint_of_ends_discovery (x := x) hjobs hfound,
      hasEndpoint_of_ends_discovery (x := x.inMode sequential) hjobs hfound'⟩
  obtain ⟨rfl, hr₁⟩ := same_of_ends_overJobs (x := x) sequential
    (fun type job => x.jobChanges_discoverJob type job base)
    (fun type job => (x.inMode sequential).jobChanges_discoverJob type job base)
    (fun type job hjob => agree_discoverJob hjob hx hlookup (fun _ _ hc => hc.view_eq) base)
    (fun _ => rfl) hfound hfound' rfl (or_iff_not_imp_left.2 hthere)
  obtain ⟨hrest, hview⟩ := Resource.withoutDurations_eq_iff.1 hr₁
  obtain ⟨rfl, hr₂⟩ := same_of_ends_overJobs (x := x) sequential
    (fun type job => x.jobChanges_collectIfAny type job _)
    (fun type job => (x.inMode sequential).jobChanges_collectIfAny type job _)
    (fun type job hjob => agree_collectIfAny hjob hx hlookup (fun _ _ hc => hc.view_eq) _)
    (fun type => (hview type).symm) hcollected hcollected' hrest
    (or_iff_not_imp_left.2 fun hjobs =>
      ⟨hasEndpoint_of_ends_collection (x := x) hcollected (hthere hjobs).1,
        hasEndpoint_of_ends_collection (x := x.inMode sequential) hcollected' (hthere hjobs).2⟩)
  exact ⟨rfl, congrArg (Resource.keepTables · c.id _) hr₂⟩

/-- **A run of a connector in either mode** ends with the same states of discovery and of collection
and with the same resource, but for how long its jobs took, and it goes through every job once in
each phase. This holds for every connector whose mappings look nothing up, in whatever order the
answers arrive, as long as they depend on the sources that are asked for, no limit of time runs out
and the runs are not cancelled. -/
theorem Visit.runConnector_in_either_mode {σ τ : Type} {network : Network σ}
    {network' : Network τ} {reply : String → Source → Except EngineError Table}
    (hreply : network.Replies reply) (hreply' : network'.Replies reply) {v : Visit}
    (hregistry : v.registry.IgnoresMode v.host) {c : Connector} (hlookup : c.usesLookup = false)
    (sequential : Bool) {s : Site σ} {s' : Site τ} (hresource : s'.resource = s.resource)
    (hcancelled : s.cancelled = false) (hcancelled' : s'.cancelled = false)
    (hintime : InTime network (v.runConnector c) s)
    (hintime' : InTime network' ((v.inMode sequential).runConnector c) s') :
    let left := (v.runConnector c).run network none s
    let left' := ((v.inMode sequential).runConnector c).run network' none s'
    left'.1 = left.1 ∧
      left'.2.resource.withoutDurations c = left.2.resource.withoutDurations c ∧
      c.jobs.Perm c.monitors.toList ∧
      v.OncePerPhase (.replying reply) c s.resource left.1 left.2.resource ∧
      (v.inMode sequential).OncePerPhase (.replying reply) c s'.resource left'.1 left'.2.resource := by
  intro left left'
  have h := hintime.ends_run (w := .replying reply) hreply fun hc =>
    absurd (hcancelled.symm.trans hc) Bool.false_ne_true
  have h' := hintime'.ends_run (w := .replying reply) hreply' fun hc =>
    absurd (hcancelled'.symm.trans hc) Bool.false_ne_true
  obtain ⟨hstates, hleft⟩ := same_of_ends_runConnector hregistry hlookup h (hresource ▸ h')
  exact ⟨hstates, hleft, c.perm_jobs, oncePerPhase_of_ends h, oncePerPhase_of_ends h'⟩

namespace DisksAndFans

/-- A source that is asked for. -/
def asked (key : String) : Source := ⟨key, 0, false, [], none, .snmpGet "1.1"⟩

/-- A job that makes a monitor of every row of such a source. -/
def job (key : String) : MonitorJob :=
  ⟨["id"], .simple ⟨[asked key], some ⟨"$\x7bsource::" ++ key ++ "\x7d", .ofList [("id", "$1")],
    .empty, .empty⟩⟩⟩

/-- A connector with a job for disks and one for fans, which can run at the same time. -/
def connector : Connector :=
  ⟨1, "C", none, none, [], ⟨[], false, [], []⟩, .empty, .empty, [],
    .ofList [("disk", job "A"), ("fan", job "B")]⟩

/-- The table that comes back for a source. -/
def reply (_ : String) (s : Source) : Except EngineError Table := .ok ⟨[[s.key]], none⟩

/-- The answer to a request. -/
def answer : (r : Request) → Except EngineError r.Answer
  | ⟨extension, _, _, .source s⟩ => reply extension s
  | ⟨_, _, _, .criterion _⟩ => .error ⟨.probeFailure, "no criteria"⟩
  | ⟨_, _, _, .health⟩ => .ok true

/-- A network whose first answer takes so many milliseconds, and each further one two less. -/
def network : Network Nat := fun r delay => (⟨delay, answer r⟩, delay - 2)

theorem replies_network : network.Replies reply := by
  rintro ⟨extension, host, timeoutSecs, _ | _ | _⟩ delay
  · rfl
  · trivial
  · trivial

/-- A visit to a host with its jobs one after the other. -/
def visit : Visit :=
  ⟨⟨[⟨"snmp", [.snmpGet], [], fun _ => true⟩], none⟩,
    { HostSettings.named "srv" .linux with sequential := true }, .standard, 0⟩

/-- A site where nothing is known of the host. -/
def site (delay : Nat) : Site Nat := .fresh (.named "srv" .linux) delay

/-- Where all answers are there at once, the disks and the fans are discovered one after the other.
Where the answer for the fans is there before that for the disks, they are discovered at the same
time, and the same is left. -/
theorem same_one_after_the_other :
    let left := (visit.runConnector connector).run network none (site 0)
    let left' := ((visit.inMode false).runConnector connector).run network none (site 7)
    left.1 = (.succeeded, .skipped) ∧ left'.1 = left.1 ∧
      left'.2.resource.withoutDurations connector = left.2.resource.withoutDurations connector := by
  intro left left'
  have hregistry : visit.registry.IgnoresMode visit.host := by
    intro e he sequential
    rw [List.mem_singleton.1 he]
  obtain ⟨hintime, hintime', hsucceeded⟩ :
      endsInTime network 1 (visit.runConnector connector) (site 0) = true ∧
      endsInTime network 3 ((visit.inMode false).runConnector connector) (site 7) = true ∧
      ((visit.runConnector connector).poll network (site 0)).1.result? =
        some (.succeeded, .skipped) := by decide +kernel
  obtain ⟨hstates, hleft, -⟩ := Visit.runConnector_in_either_mode replies_network replies_network
    hregistry (by decide +kernel) false (show (site 7).resource = (site 0).resource from rfl) rfl rfl
    (inTime_of_endsInTime hintime) (inTime_of_endsInTime hintime')
  exact ⟨congrArg Prod.fst (run_at_once rfl rfl hsucceeded), hstates, hleft⟩

end DisksAndFans

end HardwareWatch
