import HardwareWatch.Proofs.Activity.InTime
import HardwareWatch.Proofs.Telemetry.Rediscovery
import HardwareWatch.Proofs.Visit.Phases

/-!
# Stale monitors after a discovery

A discovery that succeeds marks the monitors of its connector and type that it did not find, and
takes the mark from those that it found. One that fails marks nothing.

* `Activity.LeaveAlone` is what is asked of the others who are at work meanwhile.
  `Connector.leaveAlone_meanwhile` says that the other jobs of a phase are such.
* `DiscoveryCourse` is the ways that a discovery can go, and `SourceRun.exists_course` says that it
  goes one of them and then notes how long it took.
* `SettlesStaleness` says which monitors are stale at the end. `SourceRun.settles_staleness` is about
  one discovery, `SourceRun.settles_staleness_of_phase` about all those of a phase.
* `MissingDisk` has a discovery that finds one of two disks.
-/

namespace HardwareWatch

open Activity Relation Resource SourceRun

/-! ## Others at work -/

/-- Changes by which the monitors of some types are left alone. -/
def Activity.LeaveAlone (types : Set String) (E : Resource → Resource → Prop) : Prop :=
  ∀ r s, E r s → ∀ type ∈ types, s.monitorsOf type = r.monitorsOf type

variable {E : Resource → Resource → Prop} {types : Set String} {r s : Resource}

theorem Activity.leaveAlone_alone : LeaveAlone types Alone := fun _ _ h => h.elim

theorem Activity.LeaveAlone.at?_eq (hE : LeaveAlone types E) (h : ReflTransGen E r s)
    {type : String} (htype : type ∈ types) (key : String) : s.at? type key = r.at? type key :=
  at?_of_monitorsOf (eq_of_reflTransGen (·.monitorsOf type) (fun a b hab => hE a b hab type htype)
    h) key

theorem Resource.Confined.monitorsOf {type type' : String} (h : Confined type' r s)
    (hne : type ≠ type') : s.monitorsOf type = r.monitorsOf type := by
  rw [Resource.monitorsOf, Resource.monitorsOf, h.others type hne]

/-- While the job for a type is under way, the other jobs of its phase leave the monitors of the type
alone. -/
theorem Connector.leaveAlone_meanwhile (c : Connector) (type : String) :
    LeaveAlone {type} (c.Meanwhile type) := by
  rintro r s ⟨hhost, type', job, hne, -, hchange⟩ t rfl
  cases hchange with
  | confined h => exact h.monitorsOf (Ne.symm hne)
  | duration => exact (Confined.updateEndpoint ..).monitorsOf hhost

/-! ## The note of the duration -/

/-- The number is written for the monitor of the host. -/
def Resource.note (r : Resource) (name : String) (value : Float) (time : Instant) : Resource :=
  r.updateEndpoint (·.setNumber name value time)

section note

variable {name : String} {value : Float} {time : Instant}

theorem keeps_note : r.Keeps (fun m m' => SameOwner m m' ∧ m'.isStale = m.isStale)
    (r.note name value time) :=
  .upsert (fun _ => ⟨⟨rfl, rfl⟩, rfl⟩) fun _ _ => ⟨⟨rfl, rfl⟩, rfl⟩

/-- A monitor of a connector was there before, since the note makes none that has a connector. -/
theorem exists_of_at?_note {type key connector : String} {m' : Monitor}
    (h : (r.note name value time).at? type key = some m') (hc : m'.connector = some connector) :
    ∃ m, r.at? type key = some m ∧ SameOwner m m' ∧ m'.isStale = m.isStale := by
  rw [note, updateEndpoint, at?_upsert] at h
  split at h
  · rename_i he
    obtain ⟨rfl, rfl⟩ := he
    cases h
    rw [found] at hc ⊢
    cases hm : r.at? hostMonitorType (monitorKey none r.hostname) with
    | some m => exact ⟨m, rfl, ⟨rfl, rfl⟩, rfl⟩
    | none =>
      rw [hm] at hc
      cases hc
  · exact ⟨m', h, ⟨rfl, rfl⟩, rfl⟩

end note

theorem SourceRun.ends_recordDuration {w : Surroundings} {x : SourceRun} {phase type : String}
    {started : Nat} {u : Unit} (h : Ends w E (x.recordDuration phase type started) r u s) :
    ∃ r' value, ReflTransGen E r r' ∧
      ReflTransGen E (r'.note (jobDurationMetric phase type x.connector.id) value x.visit.time) s := by
  obtain ⟨finished, r₁, hclock, hnote⟩ := ends_bind_iff.1 h
  obtain ⟨r', hbefore, hafter⟩ := ends_modify_iff.1 hnote
  exact ⟨r', _, (ends_clock hclock).trans hbefore, hafter⟩

/-! ## The course of a discovery -/

/-- The ways a discovery can go until it notes how long it took, with its state, the tables that it
gives and what becomes of the resource amid the changes of others. -/
inductive DiscoveryCourse (E : Resource → Resource → Prop) (x : SourceRun) (type : String)
    (job : MonitorJob) (tables : Namespace) (r : Resource) : PhaseState → Resource → Prop
  /-- No rows were applied: the job took too long, the table is missing or there is no mapping. -/
  | untouched {state : PhaseState} {r' : Resource}
      (hstate : state = .failed ∨ (discoveryTask job.tasks).mapping = none)
      (h : ReflTransGen E r r') : DiscoveryCourse E x type job tables r state r'
  /-- The rows were applied, and then the run was cancelled. -/
  | unsettled {mapping : Mapping} {r₁ r' : Resource}
      (hmapping : (discoveryTask job.tasks).mapping = some mapping) (h₁ : ReflTransGen E r r₁)
      (h : ReflTransGen E ((x.jobContext type job).discover mapping (mapping.rows tables) r₁).1 r') :
    DiscoveryCourse E x type job tables r .failed r'
  /-- The rows were applied, and the monitors that they missed were marked. -/
  | settled {mapping : Mapping} {r₁ r₂ r' : Resource}
      (hmapping : (discoveryTask job.tasks).mapping = some mapping) (h₁ : ReflTransGen E r r₁)
      (h₂ : ReflTransGen E ((x.jobContext type job).discover mapping (mapping.rows tables) r₁).1 r₂)
      (h : ReflTransGen E (r₂.markStale x.connector.id type
        ((x.jobContext type job).discover mapping (mapping.rows tables) r₁).2) r') :
    DiscoveryCourse E x type job tables r .succeeded r'

variable {w : Surroundings} {x : SourceRun} {type : String} {job : MonitorJob}
  {state : PhaseState} {tables : Namespace}

/-- After a course there are only changes of others. -/
theorem DiscoveryCourse.after {r' : Resource} (h : DiscoveryCourse E x type job tables r state r')
    (hafter : ReflTransGen E r' s) : DiscoveryCourse E x type job tables r state s := by
  cases h with
  | untouched hstate h => exact .untouched hstate (h.trans hafter)
  | unsettled hmapping h₁ h => exact .unsettled hmapping h₁ (h.trans hafter)
  | settled hmapping h₁ h₂ h => exact .settled hmapping h₁ h₂ (h.trans hafter)

namespace SourceRun

theorem course_of_concludeDiscovery {preFailed : NameSet} {h : Harvest} {r₀ : Resource}
    (hbefore : ReflTransGen E r₀ r)
    (hends : Ends w E (x.concludeDiscovery preFailed type job h) r state s) :
    DiscoveryCourse E x type job h.tables r₀ state s := by
  rw [concludeDiscovery] at hends
  cases hmapping : (discoveryTask job.tasks).mapping with
  | none =>
    rw [hmapping] at hends
    obtain ⟨b, r₁, hcancelled, hend⟩ := ends_bind_iff.1 hends
    exact .untouched (.inr hmapping) ((hbefore.trans (ends_cancelled_iff.1 hcancelled).2).trans
      (ends_pure_iff.1 hend).2)
  | some mapping =>
    rw [hmapping] at hends
    obtain ⟨found, r₁, hfound, hsettle⟩ := ends_bind_iff.1 hends
    rw [discoverMonitors] at hfound
    split at hfound
    · -- The table is missing.
      obtain ⟨rfl, hpath⟩ := ends_pure_iff.1 hfound
      obtain ⟨rfl, hpath'⟩ := ends_pure_iff.1 hsettle
      exact .untouched (.inl rfl) ((hbefore.trans hpath).trans hpath')
    · obtain ⟨ids, r₂, hwork, hids⟩ := ends_bind_iff.1 hfound
      obtain ⟨r₃, hstart, rfl, hrows⟩ := ends_work_iff.1 hwork
      obtain ⟨rfl, hpath⟩ := ends_pure_iff.1 hids
      obtain ⟨b, r₄, hcancelled, hsettle⟩ := ends_bind_iff.1 hsettle
      have happlied := (hrows.trans hpath).trans (ends_cancelled_iff.1 hcancelled).2
      cases b with
      | true =>
        obtain ⟨rfl, hpath'⟩ := ends_pure_iff.1 hsettle
        exact .unsettled hmapping (hbefore.trans hstart) (happlied.trans hpath')
      | false =>
        obtain ⟨_, r₅, hmark, hend⟩ := ends_bind_iff.1 hsettle
        obtain ⟨rfl, hpath'⟩ := ends_pure_iff.1 hend
        obtain ⟨r₆, hbefore', hafter⟩ := ends_modify_iff.1 hmark
        exact .settled hmapping (hbefore.trans hstart) (happlied.trans hbefore')
          (hafter.trans hpath')

/-- **A discovery goes one of its ways** and then notes how long it took. -/
theorem exists_course {base : Harvest}
    (h : Ends w E (x.discoverJob base type job) r (state, tables) s) :
    ∃ r' name value time, DiscoveryCourse E x type job tables r state r' ∧
      ReflTransGen E (r'.note name value time) s := by
  obtain ⟨started, r₁, hclock, h⟩ := ends_bind_iff.1 h
  obtain ⟨⟨gathered, isComplete⟩, r₂, hsources, h⟩ := ends_bind_iff.1 h
  have hstart := (ends_clock hclock).trans (hsources.of_quiet (x.quiet_runSourcesBefore _ _ _)).2
  have hclose {p : Activity PhaseState}
      (hcourse : ∀ state r₃, Ends w E p r₂ state r₃ →
        DiscoveryCourse E x type job gathered.tables r state r₃)
      (h : Ends w E (p >>= fun state => x.recordDuration "discovery" type started >>= fun _ =>
        pure (state, gathered.tables)) r₂ (state, tables) s) :
      ∃ r' name value time, DiscoveryCourse E x type job tables r state r' ∧
        ReflTransGen E (r'.note name value time) s := by
    obtain ⟨state', r₃, hp, h⟩ := ends_bind_iff.1 h
    obtain ⟨_, r₄, hrecord, hend⟩ := ends_bind_iff.1 h
    obtain ⟨he, hafter⟩ := ends_pure_iff.1 hend
    obtain ⟨rfl, rfl⟩ := Prod.mk.inj he
    obtain ⟨r', value, hbefore, hnote⟩ := ends_recordDuration hrecord
    exact ⟨r', _, value, _, (hcourse _ _ hp).after hbefore, hnote.trans hafter⟩
  cases isComplete with
  | true => exact hclose (fun _ _ => course_of_concludeDiscovery hstart) h
  | false =>
    refine hclose (fun state r₃ hp => ?_) h
    obtain ⟨rfl, hpath⟩ := ends_pure_iff.1 hp
    exact .untouched (.inl rfl) (hstart.trans hpath)

end SourceRun

/-! ## What is stale in the end -/

/-- What a monitor that there was before a discovery of a job keeps. -/
structure KeptByDiscovery (x : SourceRun) (type : String) (job : MonitorJob) (state : PhaseState)
    (type' : String) (m m' : Monitor) : Prop where
  owner : SameOwner m m'
  /-- If the discovery failed or has no mapping, the monitor does not become stale. -/
  fresh : state = .failed ∨ (discoveryTask job.tasks).mapping = none →
    m'.isStale = true → m.isStale = true
  /-- If the discovery succeeded and the monitor belongs to another connector or type, it is as stale
  as it was. -/
  others : state = .succeeded → type' ≠ type ∨ m.connector ≠ some x.connector.id →
    m'.isStale = m.isStale

/-- Which monitors of some types are stale after a discovery of a job, amid changes of others. -/
structure SettlesStaleness (E : Resource → Resource → Prop) (x : SourceRun) (type : String)
    (job : MonitorJob) (types : Set String) (r : Resource) (state : PhaseState)
    (tables : Namespace) (s : Resource) : Prop where
  /-- No monitor is removed. -/
  kept : ∀ type' ∈ types, ∀ key m, r.at? type' key = some m →
    ∃ m', s.at? type' key = some m' ∧ KeptByDiscovery x type job state type' m m'
  /-- If the discovery succeeded with a mapping, a monitor of the connector and the type is stale
  exactly where its id is not among those that the rows gave. -/
  stale_iff : ∀ mapping, state = .succeeded → (discoveryTask job.tasks).mapping = some mapping →
    ∃ r₁, ReflTransGen E r r₁ ∧ ∀ key m', s.at? type key = some m' →
      m'.connector = some x.connector.id → (m'.isStale = true ↔
        ((x.jobContext type job).discover mapping (mapping.rows tables) r₁).2.has m'.id = false)

namespace SettlesStaleness

/-- The monitors of the types are still the same. -/
theorem after (hE : LeaveAlone types E) (htype : type ∈ types) {r' : Resource}
    (h : SettlesStaleness E x type job types r state tables r') (hafter : ReflTransGen E r' s) :
    SettlesStaleness E x type job types r state tables s := by
  refine ⟨fun type' htype' key m hm => ?_, fun mapping hstate hmapping => ?_⟩
  · rw [hE.at?_eq hafter htype']
    exact h.kept type' htype' key m hm
  · obtain ⟨r₁, hr₁, hiff⟩ := h.stale_iff mapping hstate hmapping
    refine ⟨r₁, hr₁, fun key m' hm' => ?_⟩
    rw [hE.at?_eq hafter htype] at hm'
    exact hiff key m' hm'

theorem note {r' : Resource} (h : SettlesStaleness E x type job types r state tables r')
    (name : String) (value : Float) (time : Instant) :
    SettlesStaleness E x type job types r state tables (r'.note name value time) := by
  refine ⟨fun type' htype' key m hm => ?_, fun mapping hstate hmapping => ?_⟩
  · obtain ⟨m₁, hm₁, hkept⟩ := h.kept type' htype' key m hm
    obtain ⟨m', hm', howner, hstale⟩ := keeps_note type' key m₁ hm₁
    refine ⟨m', hm', ⟨howner.1.trans hkept.owner.1, howner.2.trans hkept.owner.2⟩, ?_, ?_⟩
    · rw [hstale]
      exact hkept.fresh
    · rw [hstale]
      exact hkept.others
  · obtain ⟨r₁, hr₁, hiff⟩ := h.stale_iff mapping hstate hmapping
    refine ⟨r₁, hr₁, fun key m' hm' hc => ?_⟩
    obtain ⟨m, hm, howner, hstale⟩ := exists_of_at?_note hm' hc
    rw [hstale, howner.2]
    exact hiff key m hm (howner.1.symm.trans hc)

end SettlesStaleness

namespace DiscoveryCourse

/-- The rows are applied to monitors that still go together with their keys. -/
theorem discovered_of_unchanged (hE : LeaveAlone types E) (htype : type ∈ types)
    (hkeyed : r.KeyedIn type) (hown : r.OwnKeys x.connector.id type) {r₁ : Resource}
    (h : ReflTransGen E r r₁) (job : MonitorJob) (mapping : Mapping) (rows : List Row) :
    (x.jobContext type job).Discovered r₁ ((x.jobContext type job).discover mapping rows r₁) := by
  refine JobContext.discovered_discover _ mapping rows (fun key m hm => ?_) fun id m hm => ?_
  · exact hkeyed key m (hE.at?_eq h htype key ▸ hm)
  · exact hown id m (hE.at?_eq h htype _ ▸ hm)

theorem settles (hE : LeaveAlone types E) (htype : type ∈ types) (hkeyed : r.KeyedIn type)
    (hown : r.OwnKeys x.connector.id type) {r' : Resource}
    (h : DiscoveryCourse E x type job tables r state r') :
    SettlesStaleness E x type job types r state tables r' := by
  cases h with
  | untouched hstate h =>
    refine ⟨fun type' htype' key m hm => ⟨m, ?_, ⟨rfl, rfl⟩, fun _ h => h, fun _ _ => rfl⟩, ?_⟩
    · rwa [hE.at?_eq h htype']
    · rintro mapping rfl hmapping
      rw [hmapping] at hstate
      exact (hstate.elim nofun nofun)
  | @unsettled mapping r₁ _ hmapping h₁ h =>
    have hdiscovered := discovered_of_unchanged hE htype hkeyed hown h₁ job mapping
      (mapping.rows tables)
    refine ⟨fun type' htype' key m hm => ?_, nofun⟩
    rw [← hE.at?_eq h₁ htype'] at hm
    obtain ⟨m', hm', hrenewed⟩ := hdiscovered.kept type' key m hm
    exact ⟨m', by rwa [hE.at?_eq h htype'], hrenewed.owner, fun _ => hrenewed.fresh, nofun⟩
  | @settled mapping r₁ r₂ _ hmapping h₁ h₂ h =>
    have hdiscovered := discovered_of_unchanged hE htype hkeyed hown h₁ job mapping
      (mapping.rows tables)
    refine SettlesStaleness.after hE htype ⟨fun type' htype' key m hm => ?_, ?_⟩ h
    · rw [← hE.at?_eq h₁ htype'] at hm
      obtain ⟨m₁, hm₁, hrenewed⟩ := hdiscovered.kept type' key m hm
      rw [at?_markStale, hE.at?_eq h₂ htype', hm₁]
      refine ⟨_, rfl, ?_, ?_, fun _ hother => ?_⟩
      · dsimp only
        split <;> exact hrenewed.owner
      · rw [hmapping]
        exact (Or.elim · nofun nofun)
      · dsimp only
        rcases hother with hne | hc
        · -- The rows make monitors of the type of the job only.
          have hconfined := (x.jobContext type job).confined_discover mapping (mapping.rows tables) r₁
          rw [at?_of_monitorsOf (hconfined.monitorsOf hne), hm] at hm₁
          cases hm₁
          rw [if_neg fun he => hne he.1]
        · have hmissed : ¬isMissed x.connector.id
              ((x.jobContext type job).discover mapping (mapping.rows tables) r₁).2 m₁ = true := by
            simp [isMissed, hrenewed.owner.1, hc]
          rw [if_neg fun he => hmissed he.2]
          exact hrenewed.others hc
    · rintro mapping' - hmapping'
      rw [hmapping] at hmapping'
      cases hmapping'
      exact ⟨r₁, h₁, fun key m' hm' hc =>
        hdiscovered.isStale_markStale_iff (hE.at?_eq h₂ htype) hm' hc⟩

theorem settles_noted (hE : LeaveAlone types E) (htype : type ∈ types) (hkeyed : r.KeyedIn type)
    (hown : r.OwnKeys x.connector.id type) {r' : Resource}
    (h : DiscoveryCourse E x type job tables r state r') {name : String} {value : Float}
    {time : Instant} (hafter : ReflTransGen E (r'.note name value time) s) :
    SettlesStaleness E x type job types r state tables s :=
  ((h.settles hE htype hkeyed hown).note name value time).after hE htype hafter

end DiscoveryCourse

namespace SourceRun

/-- **Which monitors are stale after a discovery**: whatever happens, no monitor is removed. If the
discovery fails or has no mapping, no monitor becomes stale. If it succeeds with a mapping, those of
the connector and the type are stale whose ids the rows did not have, and those of other connectors
and types are as stale as they were. For this, keys and monitors of the type have to go together
before, and no key of the connector may lead to a monitor of another one. Others may be at work who
leave the monitors of the types in question alone. -/
theorem settles_staleness (hE : LeaveAlone types E) (htype : type ∈ types)
    (hkeyed : r.KeyedIn type) (hown : r.OwnKeys x.connector.id type) {base : Harvest}
    (h : Ends w E (x.discoverJob base type job) r (state, tables) s) :
    SettlesStaleness E x type job types r state tables s := by
  obtain ⟨_, _, _, _, hcourse, hafter⟩ := exists_course h
  exact hcourse.settles_noted hE htype hkeyed hown hafter

/-- In a phase, this is so for the discovery of each job at its end, and after that there are only
changes by jobs for other types. -/
theorem settles_staleness_of_phase {base : Harvest} {found : List (PhaseState × Namespace)}
    (h : Ends w Alone (x.overJobs (x.discoverJob base)) r found s) :
    List.Forall₂ (fun (j : String × MonitorJob) b =>
      r.KeyedIn j.1 → r.OwnKeys x.connector.id j.1 → ∃ r₁,
        SettlesStaleness (x.connector.Meanwhile j.1) x j.1 j.2 {j.1} r b.1 b.2 r₁ ∧
          ReflTransGen (x.connector.OthersChange j.1) r₁ s) x.connector.jobs found := by
  refine (forall₂_of_ends_overJobs (fun type job => x.jobChanges_discoverJob type job base) h).imp ?_
  rintro j ⟨state, tables⟩ ⟨r₁, hjob, hafter⟩ hkeyed hown
  obtain ⟨_, _, _, _, hcourse, hnoted⟩ := exists_course hjob
  exact ⟨r₁, hcourse.settles_noted (x.connector.leaveAlone_meanwhile j.1) (Set.mem_singleton _) hkeyed
    hown hnoted, hafter⟩

end SourceRun

/-! ## A discovery that finds one of two disks -/

namespace MissingDisk

/-- A table with one row. -/
def ids : Source := ⟨"ids", 0, false, [], none, .static "d0"⟩

/-- The mapping of its rows. -/
def rows : Mapping := ⟨"$\x7bsource::ids\x7d", .ofList [("id", "$1")], .empty, .empty⟩

/-- The job that discovers the disks. -/
def disks : MonitorJob := ⟨["id"], .standard ⟨[ids], some rows⟩ none⟩

/-- The run of a connector with this job. -/
def run : SourceRun :=
  ⟨⟨⟨[], none⟩, .named "srv" .linux, .standard, 0⟩,
    ⟨1, "C", none, none, [], ⟨[], false, [], []⟩, .empty, .empty, [], .ofList [("disk", disks)]⟩,
    .empty⟩

/-- The host with a disk that the last discovery missed, and one that it found. -/
def host : Resource :=
  ((Resource.named "srv" .linux).put "disk" "C_d0"
    { Monitor.named "d0" "disk" (some "C") with isStale := true }).put "disk" "C_d1"
      (.named "d1" "disk" (some "C"))

/-- Nobody answers, and nobody is asked. -/
def network : Network Unit := fun _ u => (⟨0, .error ⟨.probeFailure, "no answer"⟩⟩, u)

/-- The site of the discovery. -/
def site : Site Unit := { Site.fresh (.named "srv" .linux) () with resource := host }

theorem keyedIn_host : host.KeyedIn "disk" := by
  refine KeyedIn.put (KeyedIn.put nofun ?_) ?_ <;> decide

theorem ownKeys_host : host.OwnKeys "C" "disk" :=
  OwnKeys.put (OwnKeys.put nofun rfl) rfl

/-- The discovery comes to its end at once and succeeds. -/
theorem run_discovery : ∃ tables left,
    (run.discoverJob ⟨.empty, .empty⟩ "disk" disks).run network none site =
        ((.succeeded, tables), left) ∧
      (left.resource.at? "disk" "C_d0").map (·.isStale) = some false ∧
      (left.resource.at? "disk" "C_d1").map (·.isStale) = some true := by
  have hpolled :
      let polled := (run.discoverJob ⟨.empty, .empty⟩ "disk" disks).poll network site
      polled.1.result?.map Prod.fst = some .succeeded ∧
        (polled.2.resource.at? "disk" "C_d0").map (·.isStale) = some false ∧
        (polled.2.resource.at? "disk" "C_d1").map (·.isStale) = some true := by
    decide +kernel
  obtain ⟨hresult, hflags⟩ := hpolled
  obtain ⟨⟨state, tables⟩, ha, rfl⟩ := Option.map_eq_some_iff.1 hresult
  exact ⟨tables, _, run_at_once rfl rfl ha, hflags⟩

/-- The disk that is found is not stale any more, and the other one becomes stale. -/
theorem settles_staleness_of_disks :
    let left := (run.discoverJob ⟨.empty, .empty⟩ "disk" disks).run network none site
    host.KeyedIn "disk" ∧ host.OwnKeys "C" "disk" ∧ left.1.1 = .succeeded ∧
    (host.at? "disk" "C_d0").map (·.isStale) = some true ∧
    (left.2.resource.at? "disk" "C_d0").map (·.isStale) = some false ∧
    (host.at? "disk" "C_d1").map (·.isStale) = some false ∧
    (left.2.resource.at? "disk" "C_d1").map (·.isStale) = some true ∧
    SettlesStaleness Alone run "disk" disks Set.univ host left.1.1 left.1.2 left.2.resource := by
  intro left
  have hends := ends_run (Surroundings.any_admits network) none
    (run.discoverJob ⟨.empty, .empty⟩ "disk" disks) site fun _ => trivial
  have hsettles : SettlesStaleness Alone run "disk" disks Set.univ host left.1.1 left.1.2
      left.2.resource :=
    settles_staleness leaveAlone_alone (Set.mem_univ _) keyedIn_host ownKeys_host hends
  obtain ⟨tables, after, hleft, hfound, hmissed⟩ := run_discovery
  have hleft : left = ((.succeeded, tables), after) := hleft
  rw [hleft] at hsettles ⊢
  exact ⟨keyedIn_host, ownKeys_host, rfl, by decide +kernel, hfound, by decide +kernel, hmissed,
    hsettles⟩

end MissingDisk

end HardwareWatch
