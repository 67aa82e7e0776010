import HardwareWatch.Proofs.Visit.JobModes

/-!
# Phases

A phase runs every job of a connector once, in either mode. A job runs amid changes of the others
only, and the job for the host comes before all others.

* `SourceRun.oneRunEach_of_runs_overJobs` says that the runs of a phase are made of one run of each
  job.
* `SourceRun.forall₂_of_ends_overJobs` is what each job comes to.
* `SourceRun.same_of_ends_overJobs` compares two phases. If the two ways to run each job agree, then
  the results of the phases are the same, and so is the resource without job durations.
-/

namespace HardwareWatch

open Activity Resource

namespace Connector

variable {c : Connector} {type : String} {r s : Resource}

theorem perm_jobs (c : Connector) : c.jobs.Perm c.monitors.toList := by
  refine (List.perm_ext_iff_of_nodup (.of_map _ c.nodup_types_jobs) ?_).2 fun ⟨type, job⟩ => ?_
  · refine c.monitors.ascending.imp fun {a b} hlt he => ?_
    exact String.lt_irrefl a.1 (by rwa [← he] at hlt)
  · rw [mem_jobs_iff, NameMap.get?_eq_some_iff]

/-- A change while the job for a type is under way. No other job is under way together with the one
for the host. -/
def Meanwhile (c : Connector) (type : String) (r r' : Resource) : Prop :=
  type ≠ hostMonitorType ∧ c.OthersChange type r r'

theorem Meanwhile.view_eq (h : c.Meanwhile type r s) : s.view c type = r.view c type :=
  h.2.view_eq h.1

theorem rest_of_jobsChanges (h : Relation.ReflTransGen c.JobsChange r s) :
    s = { r with monitors := s.monitors } := by
  induction h with
  | refl => rfl
  | tail _ h ih =>
    obtain ⟨_, _, _, hchange⟩ := h
    rw [hchange.rest, ih]

/-- Jobs put up with the changes of jobs for other types. -/
theorem putUp_jobs (c : Connector) : PutUp (fun j : String × MonitorJob => c.OthersChange j.1)
    (fun j => JobChange c.id j.1) c.jobs := by
  refine (List.pairwise_map.1 c.nodup_types_jobs).imp_of_mem fun {i j} hi hj hne => ?_
  exact ⟨fun r s h => ⟨j.1, j.2, Ne.symm hne, mem_jobs_iff.1 hj, h⟩,
    fun r s h => ⟨i.1, i.2, hne, mem_jobs_iff.1 hi, h⟩⟩

/-- The job for the host is the first one. -/
theorem exists_leadingJobs_eq {job : MonitorJob}
    (hjob : c.monitors.get? hostMonitorType = some job) : ∃ rest, c.leadingJobs = (hostMonitorType, job) :: rest := by
  rw [leadingJobs, leadingMonitorTypes, ← hostMonitorType,
    List.filterMap_cons_some (b := (hostMonitorType, job)) (by rw [hjob]; rfl)]
  exact ⟨_, rfl⟩

end Connector

namespace SourceRun

variable {w : Surroundings} {x : SourceRun} {α β : Type} {run : String → MonitorJob → Activity β}
  {bs : List β} {r s : Resource}

/-- **The runs of a phase** are made of one run of each job. -/
theorem oneRunEach_of_runs_overJobs {cs : Multiset Change}
    (h : Runs w (x.overJobs run) cs (some bs)) :
    OneRunEach w (fun j : String × MonitorJob => run j.1 j.2) x.connector.jobs cs bs := by
  obtain ⟨first, cs₁, cs₂, rfl, hfirst, h⟩ := runs_bind_some_iff.1 h
  dsimp only at h
  split at h
  all_goals
    obtain ⟨others, cs₃, _, rfl, hothers, h⟩ := runs_bind_some_iff.1 h
    obtain ⟨rfl, rfl⟩ := runs_pure_some_iff.1 h
    rw [add_zero]
  · exact (runs_mapM_iff.1 hfirst).append (runs_mapM_iff.1 hothers)
  · exact (runs_mapM_iff.1 hfirst).append (runs_all_iff.1 hothers)

/-! ## What each job comes to -/

section Parts

variable (hrun : ∀ type job, ChangesOnly (JobChange x.connector.id type) (run type job))
  (h : Ends w Alone (x.overJobs run) r bs s)

include hrun h

theorem jobsChanges_of_ends_overJobs : Relation.ReflTransGen x.connector.JobsChange r s :=
  h.reflTransGen_alone (ChangesOnly.overJobs fun type job hjob =>
    (hrun type job).mono fun _ _ hc => ⟨type, job, hjob, hc⟩)

omit hrun in
/-- The leading jobs are done before the others, and those one after the other or at the same time.
-/
theorem exists_groups_of_ends_overJobs : ∃ first others r₁, bs = first ++ others ∧
    Ends w Alone (x.connector.leadingJobs.mapM fun j => run j.1 j.2) r first r₁ ∧
    (Ends w Alone (x.connector.otherJobs.mapM fun j => run j.1 j.2) r₁ others s ∨
      Ends w Alone (all (x.connector.otherJobs.map fun j => run j.1 j.2)) r₁ others s) := by
  obtain ⟨first, r₁, hfirst, h⟩ := ends_bind_iff.1 h
  dsimp only at h
  split at h
  all_goals
    obtain ⟨others, r₂, hothers, h⟩ := ends_bind_iff.1 h
    obtain ⟨rfl, hpath⟩ := ends_pure_iff.1 h
    rw [reflTransGen_alone_iff] at hpath
    subst hpath
  · exact ⟨first, others, r₁, rfl, hfirst, .inl hothers⟩
  · exact ⟨first, others, r₁, rfl, hfirst, .inr hothers⟩

/-- Each job comes to its end amid changes of the others. -/
theorem forall₂_amid_others : List.Forall₂ (fun (j : String × MonitorJob) b =>
    Ends w (x.connector.OthersChange j.1) (run j.1 j.2) r b s) x.connector.jobs bs := by
  obtain ⟨first, others, r₁, rfl, hfirst, hothers⟩ := exists_groups_of_ends_overJobs h
  obtain ⟨hlead, hother, hcross⟩ := List.pairwise_append.1 x.connector.putUp_jobs
  have hchange (l : List (String × MonitorJob)) : ∀ j ∈ l, ChangesOnly
      (fun r s => ∃ j ∈ l, JobChange x.connector.id j.1 r s) (run j.1 j.2) :=
    fun j hj => (hrun j.1 j.2).mono fun _ _ hc => ⟨j, hj, hc⟩
  refine List.rel_append ?_ ?_
  · -- The leading jobs, and after them the changes of the others.
    have hafter : Relation.ReflTransGen
        (fun r s => ∃ j ∈ x.connector.otherJobs, JobChange x.connector.id j.1 r s) r₁ s := by
      refine hothers.elim (fun h => h.reflTransGen_alone (.mapM (hchange _)))
        fun h => h.reflTransGen_alone (.all fun p hp => ?_)
      obtain ⟨j, hj, rfl⟩ := List.mem_map.1 hp
      exact hchange _ j hj
    refine ends_mapM (fun j => hrun j.1 j.2) ?_ hlead
      ((hfirst.mono fun _ _ h => h.elim).after hafter)
    rintro i hi r s ⟨j, hj, hc⟩
    exact (hcross i hi j hj).1 r s hc
  · -- The other jobs, and before them the changes of the leading ones.
    have hbefore : Relation.ReflTransGen
        (fun r s => ∃ j ∈ x.connector.leadingJobs, JobChange x.connector.id j.1 r s) r r₁ :=
      hfirst.reflTransGen_alone (.mapM (hchange _))
    have hrely : ∀ i ∈ x.connector.otherJobs, ∀ r s,
        (∃ j ∈ x.connector.leadingJobs, JobChange x.connector.id j.1 r s) →
          x.connector.OthersChange i.1 r s := by
      rintro i hi r s ⟨j, hj, hc⟩
      exact (hcross j hj i hi).2 r s hc
    rcases hothers with hothers | hothers
    · exact ends_mapM (fun j => hrun j.1 j.2) hrely hother
        ((hothers.mono fun _ _ h => h.elim).before hbefore)
    · exact ends_all (fun j => hrun j.1 j.2) hrely hother
        ((hothers.mono fun _ _ h => h.elim).before hbefore)

/-- The job for the host comes to its end before all others. -/
theorem exists_first_of_host {job : MonitorJob}
    (hjob : x.connector.monitors.get? hostMonitorType = some job) : ∃ b rest r₁, bs = b :: rest ∧
      Ends w Alone (run hostMonitorType job) r b r₁ ∧
      Relation.ReflTransGen (x.connector.OthersChange hostMonitorType) r₁ s := by
  obtain ⟨first, others, r₂, rfl, hfirst, hothers⟩ := exists_groups_of_ends_overJobs h
  obtain ⟨tail, htail⟩ := Connector.exists_leadingJobs_eq hjob
  have hnodup := x.connector.nodup_types_jobs
  rw [Connector.jobs, htail, List.cons_append, List.map_cons, List.nodup_cons] at hnodup
  have hchange : ∀ j ∈ tail ++ x.connector.otherJobs,
      ChangesOnly (x.connector.OthersChange hostMonitorType) (run j.1 j.2) := by
    intro j hj
    have hmem : j ∈ x.connector.jobs := by
      rw [Connector.jobs, htail, List.cons_append]
      exact List.mem_cons_of_mem _ hj
    refine (hrun j.1 j.2).mono fun r s hc =>
      ⟨j.1, j.2, fun he => ?_, Connector.mem_jobs_iff.1 hmem, hc⟩
    exact hnodup.1 (List.mem_map.2 ⟨j, hj, he⟩)
  rw [htail, List.mapM_cons] at hfirst
  obtain ⟨b, r₁, hb, hfirst⟩ := ends_bind_iff.1 hfirst
  obtain ⟨rest, r₃, hrest, hfirst⟩ := ends_bind_iff.1 hfirst
  obtain ⟨rfl, hpath⟩ := ends_pure_iff.1 hfirst
  rw [reflTransGen_alone_iff] at hpath
  subst hpath
  refine ⟨b, rest ++ others, r₁, rfl, hb, ?_⟩
  refine (hrest.reflTransGen_alone (.mapM fun j hj => hchange j (List.mem_append_left _ hj))).trans
    (hothers.elim
      (fun h => h.reflTransGen_alone (.mapM fun j hj => hchange j (List.mem_append_right _ hj)))
      fun h => h.reflTransGen_alone (.all fun p hp => ?_))
  obtain ⟨j, hj, rfl⟩ := List.mem_map.1 hp
  exact hchange j (List.mem_append_right _ hj)

/-- **What each job of a phase comes to**: it comes to its end amid changes that it does not see,
and after that there are only changes of the others. -/
theorem forall₂_of_ends_overJobs : List.Forall₂ (fun (j : String × MonitorJob) b =>
    ∃ r₁, Ends w (x.connector.Meanwhile j.1) (run j.1 j.2) r b r₁ ∧
      Relation.ReflTransGen (x.connector.OthersChange j.1) r₁ s) x.connector.jobs bs := by
  have hamid := forall₂_amid_others hrun h
  have hother {l : List (String × MonitorJob)} {bs : List β} (hl : ∀ j ∈ l, j.1 ≠ hostMonitorType)
      (h : List.Forall₂ (fun (j : String × MonitorJob) b =>
        Ends w (x.connector.OthersChange j.1) (run j.1 j.2) r b s) l bs) :
      List.Forall₂ (fun (j : String × MonitorJob) b =>
        ∃ r₁, Ends w (x.connector.Meanwhile j.1) (run j.1 j.2) r b r₁ ∧
          Relation.ReflTransGen (x.connector.OthersChange j.1) r₁ s) l bs := by
    refine ((List.forall₂_and_left _ _).2 ⟨hl, h⟩).imp ?_
    rintro j b ⟨hne, hj⟩
    exact ⟨s, hj.mono fun _ _ hc => ⟨hne, hc⟩, .refl⟩
  cases hhost : x.connector.monitors.get? hostMonitorType with
  | none =>
    refine hother (fun j hj he => ?_) hamid
    rw [← he, Connector.mem_jobs_iff.1 hj] at hhost
    cases hhost
  | some job =>
    obtain ⟨b, rest, r₁, rfl, hb, hafter⟩ := exists_first_of_host hrun h hhost
    obtain ⟨tail, htail⟩ := Connector.exists_leadingJobs_eq hhost
    have hjobs : x.connector.jobs = (hostMonitorType, job) :: (tail ++ x.connector.otherJobs) := by
      rw [Connector.jobs, htail, List.cons_append]
    have hnodup := x.connector.nodup_types_jobs
    rw [hjobs] at hamid hnodup ⊢
    rw [List.map_cons, List.nodup_cons] at hnodup
    cases hamid with
    | cons _ hrest =>
      refine .cons ⟨r₁, hb.mono fun _ _ h => h.elim, hafter⟩ (hother (fun j hj he => ?_) hrest)
      exact hnodup.1 (List.mem_map.2 ⟨j, hj, he⟩)

end Parts

/-! ## Two phases compared -/

theorem eq_of_forall₂ {ι : Type} {R R' : ι → β → Prop} {l : List ι} {bs' : List β}
    (h : List.Forall₂ R l bs) (h' : List.Forall₂ R' l bs')
    (heq : ∀ i ∈ l, ∀ b b', R i b → R' i b' → b = b') : bs = bs' := by
  induction h generalizing bs' with
  | nil =>
    cases h' with
    | nil => rfl
  | cons hi _ ih =>
    cases h' with
    | cons hi' hrest' =>
      rw [heq _ List.mem_cons_self _ _ hi hi',
        ih hrest' fun i hmem => heq i (List.mem_cons_of_mem _ hmem)]

theorem exists_of_forall₂ {ι : Type} {R : ι → β → Prop} {l : List ι} (h : List.Forall₂ R l bs)
    {i : ι} (hi : i ∈ l) : ∃ b, R i b := by
  induction h with
  | nil => cases hi
  | cons hj _ ih =>
    rcases List.mem_cons.1 hi with rfl | hi
    · exact ⟨_, hj⟩
    · exact ih hi

section Compare

variable {run' : String → MonitorJob → Activity β} {sequential : Bool} {bs' : List β}
  {r' s' : Resource}
  (hrun : ∀ type job, ChangesOnly (JobChange x.connector.id type) (run type job))
  (hrun' : ∀ type job, ChangesOnly (JobChange x.connector.id type) (run' type job))
  (hagree : ∀ type job, x.connector.monitors.get? type = some job → Agree w
    (x.connector.Meanwhile type) (view x.connector type) (run type job) (run' type job))
  (hr : ∀ type, r.view x.connector type = r'.view x.connector type)
  (h : Ends w Alone (x.overJobs run) r bs s)
  (h' : Ends w Alone ((x.inMode sequential).overJobs run') r' bs' s')

include hrun hrun' hagree hr h h'

theorem results_eq_of_ends_overJobs : bs = bs' := by
  refine eq_of_forall₂ (forall₂_of_ends_overJobs hrun h)
    (forall₂_of_ends_overJobs (x := x.inMode sequential) hrun' h') ?_
  rintro ⟨type, job⟩ hj b b' ⟨r₁, hb, -⟩ ⟨r₁', hb', -⟩
  exact (hagree type job (Connector.mem_jobs_iff.1 hj) r r' (hr type) _ _ _ _ hb hb').1

/-- The monitors of a job are the same when it ends, and only others make changes after that. -/
theorem exists_ends_of_job {type : String} {job : MonitorJob}
    (hjob : x.connector.monitors.get? type = some job) :
    ∃ r₁ r₁', r₁.view x.connector type = r₁'.view x.connector type ∧
      Relation.ReflTransGen (x.connector.OthersChange type) r₁ s ∧
      Relation.ReflTransGen (x.connector.OthersChange type) r₁' s' := by
  have hj := Connector.mem_jobs_iff.2 hjob
  obtain ⟨b, r₁, hb, hafter⟩ := exists_of_forall₂ (forall₂_of_ends_overJobs hrun h) hj
  obtain ⟨b', r₁', hb', hafter'⟩ :=
    exists_of_forall₂ (forall₂_of_ends_overJobs (x := x.inMode sequential) hrun' h') hj
  exact ⟨r₁, r₁', (hagree type job hjob r r' (hr type) _ _ _ _ hb hb').2, hafter, hafter'⟩

/-- For every type, the monitors are the same from some time on, until which nothing but changes of
others was made. -/
theorem exists_ends_of_type (type : String) :
    ∃ r₁ r₁', r₁.view x.connector type = r₁'.view x.connector type ∧
      Relation.ReflTransGen (x.connector.OthersChange type) r₁ s ∧
      Relation.ReflTransGen (x.connector.OthersChange type) r₁' s' := by
  cases hjob : x.connector.monitors.get? type with
  | some job => exact exists_ends_of_job hrun hrun' hagree hr h h' hjob
  | none =>
    exact ⟨r, r', hr type,
      Relation.ReflTransGen.mono (fun _ _ hc => hc.others hjob) _ _
        (jobsChanges_of_ends_overJobs hrun h),
      Relation.ReflTransGen.mono (fun _ _ hc => Connector.JobsChange.others hc hjob) _ _
        (jobsChanges_of_ends_overJobs (x := x.inMode sequential) hrun' h')⟩

theorem view_eq_of_ends_overJobs {type : String} (hne : type ≠ hostMonitorType) :
    s.view x.connector type = s'.view x.connector type := by
  obtain ⟨r₁, r₁', hview, hafter, hafter'⟩ := exists_ends_of_type hrun hrun' hagree hr h h' type
  have hkept {r s : Resource} (hpath : Relation.ReflTransGen (x.connector.OthersChange type) r s) :
      s.view x.connector type = r.view x.connector type :=
    eq_of_reflTransGen (·.view x.connector type) (fun _ _ hc => hc.view_eq hne) hpath
  rw [hkept hafter, hkept hafter', hview]

/-- The host is the same too, once it has its monitor. -/
theorem view_withEndpoint_of_ends_overJobs :
    s.withEndpoint.view x.connector hostMonitorType =
      s'.withEndpoint.view x.connector hostMonitorType := by
  obtain ⟨r₁, r₁', hview, hafter, hafter'⟩ :=
    exists_ends_of_type hrun hrun' hagree hr h h' hostMonitorType
  have hkept {r s : Resource}
      (hpath : Relation.ReflTransGen (x.connector.OthersChange hostMonitorType) r s) :
      s.withEndpoint.view x.connector hostMonitorType =
        r.withEndpoint.view x.connector hostMonitorType :=
    eq_of_reflTransGen (·.withEndpoint.view x.connector hostMonitorType)
      (fun _ _ hc => hc.view_withEndpoint) hpath
  rw [hkept hafter, hkept hafter']
  exact view_updateEndpoint_of_view hview fun _ _ hm => hm

variable (sequential) in
/-- **Two phases**, whose jobs agree one by one, have the same results and leave the same resource
apart from job durations. If there are jobs, the host has to have its monitor at their ends. -/
theorem same_of_ends_overJobs (hrest : r' = { r with monitors := r'.monitors })
    (hend : x.connector.jobs = [] ∨ s.HasEndpoint ∧ s'.HasEndpoint) :
    bs' = bs ∧ s'.withoutDurations x.connector = s.withoutDurations x.connector := by
  refine ⟨(results_eq_of_ends_overJobs hrun hrun' hagree hr h h').symm, ?_⟩
  have hpath := jobsChanges_of_ends_overJobs hrun h
  have hpath' := jobsChanges_of_ends_overJobs (x := x.inMode sequential) hrun' h'
  refine withoutDurations_eq_iff.2 ⟨?_, fun type => ?_⟩
  · have hs := Connector.rest_of_jobsChanges hpath
    have hs' := Connector.rest_of_jobsChanges hpath'
    rw [hs', hrest, hs]
  · by_cases htype : type = hostMonitorType
    · subst htype
      rcases hend with hnone | ⟨hs, hs'⟩
      · have hstill {r s : Resource} (hpath : Relation.ReflTransGen x.connector.JobsChange r s) :
            s = r := by
          cases hpath with
          | refl => rfl
          | tail _ hc =>
            obtain ⟨type, job, hjob, -⟩ := hc
            have hmem := Connector.mem_jobs_iff.2 hjob
            rw [hnone] at hmem
            cases hmem
        rw [hstill hpath, hstill hpath', hr]
      · have hhost := view_withEndpoint_of_ends_overJobs hrun hrun' hagree hr h h'
        rw [hs.withEndpoint_eq, hs'.withEndpoint_eq] at hhost
        exact hhost.symm
    · exact (view_eq_of_ends_overJobs hrun hrun' hagree hr h h' htype).symm

end Compare

/-! ## The monitor of the host at the end of a phase -/

theorem hasEndpoint_of_ends_discoverJob {E : Resource → Resource → Prop} {base : Harvest}
    {type : String} {job : MonitorJob} {found : PhaseState × Namespace}
    (hE : ∀ r s, E r s → r.HasEndpoint → s.HasEndpoint)
    (h : Ends w E (x.discoverJob base type job) r found s) : s.HasEndpoint := by
  obtain ⟨started, r₁, -, h⟩ := ends_bind_iff.1 h
  obtain ⟨⟨gathered, isComplete⟩, r₂, -, h⟩ := ends_bind_iff.1 h
  cases isComplete
  all_goals
    obtain ⟨_, r₃, -, h⟩ := ends_bind_iff.1 h
    obtain ⟨_, r₄, hrecord, hend⟩ := ends_bind_iff.1 h
    obtain ⟨finished, r₅, -, hnote⟩ := ends_bind_iff.1 hrecord
    obtain ⟨r₆, -, hafter⟩ := ends_modify_iff.1 hnote
    have hnoted := keeps_of_reflTransGen hE hafter (hasEndpoint_note ..)
    exact keeps_of_reflTransGen hE (ends_pure_iff.1 hend).2 hnoted

/-- The discovery of any job notes how long it took, and so the host has its monitor. -/
theorem hasEndpoint_of_ends_discovery {base : Harvest} {found : List (PhaseState × Namespace)}
    (hjobs : x.connector.jobs ≠ []) (h : Ends w Alone (x.overJobs (x.discoverJob base)) r found s) :
    s.HasEndpoint := by
  -- The job for the host if there is one, so that the changes of the others are no harm.
  have hjob : ∃ j ∈ x.connector.jobs, ∀ r s, x.connector.OthersChange j.1 r s →
      r.HasEndpoint → s.HasEndpoint := by
    cases hhost : x.connector.monitors.get? hostMonitorType with
    | some job =>
      exact ⟨(hostMonitorType, job), Connector.mem_jobs_iff.2 hhost, fun _ _ hc => hc.hasEndpoint⟩
    | none =>
      obtain ⟨j, hj⟩ := List.exists_mem_of_ne_nil _ hjobs
      refine ⟨j, hj, fun r s ⟨type, job, _, hjob, hc⟩ => ?_⟩
      exact (Connector.JobsChange.others ⟨type, job, hjob, hc⟩ hhost).hasEndpoint
  obtain ⟨j, hj, hkept⟩ := hjob
  obtain ⟨b, r₁, hb, hafter⟩ := exists_of_forall₂
    (forall₂_of_ends_overJobs (fun type job => x.jobChanges_discoverJob type job base) h) hj
  have hr₁ := hasEndpoint_of_ends_discoverJob (fun r s hc => hkept r s hc.2) hb
  exact keeps_of_reflTransGen hkept hafter hr₁

/-- Collection leaves the monitor of the host where it is. -/
theorem hasEndpoint_of_ends_collection {tables : Namespace} {collected : List (Option PhaseState)}
    (h : Ends w Alone (x.overJobs (x.collectIfAny tables)) r collected s) (hr : r.HasEndpoint) :
    s.HasEndpoint := by
  have hpath := h.reflTransGen_alone
    (ChangesOnly.overJobs fun type job _ => x.changesOnly_collectIfAny tables type job)
  exact keeps_of_reflTransGen (fun _ _ hc => hc.hasEndpoint) hpath hr

end SourceRun

end HardwareWatch
