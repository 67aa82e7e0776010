import HardwareWatch.Extension.Script
import HardwareWatch.Proofs.Activity.AtSite
import HardwareWatch.Proofs.Scheduler.Tokens

/-!
# Reports of cycles

A cycle is over when its tasks are. Its reports are those of the hosts that were visited in it, in
the order of their names, and a host is visited unless its lock was taken when its task started.

* `Scheduler.WorkersHeld.countP_isRunning_le` says how many visits are under way.
* `Scheduler.slotsOf_beginCycle` says which tasks a cycle has, `HostTask.joined?` which of them
  visit their hosts.
* `Scheduler.IsNamed` says that what a task reports is about its host.
* `cycle_reports` says what the cycles report.
-/

namespace HardwareWatch

universe u

open Relation (ReflTransGen)

/-! ## What an activity comes to -/

namespace Activity

variable {α β σ : Type} {P : α → Prop}

/-- Whatever the activity comes to, it is such a result. -/
def ComesTo (P : α → Prop) (p : Activity α) : Prop := ∀ cs a, Runs .any p cs (some a) → P a

theorem ComesTo.bind {Q : β → Prop} (p : Activity α) {f : α → Activity β}
    (h : ∀ a, (f a).ComesTo Q) : (p >>= f).ComesTo Q := by
  intro cs b hb
  obtain ⟨a, cs₁, cs₂, -, -, hrest⟩ := runs_bind_some_iff.1 hb
  exact h a cs₂ b hrest

theorem comesTo_pure {a : α} (h : P a) : (pure a : Activity α).ComesTo P := by
  intro cs b hb
  cases hb
  exact h

theorem ComesTo.poll {p : Activity α} (h : p.ComesTo P) (network : Network σ) (s : Site σ) :
    (p.poll network s).1.ComesTo P := by
  obtain ⟨ds, -, hcontinues⟩ :=
    (leadsTo_poll (Surroundings.any_admits network) p s fun _ => trivial).runs
  exact fun cs a ha => h _ a (hcontinues cs (some a) ha)

theorem ComesTo.result {p : Activity α} (h : p.ComesTo P) {a : α} (ha : p.result? = some a) :
    P a := by
  rw [result?_eq_some_iff] at ha
  exact h 0 a (ha ▸ .done)

end Activity

open Activity

/-- The report of a visit is about its host. -/
theorem Visit.comesTo_run (v : Visit) (connectors : ConnectorStore) :
    (v.run connectors).ComesTo fun report => report.hostname = v.host.hostname :=
  .bind _ fun _ => .bind _ fun _ => .bind _ fun _ => .bind _ fun _ => comesTo_pure rfl

/-! ## Workers -/

namespace HostTask

variable {ρ : Type u}

/-- The ticket with which the task visits its host. -/
def workerTicket? (t : HostTask ρ) : Option Nat :=
  match t.state with
  | .running ticket _ _ => some ticket
  | _ => none

theorem isSome_workerTicket? (t : HostTask ρ) : t.workerTicket?.isSome = t.isRunning := by
  rw [workerTicket?, isRunning]
  cases t.state <;> rfl

theorem ticket?_of_workerTicket? {t : HostTask ρ} {ticket : Nat}
    (h : t.workerTicket? = some ticket) : t.ticket? = some ticket := by
  rw [workerTicket?] at h
  rw [ticket?]
  split at h
  · rename_i hstate
    rw [hstate]
    exact h
  · cases h

end HostTask

theorem nodup_filterMap_of_unique {α : Type u} {β : Type} {f : α → Option β} {l : List α}
    (h : ∀ (i j : Nat) (a a' : α) (b : β), l[i]? = some a → l[j]? = some a' → f a = some b →
      f a' = some b → i = j) : (l.filterMap f).Nodup := by
  rw [List.Nodup, List.pairwise_filterMap, List.pairwise_iff_getElem]
  rintro i j hi hj hlt b hb b' hb' rfl
  exact absurd (h i j _ _ b (List.getElem?_eq_getElem hi) (List.getElem?_eq_getElem hj) hb hb')
    (Nat.ne_of_lt hlt)

/-- What comes of some of the elements, seen as the elements themselves. -/
theorem sublist_map_filterMap {α : Type u} {β γ : Type} {f : α → Option β} {g : β → γ} {k : α → γ}
    {l : List α} (h : ∀ a ∈ l, ∀ b, f a = some b → g b = k a) :
    ((l.filterMap f).map g).Sublist (l.map k) := by
  induction l with
  | nil => exact .slnil
  | cons a l ih =>
    have hrest := ih fun a' ha' => h a' (List.mem_cons_of_mem a ha')
    cases hb : f a with
    | none =>
      rw [List.filterMap_cons_none hb]
      exact hrest.cons _
    | some b =>
      rw [List.filterMap_cons_some hb, List.map_cons, h a List.mem_cons_self b hb]
      exact hrest.cons_cons _

namespace Scheduler

variable {ρ : Type u} {s s' : Scheduler ρ}

/-- **No more visits are under way than there are workers.** -/
theorem WorkersHeld.countP_isRunning_le (hs : s.WorkersHeld) :
    s.tasks.countP HostTask.isRunning ≤ s.capacity := by
  have hcount : (s.tasks.filterMap HostTask.workerTicket?).length =
      s.tasks.countP HostTask.isRunning := by
    simp only [List.length_filterMap_eq_countP, HostTask.isSome_workerTicket?]
  have hnodup : (s.tasks.filterMap HostTask.workerTicket?).Nodup :=
    nodup_filterMap_of_unique fun i j t t' ticket hi hj ht ht' =>
      hs.distinct i j t t' ticket hi hj (HostTask.ticket?_of_workerTicket? ht)
        (HostTask.ticket?_of_workerTicket? ht')
  have hsub : s.tasks.filterMap HostTask.workerTicket? ⊆ s.workers.tickets.take s.capacity := by
    intro ticket hticket
    obtain ⟨t, ht, hsome⟩ := List.mem_filterMap.1 hticket
    obtain ⟨i, hi⟩ := List.mem_iff_getElem?.1 ht
    have hrunning : t.isRunning = true := by rw [← HostTask.isSome_workerTicket?, hsome]; rfl
    obtain ⟨ticket', hticket', hworker⟩ := hs.running i t hi hrunning
    rw [HostTask.ticket?_of_workerTicket? hsome, Option.some.injEq] at hticket'
    exact hasWorker_iff.1 (hticket' ▸ hworker)
  rw [← hcount]
  exact (hnodup.subperm hsub).length_le.trans (List.length_take_le _ _)

theorem WorkersHeld.of_goes (hs : s.WorkersHeld) (h : ReflTransGen Goes s s') :
    s'.WorkersHeld := by
  induction h with
  | refl => exact hs
  | tail _ h ih =>
    cases h with
    | step h => exact ih.step h
    | order o =>
      cases o with
      | call c => exact ih.apply c
      | shutDown =>
        rw [SchedulerOrder.apply, shutDown_eq]
        exact ih.congr rfl rfl rfl

theorem engine_of_goes (h : ReflTransGen Goes s s') : s'.engine = s.engine := by
  induction h with
  | refl => rfl
  | tail _ h ih =>
    cases h with
    | step h =>
      obtain ⟨k, t, state, -, -, -, hengine, -⟩ := h.inversion
      exact hengine.trans ih
    | order o =>
      cases o with
      | call c => exact (workers_apply c _).2.trans ih
      | shutDown =>
        rw [SchedulerOrder.apply, shutDown_eq]
        exact ih

/-! ## The tasks of a cycle -/

theorem plan_beginCycle (s : Scheduler ρ) : s.beginCycle.2.plan =
    s.plan ++ if s.isShutDown then [] else s.slots.values.map (s.nextCycle, ·) := by
  rw [plan, tasks_beginCycle, List.map_append, ← plan]
  split
  · rfl
  · rw [List.map_map]
    rfl

/-- How cycles and tasks go together. -/
structure PlanValid (s : Scheduler ρ) : Prop where
  begun : ∀ e ∈ s.plan, e.1 < s.nextCycle
  /-- A cycle has one task for a host. -/
  distinct : (s.plan.map fun e => (e.1, e.2.settings.hostname)).Nodup

theorem TokensValid.map_hostname_values (hs : s.TokensValid) :
    s.slots.values.map (·.settings.hostname) = s.hostnames := by
  rw [NameMap.values, hostnames, NameMap.keys, List.map_map]
  exact List.map_congr_left fun entry hmem =>
    hs.named entry.1 entry.2 (NameMap.get?_eq_some_iff.2 hmem)

theorem PlanValid.beginCycle (hs : s.PlanValid) (hslots : s.TokensValid) :
    s.beginCycle.2.PlanValid := by
  have hspawned : ∀ e ∈ (if s.isShutDown then [] else s.slots.values.map (s.nextCycle, ·)),
      e.1 = s.nextCycle := by
    intro e he
    split at he
    · cases he
    · obtain ⟨slot, -, rfl⟩ := List.mem_map.1 he
      rfl
  refine ⟨fun e he => ?_, ?_⟩
  · rw [plan_beginCycle] at he
    rcases List.mem_append.1 he with he | he
    · exact Nat.lt_succ_of_lt (hs.begun e he)
    · exact Nat.lt_succ_of_le (Nat.le_of_eq (hspawned e he))
  · rw [plan_beginCycle, List.map_append, List.nodup_append]
    refine ⟨hs.distinct, ?_, ?_⟩
    · split
      · exact List.nodup_nil
      · have hnames : (s.slots.values.map (·.settings.hostname)).Nodup := by
          rw [hslots.map_hostname_values]
          exact s.slots.nodup_keys
        rw [List.map_map]
        refine List.Nodup.of_map Prod.snd ?_
        rwa [List.map_map]
    · rintro a ha b hb rfl
      obtain ⟨e, he, rfl⟩ := List.mem_map.1 ha
      obtain ⟨e', he', heq⟩ := List.mem_map.1 hb
      have hlt : e.1 < s.nextCycle := hs.begun e he
      have hcycle : e'.1 = e.1 := (Prod.mk.inj heq).1
      rw [← hcycle, hspawned e' he'] at hlt
      exact Nat.lt_irrefl _ hlt

theorem planValid_of_goes {engine : EngineSettings} (h : ReflTransGen Goes (idle engine) s) :
    s.PlanValid := by
  induction h with
  | refl => exact ⟨nofun, List.nodup_nil⟩
  | @tail s₁ s₂ hbefore h ih =>
    cases h with
    | step h =>
      exact ⟨by rw [h.plan_eq, h.unchanged.2]; exact ih.begun, by rw [h.plan_eq]; exact ih.distinct⟩
    | order o =>
      rcases apply_cases o s₁ with ⟨htasks, hcycle⟩ | heq
      · have hplan : (o.apply s₁).plan = s₁.plan := by rw [plan, htasks, ← plan]
        exact ⟨by rw [hplan, hcycle]; exact ih.begun, by rw [hplan]; exact ih.distinct⟩
      · rw [heq]
        exact ih.beginCycle ((tokensValid_idle engine).of_goes hbefore)

/-- Later there are further tasks, of later cycles. -/
theorem exists_plan_append (h : ReflTransGen Goes s s') : ∃ later,
    s'.plan = s.plan ++ later ∧ (∀ e ∈ later, s.nextCycle ≤ e.1) ∧ s.nextCycle ≤ s'.nextCycle := by
  induction h with
  | refl => exact ⟨[], by simp, nofun, Nat.le_refl _⟩
  | @tail s₁ s₂ _ h ih =>
    obtain ⟨later, hplan, hlater, hle⟩ := ih
    cases h with
    | step h => exact ⟨later, h.plan_eq.trans hplan, hlater, h.unchanged.2 ▸ hle⟩
    | order o =>
      rcases apply_cases o s₁ with ⟨htasks, hcycle⟩ | heq
      · exact ⟨later, by rw [plan, htasks, ← plan, hplan], hlater, hcycle ▸ hle⟩
      · rw [heq, plan_beginCycle, hplan, List.append_assoc]
        refine ⟨_, rfl, fun e he => ?_, Nat.le_succ_of_le hle⟩
        rcases List.mem_append.1 he with he | he
        · exact hlater e he
        · split at he
          · cases he
          · obtain ⟨slot, -, rfl⟩ := List.mem_map.1 he
            exact hle

/-- The registrations that the tasks of a cycle are for. -/
def slotsOf (s : Scheduler ρ) (cycle : Nat) : List HostSlot :=
  (s.tasks.filter (·.cycle = cycle)).map (·.slot)

theorem slotsOf_eq (s : Scheduler ρ) (cycle : Nat) :
    s.slotsOf cycle = (s.plan.filter (·.1 = cycle)).map Prod.snd := by
  rw [slotsOf, plan, List.filter_map, List.map_map]
  rfl

/-- The tasks of a cycle are for the hosts that were registered when it began. -/
theorem slotsOf_beginCycle (hs : s.PlanValid) (h : ReflTransGen Goes s.beginCycle.2 s') :
    s'.slotsOf s.beginCycle.1 = if s.isShutDown then [] else s.slots.values := by
  obtain ⟨later, hplan, hlater, -⟩ := exists_plan_append h
  have hbefore : s.plan.filter (·.1 = s.nextCycle) = [] :=
    List.filter_eq_nil_iff.2 fun e he => by simpa using Nat.ne_of_lt (hs.begun e he)
  have hafter : later.filter (·.1 = s.nextCycle) = [] :=
    List.filter_eq_nil_iff.2 fun e he => by simpa using Nat.ne_of_gt (hlater e he)
  change s'.slotsOf s.nextCycle = _
  rw [slotsOf_eq, hplan, plan_beginCycle, List.filter_append, List.filter_append, hbefore, hafter,
    List.nil_append, List.append_nil]
  split
  · rfl
  · simp [List.filter_map, Function.comp_def]

end Scheduler

/-! ## Tasks that have started -/

/-- Whether the task visits its host, once it has started. -/
def HostTask.joined? {ρ : Type u} (t : HostTask ρ) : Option Bool :=
  match t.state with
  | .spawned => none
  | .ended none => some false
  | _ => some true

namespace Scheduler

variable {ρ : Type u} {s s' : Scheduler ρ}

theorem StateStep.joined? {lock : Nat} {t : HostTask ρ} {state : TaskState ρ} {q : TurnQueue}
    (h : StateStep s lock t.state state q) {b : Bool} (ht : t.joined? = some b) :
    HostTask.joined? { t with state } = some b := by
  generalize hold : t.state = old at h
  rw [HostTask.joined?, hold] at ht
  cases h with
  | skip => cases ht
  | queue => cases ht
  | beginVisit => exact ht
  | continueVisit => exact ht
  | endVisit => exact ht

/-- A task that has started stays what it is. -/
theorem exists_joined (h : ReflTransGen Goes s s') {i : Nat} {t : HostTask ρ} {b : Bool}
    (hi : s.tasks[i]? = some t) (ht : t.joined? = some b) : ∃ t', s'.tasks[i]? = some t' ∧
      t'.cycle = t.cycle ∧ t'.slot = t.slot ∧ t'.joined? = some b := by
  induction h with
  | refl => exact ⟨t, hi, rfl, rfl, ht⟩
  | @tail s₁ s₂ _ h ih =>
    obtain ⟨t₁, hi₁, hcycle, hslot, ht₁⟩ := ih
    cases h with
    | step h =>
      obtain ⟨k, t₀, state, hk, hstate, htasks, -⟩ := h.inversion
      rw [htasks, getElem?_setState, hi₁, Option.map_some]
      refine ⟨_, rfl, ?_⟩
      split
      · rename_i hki
        obtain rfl : t₁ = t₀ := Option.some.inj (hi₁.symm.trans (hki ▸ hk))
        exact ⟨hcycle, hslot, hstate.joined? ht₁⟩
      · exact ⟨hcycle, hslot, ht₁⟩
    | order o =>
      refine ⟨t₁, ?_, hcycle, hslot, ht₁⟩
      rcases apply_cases o s₁ with ⟨htasks, -⟩ | heq
      · rw [htasks, hi₁]
      · have hlt : i < s₁.tasks.length := (List.getElem?_eq_some_iff.1 hi₁).1
        rw [heq, tasks_beginCycle, List.getElem?_append_left hlt, hi₁]

/-- A task visits its host if nobody has the lock when it starts. -/
theorem exists_joined_start {i : Nat} {t : HostTask ρ} (hi : s.tasks[i]? = some t) :
    ∃ t', (s.start i t.slot).tasks[i]? = some t' ∧ t'.cycle = t.cycle ∧ t'.slot = t.slot ∧
      t'.joined? = some !s.isLocked t.slot.runLock := by
  have hset : ∀ state, (s.setState i state).tasks[i]? = some { t with state } := fun state => by
    rw [getElem?_setState, hi, Option.map_some, if_pos rfl]
  rw [start]
  split
  · rename_i hlocked
    exact ⟨_, hset _, rfl, rfl, by rw [hlocked]; rfl⟩
  · rename_i hfree
    exact ⟨_, hset _, rfl, rfl, by rw [Bool.eq_false_iff.2 hfree]; rfl⟩

end Scheduler

/-! ## Reports -/

/-- What the task reports, now or later, is about its host. -/
def HostTask.IsNamed (t : VisitTask) : Prop :=
  match t.state with
  | .running _ _ run => run.ComesTo fun report => report.hostname = t.slot.settings.hostname
  | .ended (some report) => report.hostname = t.slot.settings.hostname
  | _ => True

/-- What all tasks report is about their hosts. -/
def Scheduler.IsNamed (s : Scheduler (Activity HostReport)) : Prop := ∀ t ∈ s.tasks, t.IsNamed

namespace Scheduler.IsNamed

variable {s : Scheduler (Activity HostReport)} {i : Nat} {t : VisitTask}

theorem setState (hs : s.IsNamed) (hi : s.tasks[i]? = some t)
    {state : TaskState (Activity HostReport)} (ht : HostTask.IsNamed { t with state }) :
    (s.setState i state).IsNamed := by
  intro t' ht'
  obtain ⟨j, hj⟩ := List.mem_iff_getElem?.1 ht'
  rw [getElem?_setState] at hj
  obtain ⟨t₀, hj₀, rfl⟩ := Option.map_eq_some_iff.1 hj
  split
  · rename_i hij
    obtain rfl : t = t₀ := Option.some.inj (hi.symm.trans (hij ▸ hj₀))
    exact ht
  · exact hs t₀ (List.mem_of_getElem? hj₀)

theorem start (hs : s.IsNamed) (hi : s.tasks[i]? = some t) (slot : HostSlot) :
    (s.start i slot).IsNamed := by
  rw [Scheduler.start]
  split
  · exact hs.setState hi trivial
  · exact hs.setState hi trivial

theorem beginVisit (hs : s.IsNamed) (hi : s.tasks[i]? = some t) (ticket : Nat)
    {run : Activity HostReport}
    (hrun : run.ComesTo fun report => report.hostname = t.slot.settings.hostname) :
    (s.beginVisit i ticket t.slot run).IsNamed := by
  obtain ⟨locks, nextId, -, heq⟩ := turnLock_eq t.slot.settings.hostname s
  rw [Scheduler.beginVisit]
  dsimp only
  rw [heq]
  exact hs.setState hi hrun

theorem apply (hs : s.IsNamed) (o : SchedulerOrder) : (o.apply s).IsNamed := by
  rcases apply_cases o s with ⟨htasks, -⟩ | heq
  · rwa [IsNamed, htasks]
  · rw [heq]
    intro t ht
    rw [tasks_beginCycle, List.mem_append] at ht
    rcases ht with ht | ht
    · exact hs t ht
    · split at ht
      · cases ht
      · obtain ⟨slot, -, rfl⟩ := List.mem_map.1 ht
        trivial

end Scheduler.IsNamed

namespace Watch

variable {σ : Type} {network : Network σ} {w w' : Watch σ}

theorem isNamed_step (hw : w.scheduler.IsNamed) {i : Nat} {t : VisitTask}
    (hi : w.scheduler.tasks[i]? = some t) : (w.step network i).scheduler.IsNamed := by
  have ht : t.IsNamed := hw t (List.mem_of_getElem? hi)
  rw [step, hi]
  dsimp only
  cases hstate : t.state with
  | spawned => exact hw.start hi t.slot
  | queued ticket => exact hw.beginVisit hi ticket (Visit.comesTo_run _ _)
  | running ticket lock run =>
    rw [HostTask.IsNamed, hstate] at ht
    have hleft := ht.poll network (w.site t.slot lock)
    dsimp only
    rw [goOn]
    dsimp only
    split
    · rename_i report hreport
      exact hw.setState hi (hleft.result hreport)
    · exact hw.setState hi hleft
  | ended report => exact hw

theorem isNamed_of_goes (hw : w.scheduler.IsNamed) (h : ReflTransGen (Goes network) w w') :
    w'.scheduler.IsNamed := by
  induction h with
  | refl => exact hw
  | tail _ h ih =>
    cases h with
    | order o => exact ih.apply o
    | step hi ht => exact isNamed_step ih hi
    | wait h => exact ih

end Watch

namespace Scheduler

variable {s : Scheduler (Activity HostReport)}

theorem IsNamed.hostname_of_report? (hs : s.IsNamed) {t : VisitTask} (ht : t ∈ s.tasks)
    {report : HostReport} (hreport : t.report? = some report) :
    report.hostname = t.slot.settings.hostname := by
  have hnamed := hs t ht
  rw [HostTask.report?] at hreport
  rw [HostTask.IsNamed] at hnamed
  split at hreport
  · rename_i report' hstate
    subst hreport
    rw [hstate] at hnamed
    exact hnamed
  · cases hreport

/-- A cycle reports no other hosts than those of its tasks, in their order. -/
theorem IsNamed.sublist_hostnames_reports (hs : s.IsNamed) (cycle : Nat) :
    ((s.reports cycle).map (·.hostname)).Sublist
      ((s.slotsOf cycle).map (·.settings.hostname)) := by
  rw [reports, slotsOf, List.map_map]
  exact sublist_map_filterMap fun t ht report hreport =>
    hs.hostname_of_report? (List.mem_of_mem_filter ht) hreport

/-- In a cycle that is over exactly those hosts are reported whose tasks did not skip them. -/
theorem IsNamed.reported_iff (hs : s.IsNamed) (hplan : s.PlanValid) {t : VisitTask}
    (ht : t ∈ s.tasks) (hended : s.hasEnded t.cycle = true) {joined : Bool}
    (hjoined : t.joined? = some joined) :
    (∃ report ∈ s.reports t.cycle, report.hostname = t.slot.settings.hostname) ↔
      joined = true := by
  have hdistinct : (s.tasks.map fun t => (t.cycle, t.slot.settings.hostname)).Nodup := by
    simpa [plan, Function.comp_def] using hplan.distinct
  have hover : t.hasEnded = true := by simpa using List.all_eq_true.1 hended t ht
  have hiff : joined = true ↔ ∃ report, t.report? = some report := by
    rw [HostTask.hasEnded] at hover
    rw [HostTask.joined?] at hjoined
    rw [HostTask.report?]
    cases hstate : t.state with
    | ended report => cases report <;> simp_all
    | _ => simp_all
  rw [hiff]
  constructor
  · rintro ⟨report, hreport, hname⟩
    obtain ⟨t', ht', hreport⟩ := List.mem_filterMap.1 hreport
    obtain ⟨ht', hcycle⟩ := List.mem_filter.1 ht'
    have hname' := hs.hostname_of_report? ht' hreport
    have heq : t' = t := List.inj_on_of_nodup_map hdistinct ht' ht
      (Prod.ext (of_decide_eq_true hcycle) (hname'.symm.trans hname))
    exact ⟨report, heq ▸ hreport⟩
  · rintro ⟨report, hreport⟩
    refine ⟨report, List.mem_filterMap.2 ⟨t, ?_, hreport⟩, hs.hostname_of_report? ht hreport⟩
    exact List.mem_filter.2 ⟨ht, decide_eq_true rfl⟩

end Scheduler

theorem Watch.step_of_spawned {σ : Type} (network : Network σ) {w : Watch σ} {i : Nat}
    {t : VisitTask} (hi : w.scheduler.tasks[i]? = some t) (ht : t.state = .spawned) :
    (w.step network i).scheduler = w.scheduler.start i t.slot := by
  rw [step, hi]
  dsimp only
  rw [ht]
  rfl

/-- **What cycles report**: no more visits are under way than there are workers; a cycle reports no
other hosts than those that were registered when it began, each at most once and in the order of
their names; and once it is over it reports exactly those whose locks were free when its tasks
started, cancelled or not. -/
theorem cycle_reports {σ : Type} {network : Network σ} {registry : Registry}
    {connectors : ConnectorStore} {engine : EngineSettings} {state : σ} {w : Watch σ}
    (h : ReflTransGen (Watch.Goes network) (.idle registry connectors engine state) w) :
    w.scheduler.tasks.countP HostTask.isRunning ≤ max 1 engine.maxWorkers ∧
    (∀ w', ReflTransGen (Watch.Goes network) w.beginCycle.2 w' →
      ((w'.scheduler.reports w.beginCycle.1).map (·.hostname)).Sublist w.scheduler.hostnames ∧
        ((w'.scheduler.reports w.beginCycle.1).map (·.hostname)).Pairwise (· < ·)) ∧
    ∀ i t, w.scheduler.tasks[i]? = some t → t.state = .spawned →
      ∀ w', ReflTransGen (Watch.Goes network) (w.step network i) w' →
        w'.scheduler.hasEnded t.cycle = true →
          ((∃ report ∈ w'.scheduler.reports t.cycle,
              report.hostname = t.slot.settings.hostname) ↔
            w.scheduler.isLocked t.slot.runLock = false) := by
  have hgoes : ReflTransGen Scheduler.Goes (.idle engine) w.scheduler := Watch.scheduler_of_goes h
  have hnamed : w.scheduler.IsNamed :=
    Watch.isNamed_of_goes (fun t ht => absurd ht List.not_mem_nil) h
  have hplan : w.scheduler.PlanValid := Scheduler.planValid_of_goes hgoes
  have htokens : w.scheduler.TokensValid := (Scheduler.tokensValid_idle engine).of_goes hgoes
  refine ⟨?_, fun w' h' => ?_, fun i t hi ht w' h' hended => ?_⟩
  · have hidle : (Scheduler.idle engine : Scheduler (Activity HostReport)).WorkersHeld :=
      Scheduler.Reaches.workersHeld .refl
    have hheld : w.scheduler.WorkersHeld := hidle.of_goes hgoes
    have hle := hheld.countP_isRunning_le
    rwa [Scheduler.capacity, Scheduler.engine_of_goes hgoes] at hle
  · have hbegun : ReflTransGen (Watch.Goes network) w w.beginCycle.2 :=
      .single (.order w (.call .runCycle))
    have hnamed' : w'.scheduler.IsNamed := Watch.isNamed_of_goes hnamed (hbegun.trans h')
    have hslots := Scheduler.slotsOf_beginCycle hplan (Watch.scheduler_of_goes h')
    have hsub : ((w'.scheduler.reports w.beginCycle.1).map (·.hostname)).Sublist
        w.scheduler.hostnames := by
      refine (hnamed'.sublist_hostnames_reports w.beginCycle.1).trans ?_
      change ((w'.scheduler.slotsOf w.scheduler.beginCycle.1).map _).Sublist _
      rw [hslots]
      split
      · exact List.nil_sublist _
      · rw [htokens.map_hostname_values]
    have hascending : w.scheduler.hostnames.Pairwise (· < ·) :=
      List.pairwise_map.2 w.scheduler.slots.ascending
    exact ⟨hsub, hascending.sublist hsub⟩
  · have hstep : ReflTransGen (Watch.Goes network) w (w.step network i) :=
      .single (.step hi (by rw [Watch.taskWake?, ht]; exact Option.some_ne_none 0))
    have hnamed' : w'.scheduler.IsNamed := Watch.isNamed_of_goes hnamed (hstep.trans h')
    have hplan' : w'.scheduler.PlanValid :=
      Scheduler.planValid_of_goes (Watch.scheduler_of_goes (h.trans (hstep.trans h')))
    obtain ⟨t₁, hi₁, hcycle₁, hslot₁, ht₁⟩ := Scheduler.exists_joined_start hi
    have hgoes' := Watch.scheduler_of_goes h'
    rw [Watch.step_of_spawned network hi ht] at hgoes'
    obtain ⟨t', hi', hcycle, hslot, ht'⟩ := Scheduler.exists_joined hgoes' hi₁ ht₁
    have hcycle' : t'.cycle = t.cycle := hcycle.trans hcycle₁
    have hreported := hnamed'.reported_iff hplan' (List.mem_of_getElem? hi') (hcycle' ▸ hended) ht'
    rw [hcycle', hslot, hslot₁, Bool.not_eq_true'] at hreported
    exact hreported

namespace FirstCycle

/-- A host. -/
def server : HostSettings := .named "srv" .linux

/-- A cycle has begun, the first one. -/
def begun : Watch Script :=
  ((Watch.idle ⟨[], none⟩ .empty .standard (.empty : Script)).modifyScheduler
    (·.addHost server)).beginCycle.2

/-- The task of the cycle has started. -/
def started : Watch Script := begun.step Script.network 0

/-- The task has visited the host. -/
def ended : Watch Script := (started.step Script.network 0).step Script.network 0

theorem reaches_begun : ReflTransGen (Watch.Goes Script.network)
    (.idle ⟨[], none⟩ .empty .standard (.empty : Script)) begun :=
  .tail (.single (.order _ (.call (.addHost server)))) (.order _ (.call .runCycle))

theorem reaches_ended : ReflTransGen (Watch.Goes Script.network) started ended := by
  have hbegins : Watch.Goes Script.network started (started.step Script.network 0) :=
    .step (i := 0) (t := ⟨0, ⟨server, 0, 1⟩, .queued 0⟩) rfl (by decide)
  exact .tail (.single hbegins) (.step (i := 0) (t := _) rfl (by decide))

/-- The host is reported. -/
theorem reports_server : ended.scheduler.hasEnded 0 = true ∧
    ∃ report ∈ ended.scheduler.reports 0, report.hostname = "srv" := by
  have hended : ended.scheduler.hasEnded 0 = true := by decide
  exact ⟨hended, ((cycle_reports reaches_begun).2.2 0 ⟨0, ⟨server, 0, 1⟩, .spawned⟩ rfl rfl ended
    reaches_ended hended).2 (by decide)⟩

end FirstCycle

end HardwareWatch
