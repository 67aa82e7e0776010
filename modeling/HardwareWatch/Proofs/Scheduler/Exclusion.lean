import HardwareWatch.Proofs.Scheduler.Interleaving
import Mathlib.Data.List.Nodup

/-!
# Locks and workers

A lock is held by one task at a time, and no more visits are under way than there are workers,
whatever is called and whichever task makes its step next.

* `Scheduler.LocksExclusive` says the former, `Scheduler.Reaches.locksExclusive` that it is always so.
* `Scheduler.WorkersHeld` says how tickets and tasks go together. With it, a scheduler with one worker
  has one visit under way at most (`Scheduler.WorkersHeld.eq_of_isRunning`).
-/

namespace HardwareWatch

universe u

namespace HostTask

variable {ρ : Type u}

/-- The ticket for a worker that the task has. -/
def ticket? (t : HostTask ρ) : Option Nat :=
  match t.state with
  | .queued ticket => some ticket
  | .running ticket _ _ => some ticket
  | _ => none

theorem state_ne_spawned {t : HostTask ρ} (ht : t.isActive = true) : t.state ≠ .spawned := by
  intro h
  simp [isActive, h] at ht

theorem isActive_of_isRunning {t : HostTask ρ} (ht : t.isRunning = true) : t.isActive = true := by
  rw [isRunning] at ht
  rw [isActive]
  cases h : t.state <;> simp_all

theorem isActive_of_ticket?_eq_some {t : HostTask ρ} {ticket : Nat}
    (ht : t.ticket? = some ticket) : t.isActive = true := by
  rw [ticket?] at ht
  rw [isActive]
  cases h : t.state <;> simp_all

end HostTask

namespace Scheduler

variable {ρ : Type u} {s s' : Scheduler ρ}

/-! ## Tasks after a step -/

theorem getElem?_setState (s : Scheduler ρ) (k : Nat) (state : TaskState ρ) (i : Nat) :
    (s.setState k state).tasks[i]? =
      (s.tasks[i]?).map fun t => if k = i then { t with state } else t := by
  rw [setState, List.getElem?_modify]
  cases s.tasks[i]? with
  | none => rfl
  | some t =>
    by_cases hk : k = i
    · simp [hk]
    · simp [hk]

/-- A task after the state of one was changed: that one, or one that is as it was. -/
theorem of_getElem?_setState {k i : Nat} {state : TaskState ρ} {t : HostTask ρ}
    (h : (s.setState k state).tasks[i]? = some t) :
    (i = k ∧ t.state = state ∧ ∃ t₀, s.tasks[i]? = some t₀ ∧ t.slot = t₀.slot) ∨
      s.tasks[i]? = some t := by
  rw [getElem?_setState] at h
  obtain ⟨t₀, ht₀, rfl⟩ := Option.map_eq_some_iff.1 h
  split
  · rename_i hk
    exact .inl ⟨hk.symm, rfl, t₀, ht₀, rfl⟩
  · exact .inr ht₀

/-- What the step of a task whose host has a lock makes of its state and of the queue for workers. -/
inductive StateStep (s : Scheduler ρ) (lock : Nat) : TaskState ρ → TaskState ρ → TurnQueue → Prop
  | skip (hl : s.isLocked lock = true) : StateStep s lock .spawned (.ended none) s.workers
  | queue (hl : s.isLocked lock = false) :
    StateStep s lock .spawned (.queued s.workers.nextTicket) s.workers.enter
  | beginVisit {ticket : Nat} (hw : s.hasWorker ticket = true) (turnLock : Nat) (run : ρ) :
    StateStep s lock (.queued ticket) (.running ticket turnLock run) s.workers
  | continueVisit (ticket turnLock : Nat) (run left : ρ) :
    StateStep s lock (.running ticket turnLock run) (.running ticket turnLock left) s.workers
  | endVisit (ticket turnLock : Nat) (run : ρ) (report : HostReport) :
    StateStep s lock (.running ticket turnLock run) (.ended (some report)) (s.workers.leave ticket)

/-- A task that holds its lock after a step held it before, or nobody had it. -/
theorem StateStep.isActive {lock : Nat} {state state' : TaskState ρ} {q : TurnQueue}
    (h : StateStep s lock state state' q) {t t' : HostTask ρ} (ht : t.state = state)
    (ht' : t'.state = state') (hactive : t'.isActive = true) :
    t.isActive = true ∨ s.isLocked lock = false := by
  cases h with
  | skip hl => simp [HostTask.isActive, ht'] at hactive
  | queue hl => exact .inr hl
  | beginVisit hw => exact .inl (by simp [HostTask.isActive, ht])
  | continueVisit => exact .inl (by simp [HostTask.isActive, ht])
  | endVisit => simp [HostTask.isActive, ht'] at hactive

theorem turnLock_eq (hostname : String) (s : Scheduler ρ) :
    ∃ locks nextId, s.nextId ≤ nextId ∧
      (s.turnLock hostname).2 = { s with turnLocks := locks, nextId } := by
  rw [turnLock]
  split
  · exact ⟨s.turnLocks, s.nextId, Nat.le_refl _, rfl⟩
  · exact ⟨_, s.nextId + 1, Nat.le_succ _, rfl⟩

/-- **What a step changes**: the state of one task and the queue for workers. -/
theorem TaskStep.inversion (h : TaskStep s s') : ∃ k t state, s.tasks[k]? = some t ∧
    StateStep s t.slot.runLock t.state state s'.workers ∧
    s'.tasks = (s.setState k state).tasks ∧ s'.engine = s.engine ∧ s'.slots = s.slots ∧
    s'.isShutDown = s.isShutDown ∧ s.nextId ≤ s'.nextId := by
  cases h with
  | start hi ht =>
    rename_i k t
    rw [Scheduler.start]
    split
    · rename_i hl
      exact ⟨k, t, _, hi, ht ▸ .skip hl, rfl, rfl, rfl, rfl, Nat.le_refl _⟩
    · rename_i hl
      exact ⟨k, t, _, hi, ht ▸ .queue (Bool.eq_false_iff.2 hl), rfl, rfl, rfl, rfl, Nat.le_refl _⟩
  | beginVisit hi ht hw run =>
    rename_i k ticket t
    obtain ⟨locks, nextId, hle, heq⟩ := turnLock_eq t.slot.settings.hostname s
    rw [Scheduler.beginVisit]
    dsimp only
    rw [heq]
    exact ⟨k, t, _, hi, ht ▸ .beginVisit hw _ run, rfl, rfl, rfl, rfl, hle⟩
  | continueVisit hi ht left =>
    exact ⟨_, _, _, hi, ht ▸ .continueVisit _ _ _ left, rfl, rfl, rfl, rfl, Nat.le_refl _⟩
  | endVisit hi ht report =>
    exact ⟨_, _, _, hi, ht ▸ .endVisit _ _ _ report, rfl, rfl, rfl, rfl, Nat.le_refl _⟩

/-- The tasks after a call: those before, and some that have made no step. -/
theorem exists_tasks_apply (c : SchedulerCall) (s : Scheduler ρ) :
    ∃ new, (c.apply s).tasks = s.tasks ++ new ∧ ∀ t ∈ new, t.state = .spawned := by
  cases c with
  | addHost settings =>
    refine ⟨[], ?_, by simp⟩
    rw [SchedulerCall.apply, addHost, List.append_nil]
    split <;> rfl
  | removeHost hostname =>
    refine ⟨[], ?_, by simp⟩
    rw [SchedulerCall.apply, removeHost, List.append_nil]
    split <;> rfl
  | runCycle =>
    refine ⟨_, rfl, fun t ht => ?_⟩
    split at ht
    · simp at ht
    · obtain ⟨slot, -, rfl⟩ := List.mem_map.1 ht
      rfl

theorem workers_apply (c : SchedulerCall) (s : Scheduler ρ) :
    (c.apply s).workers = s.workers ∧ (c.apply s).engine = s.engine := by
  cases c with
  | addHost settings =>
    rw [SchedulerCall.apply, addHost]
    split <;> exact ⟨rfl, rfl⟩
  | removeHost hostname =>
    rw [SchedulerCall.apply, removeHost]
    split <;> exact ⟨rfl, rfl⟩
  | runCycle => exact ⟨rfl, rfl⟩

/-- A task that has made a step was there before a call. -/
theorem of_getElem?_apply {c : SchedulerCall} {i : Nat} {t : HostTask ρ}
    (h : (c.apply s).tasks[i]? = some t) (ht : t.state ≠ .spawned) : s.tasks[i]? = some t := by
  obtain ⟨new, htasks, hnew⟩ := exists_tasks_apply c s
  rw [htasks, List.getElem?_append] at h
  split at h
  · exact h
  · exact absurd (hnew t (List.mem_of_getElem? h)) ht

theorem Reaches.engine_eq {s₀ : Scheduler ρ} {calls : List SchedulerCall}
    (h : s₀.Reaches calls s) : s.engine = s₀.engine := by
  induction h with
  | refl => rfl
  | call _ c ih => exact (workers_apply c _).2.trans ih
  | step _ hs ih =>
    obtain ⟨k, t, state, -, -, -, hengine, -⟩ := hs.inversion
    exact hengine.trans ih

/-! ## Locks -/

/-- No two tasks hold one lock. -/
def LocksExclusive (s : Scheduler ρ) : Prop :=
  ∀ (i j : Nat) (t t' : HostTask ρ), s.tasks[i]? = some t → s.tasks[j]? = some t' →
    t.isActive = true → t'.isActive = true → t.slot.runLock = t'.slot.runLock → i = j

theorem isLocked_of_isActive {i : Nat} {t : HostTask ρ} (hi : s.tasks[i]? = some t)
    (ht : t.isActive = true) : s.isLocked t.slot.runLock = true :=
  List.any_eq_true.2 ⟨t, List.mem_of_getElem? hi, by simp [ht]⟩

/-- A task that holds its lock after a step held it before, or it took the lock when nobody had it. -/
theorem TaskStep.of_isActive (h : TaskStep s s') : ∃ k, ∀ (i : Nat) (t : HostTask ρ),
    s'.tasks[i]? = some t → t.isActive = true →
      (∃ t₀, s.tasks[i]? = some t₀ ∧ t₀.isActive = true ∧ t.slot = t₀.slot) ∨
        i = k ∧ s.isLocked t.slot.runLock = false := by
  obtain ⟨k, t₀, state, hk, hstate, htasks, -⟩ := h.inversion
  refine ⟨k, fun i t hi ht => ?_⟩
  rw [htasks] at hi
  rcases of_getElem?_setState hi with ⟨rfl, hst, t₁, ht₁, hslot⟩ | hi
  · rw [hk, Option.some.injEq] at ht₁
    subst ht₁
    rcases hstate.isActive rfl hst ht with hold | hold
    · exact .inl ⟨t₀, hk, hold, hslot⟩
    · exact .inr ⟨rfl, hslot ▸ hold⟩
  · exact .inl ⟨t, hi, ht, rfl⟩

theorem LocksExclusive.step (hs : s.LocksExclusive) (h : TaskStep s s') : s'.LocksExclusive := by
  obtain ⟨k, hk⟩ := h.of_isActive
  intro i j t t' hi hj ht ht' hlock
  rcases hk i t hi ht with ⟨t₀, hi₀, ht₀, hslot⟩ | ⟨rfl, hfree⟩ <;>
    rcases hk j t' hj ht' with ⟨t₀', hj₀, ht₀', hslot'⟩ | ⟨rfl, hfree'⟩
  · exact hs i j t₀ t₀' hi₀ hj₀ ht₀ ht₀' (hslot ▸ hslot' ▸ hlock)
  · rw [← hlock, hslot, isLocked_of_isActive hi₀ ht₀] at hfree'
    cases hfree'
  · rw [hlock, hslot', isLocked_of_isActive hj₀ ht₀'] at hfree
    cases hfree
  · rfl

theorem LocksExclusive.apply (hs : s.LocksExclusive) (c : SchedulerCall) :
    (c.apply s).LocksExclusive := fun i j t t' hi hj ht ht' =>
  hs i j t t' (of_getElem?_apply hi (HostTask.state_ne_spawned ht))
    (of_getElem?_apply hj (HostTask.state_ne_spawned ht')) ht ht'

/-- **A lock is held by one task at a time.** -/
theorem Reaches.locksExclusive {engine : EngineSettings} {calls : List SchedulerCall}
    (h : Reaches (idle engine) calls s) : s.LocksExclusive := by
  induction h with
  | refl => exact fun i j t t' hi => by simp [idle] at hi
  | call _ c ih => exact ih.apply c
  | step _ hs ih => exact ih.step hs

/-! ## Workers -/

/-- How tickets for workers and tasks go together. -/
structure WorkersHeld (s : Scheduler ρ) : Prop where
  nodup : s.workers.tickets.Nodup
  issued : ∀ ticket ∈ s.workers.tickets, ticket < s.workers.nextTicket
  /-- A ticket stands in the queue as long as its task has it. -/
  held : ∀ (i : Nat) (t : HostTask ρ) (ticket : Nat), s.tasks[i]? = some t →
    t.ticket? = some ticket → ticket ∈ s.workers.tickets
  /-- No two tasks have one ticket. -/
  distinct : ∀ (i j : Nat) (t t' : HostTask ρ) (ticket : Nat), s.tasks[i]? = some t →
    s.tasks[j]? = some t' → t.ticket? = some ticket → t'.ticket? = some ticket → i = j
  /-- A task that visits its host has a worker. -/
  running : ∀ (i : Nat) (t : HostTask ρ), s.tasks[i]? = some t → t.isRunning = true →
    ∃ ticket, t.ticket? = some ticket ∧ s.hasWorker ticket = true

theorem mem_take_erase {x y n : Nat} {l : List Nat} (hx : x ∈ l.take n) (hne : x ≠ y) :
    x ∈ (l.erase y).take n := by
  induction l generalizing n with
  | nil => simp at hx
  | cons a l ih =>
    cases n with
    | zero => simp at hx
    | succ n =>
      rw [List.take_succ_cons, List.mem_cons] at hx
      rw [List.erase_cons]
      split
      · rename_i ha
        rcases hx with rfl | hx
        · exact absurd (beq_iff_eq.1 ha) hne
        · exact (List.take_subset_take_left l (Nat.le_succ n)) hx
      · rw [List.take_succ_cons, List.mem_cons]
        exact hx.imp_right ih

theorem hasWorker_iff {ticket : Nat} :
    s.hasWorker ticket = true ↔ ticket ∈ s.workers.tickets.take s.capacity :=
  List.contains_iff_mem

namespace WorkersHeld

theorem congr (hs : s.WorkersHeld) (htasks : s'.tasks = s.tasks)
    (hworkers : s'.workers = s.workers) (hengine : s'.engine = s.engine) : s'.WorkersHeld := by
  obtain ⟨h₁, h₂, h₃, h₄, h₅⟩ := hs
  constructor
  all_goals
    simp only [htasks, hworkers, hasWorker, capacity, hengine] at *
    assumption

theorem apply (hs : s.WorkersHeld) (c : SchedulerCall) : (c.apply s).WorkersHeld := by
  obtain ⟨hworkers, hengine⟩ := workers_apply c s
  have hold : ∀ (i : Nat) (t : HostTask ρ) (ticket : Nat), (c.apply s).tasks[i]? = some t →
      t.ticket? = some ticket → s.tasks[i]? = some t := fun i t ticket hi ht =>
    of_getElem?_apply hi (HostTask.state_ne_spawned (HostTask.isActive_of_ticket?_eq_some ht))
  refine ⟨hworkers ▸ hs.nodup, hworkers ▸ hs.issued, fun i t ticket hi ht => ?_,
    fun i j t t' ticket hi hj ht ht' => ?_, fun i t hi ht => ?_⟩
  · rw [hworkers]
    exact hs.held i t ticket (hold i t ticket hi ht) ht
  · exact hs.distinct i j t t' ticket (hold i t ticket hi ht) (hold j t' ticket hj ht') ht ht'
  · have hne : t.state ≠ .spawned := HostTask.state_ne_spawned (HostTask.isActive_of_isRunning ht)
    obtain ⟨ticket, hticket, hworker⟩ := hs.running i t (of_getElem?_apply hi hne) ht
    refine ⟨ticket, hticket, ?_⟩
    rwa [hasWorker, hworkers, capacity, hengine]

/-- One more in the queue. -/
theorem enter (hs : s.WorkersHeld) : { s with workers := s.workers.enter }.WorkersHeld where
  nodup := by
    refine List.nodup_append.2 ⟨hs.nodup, List.nodup_singleton _, fun a ha b hb => ?_⟩
    rw [List.mem_singleton.1 hb]
    exact Nat.ne_of_lt (hs.issued a ha)
  issued ticket ht := by
    rcases List.mem_append.1 ht with ht | ht
    · exact Nat.lt_succ_of_lt (hs.issued ticket ht)
    · rw [List.mem_singleton.1 ht]
      exact Nat.lt_succ_self _
  held i t ticket hi ht := List.mem_append_left _ (hs.held i t ticket hi ht)
  distinct := hs.distinct
  running i t hi ht := by
    obtain ⟨ticket, hticket, hworker⟩ := hs.running i t hi ht
    refine ⟨ticket, hticket, hasWorker_iff.2 ?_⟩
    rw [hasWorker_iff] at hworker
    change ticket ∈ (s.workers.tickets ++ [s.workers.nextTicket]).take s.capacity
    rw [List.take_append]
    exact List.mem_append_left _ hworker

/-- A ticket that no task has is given back. -/
theorem leave (hs : s.WorkersHeld) {ticket : Nat}
    (hfree : ∀ (i : Nat) (t : HostTask ρ), s.tasks[i]? = some t → t.ticket? ≠ some ticket) :
    { s with workers := s.workers.leave ticket }.WorkersHeld where
  nodup := hs.nodup.erase ticket
  issued ticket' ht := hs.issued ticket' (List.mem_of_mem_erase ht)
  held i t ticket' hi ht := by
    have hne : ticket' ≠ ticket := fun he => hfree i t hi (he ▸ ht)
    exact (List.mem_erase_of_ne hne).2 (hs.held i t ticket' hi ht)
  distinct := hs.distinct
  running i t hi ht := by
    obtain ⟨ticket', hticket, hworker⟩ := hs.running i t hi ht
    have hne : ticket' ≠ ticket := fun he => hfree i t hi (he ▸ hticket)
    exact ⟨ticket', hticket, hasWorker_iff.2 (mem_take_erase (hasWorker_iff.1 hworker) hne)⟩

/-- A task changes its state. If it has a ticket then, no other task has it. -/
theorem setState (hs : s.WorkersHeld) {k : Nat} {state : TaskState ρ}
    (hticket : ∀ (t : HostTask ρ) (ticket : Nat), t.state = state → t.ticket? = some ticket →
      ticket ∈ s.workers.tickets ∧
        ∀ (i : Nat) (t' : HostTask ρ), s.tasks[i]? = some t' → t'.ticket? = some ticket → i = k)
    (hrun : ∀ t : HostTask ρ, t.state = state → t.isRunning = true →
      ∃ ticket, t.ticket? = some ticket ∧ s.hasWorker ticket = true) :
    (s.setState k state).WorkersHeld where
  nodup := hs.nodup
  issued := hs.issued
  held i t ticket hi ht := by
    rcases of_getElem?_setState hi with ⟨-, hst, -⟩ | hi
    · exact (hticket t ticket hst ht).1
    · exact hs.held i t ticket hi ht
  distinct i j t t' ticket hi hj ht ht' := by
    rcases of_getElem?_setState hi with ⟨rfl, hst, -⟩ | hi₀ <;>
      rcases of_getElem?_setState hj with ⟨rfl, hst', -⟩ | hj₀
    · rfl
    · exact ((hticket t ticket hst ht).2 j t' hj₀ ht').symm
    · exact (hticket t' ticket hst' ht').2 i t hi₀ ht
    · exact hs.distinct i j t t' ticket hi₀ hj₀ ht ht'
  running i t hi ht := by
    rcases of_getElem?_setState hi with ⟨-, hst, -⟩ | hi
    · exact hrun t hst ht
    · exact hs.running i t hi ht

/-- A task goes on with the ticket that it has. -/
theorem setState_of_ticket (hs : s.WorkersHeld) {k ticket : Nat} {t₀ : HostTask ρ}
    {state : TaskState ρ} (hk : s.tasks[k]? = some t₀) (ht₀ : t₀.ticket? = some ticket)
    (hstate : ∀ t : HostTask ρ, t.state = state → t.ticket? = some ticket)
    (hw : s.hasWorker ticket = true) : (s.setState k state).WorkersHeld := by
  refine hs.setState (fun t ticket' hst ht => ?_) fun t hst _ => ⟨ticket, hstate t hst, hw⟩
  have heq : ticket' = ticket := Option.some.inj (ht.symm.trans (hstate t hst))
  rw [heq]
  exact ⟨hs.held k t₀ ticket hk ht₀, fun i t' hi ht' =>
    hs.distinct i k t' t₀ ticket hi hk ht' ht₀⟩

theorem step (hs : s.WorkersHeld) (h : TaskStep s s') : s'.WorkersHeld := by
  obtain ⟨k, t₀, state, hk, hstate, htasks, hengine, -⟩ := h.inversion
  generalize hst₀ : t₀.state = state₀ at hstate
  generalize hq : s'.workers = q at hstate
  cases hstate with
  | skip hl =>
    refine congr (hs.setState (fun t ticket hst ht => ?_) fun t hst ht => ?_) htasks hq hengine
    · simp [HostTask.ticket?, hst] at ht
    · simp [HostTask.isRunning, hst] at ht
  | queue hl =>
    refine congr (hs.enter.setState (fun t ticket hst ht => ?_) fun t hst ht => ?_) htasks hq
      hengine
    · simp only [HostTask.ticket?, hst, Option.some.injEq] at ht
      subst ht
      exact ⟨List.mem_append_right _ (List.mem_singleton_self _), fun i t' hi ht' =>
        absurd (hs.issued _ (hs.held i t' _ hi ht')) (Nat.lt_irrefl _)⟩
    · simp [HostTask.isRunning, hst] at ht
  | beginVisit hw turnLock run =>
    exact congr (hs.setState_of_ticket hk (by simp [HostTask.ticket?, hst₀])
      (fun t hst => by simp [HostTask.ticket?, hst]) hw) htasks hq hengine
  | continueVisit ticket turnLock run left =>
    obtain ⟨ticket', hticket, hw⟩ := hs.running k t₀ hk (by simp [HostTask.isRunning, hst₀])
    have heq : ticket' = ticket := by simpa [HostTask.ticket?, hst₀] using hticket.symm
    exact congr (hs.setState_of_ticket hk (heq ▸ hticket)
      (fun t hst => by simp [HostTask.ticket?, hst]) (heq ▸ hw)) htasks hq hengine
  | endVisit ticket turnLock run report =>
    have hended : (s.setState k (.ended (some report))).WorkersHeld := by
      refine hs.setState (fun t ticket hst ht => ?_) fun t hst ht => ?_
      · simp [HostTask.ticket?, hst] at ht
      · simp [HostTask.isRunning, hst] at ht
    refine congr (hended.leave fun i t hi ht => ?_) htasks hq hengine
    rcases of_getElem?_setState hi with ⟨-, hst, -⟩ | hi'
    · simp [HostTask.ticket?, hst] at ht
    · have hik := hs.distinct i k t t₀ ticket hi' hk ht (by simp [HostTask.ticket?, hst₀])
      subst hik
      rw [getElem?_setState, hk] at hi
      simp only [if_pos, Option.map_some, Option.some.injEq] at hi
      subst hi
      simp [HostTask.ticket?] at ht

end WorkersHeld

theorem Reaches.workersHeld {engine : EngineSettings} {calls : List SchedulerCall}
    (h : Reaches (idle engine) calls s) : s.WorkersHeld := by
  induction h with
  | refl =>
    exact ⟨.nil, by simp [idle, TurnQueue.empty], by simp [idle], by simp [idle], by simp [idle]⟩
  | call _ c ih => exact ih.apply c
  | step _ hs ih => exact ih.step hs

/-- **No more than one visit is under way** where there is one worker. -/
theorem WorkersHeld.eq_of_isRunning (hs : s.WorkersHeld) (hcapacity : s.capacity = 1) {i j : Nat}
    {t t' : HostTask ρ} (hi : s.tasks[i]? = some t) (hj : s.tasks[j]? = some t')
    (ht : t.isRunning = true) (ht' : t'.isRunning = true) : i = j := by
  obtain ⟨ticket, hticket, hworker⟩ := hs.running i t hi ht
  obtain ⟨ticket', hticket', hworker'⟩ := hs.running j t' hj ht'
  rw [hasWorker_iff, hcapacity] at hworker hworker'
  have heq : ticket' = ticket := by
    cases htickets : s.workers.tickets with
    | nil => simp [htickets] at hworker
    | cons a l =>
      rw [htickets, List.take_succ_cons, List.take_zero, List.mem_singleton] at hworker hworker'
      rw [hworker, hworker']
  exact hs.distinct i j t t' ticket hi hj hticket (heq ▸ hticket')

end Scheduler

end HardwareWatch
