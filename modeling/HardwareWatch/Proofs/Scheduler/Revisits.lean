import HardwareWatch.Extension.Script
import HardwareWatch.Proofs.Scheduler.Registrations

/-!
# Visits to a host that was removed

If a host is removed while it is visited and is registered once more, it has a new lock, and the
visits of the new registration do not wait for those of the old one. A visit that was cancelled may
still be on its way when the next one begins.

* `Watch.Reaches.visit` lets a task begin its visit, `Watch.Reaches.callAll` asks one thing after the
  other.
* `Scheduler.OneVisit` says that one visit is under way. It stays so whatever is called.
* `Watch.exists_two_runs` has two visits to one host under way.
* `runs_exclusive_iff` says exactly when visits to a host never overlap.
-/

namespace HardwareWatch

universe u

theorem Scheduler.tasks_setState_setState {ρ : Type u} (s : Scheduler ρ) (i : Nat)
    (state state' : TaskState ρ) :
    ((s.setState i state).setState i state').tasks = (s.setState i state').tasks := by
  refine List.ext_getElem? fun j => ?_
  rw [getElem?_setState, getElem?_setState, getElem?_setState, Option.map_map]
  refine congrArg (Option.map · _) (funext fun t => ?_)
  dsimp only [Function.comp]
  split <;> rfl

namespace Watch

variable {σ : Type} {network : Network σ} {w₀ w : Watch σ} {calls : List SchedulerCall}

/-- What holds of a scheduler and is kept by calls holds after any further calls. -/
theorem Reaches.callAll (h : Reaches network w₀ calls w)
    {P : Scheduler (Activity HostReport) → Prop} (hw : P w.scheduler)
    (hP : ∀ (c : SchedulerCall) s, P s → P (c.apply s)) (rest : List SchedulerCall) :
    ∃ w', Reaches network w₀ (calls ++ rest) w' ∧ P w'.scheduler := by
  induction rest generalizing calls w with
  | nil => exact ⟨w, by rwa [List.append_nil], hw⟩
  | cons c rest ih =>
    obtain ⟨w', h', hw'⟩ := ih (h.call c) (hP c _ hw)
    exact ⟨w', by rwa [List.append_cons], hw'⟩

/-- A task that was spawned stands in the queue for a worker if nobody has its lock. -/
theorem Reaches.queue (h : Reaches network w₀ calls w) {i : Nat} {t : VisitTask}
    (hi : w.scheduler.tasks[i]? = some t) (ht : t.state = .spawned)
    (hl : w.scheduler.isLocked t.slot.runLock = false) :
    Reaches network w₀ calls (w.modifyScheduler fun s =>
      { s.setState i (.queued s.workers.nextTicket) with workers := s.workers.enter }) := by
  have hstep := h.step hi (by rw [taskWake?, ht]; exact Option.some_ne_none 0)
  rw [Watch.step, hi] at hstep
  dsimp only at hstep
  rw [ht] at hstep
  dsimp only at hstep
  rwa [modifyScheduler, Scheduler.start, if_neg (Bool.eq_false_iff.1 hl)] at hstep

/-- A task with a worker begins its visit. -/
theorem Reaches.beginVisit (h : Reaches network w₀ calls w) {i ticket : Nat} {t : VisitTask}
    (hi : w.scheduler.tasks[i]? = some t) (ht : t.state = .queued ticket)
    (hw : w.scheduler.hasWorker ticket = true) : ∃ w' lock run, Reaches network w₀ calls w' ∧
      w'.scheduler.tasks = (w.scheduler.setState i (.running ticket lock run)).tasks ∧
      w'.scheduler.workers = w.scheduler.workers ∧ w.scheduler.nextId ≤ w'.scheduler.nextId := by
  have hstep := h.step hi (by rw [taskWake?, ht]; simp [hw])
  rw [Watch.step, hi] at hstep
  dsimp only at hstep
  rw [ht] at hstep
  dsimp only [Watch.beginVisit] at hstep
  obtain ⟨locks, nextId, hle, hturn⟩ :=
    Scheduler.turnLock_eq t.slot.settings.hostname w.scheduler
  refine ⟨_, (w.scheduler.turnLock t.slot.settings.hostname).1,
    Visit.run ⟨w.registry, t.slot.settings, w.scheduler.engine, w.nextInstant⟩ w.connectors, hstep,
    ?_⟩
  dsimp only
  rw [Scheduler.beginVisit]
  dsimp only
  rw [hturn]
  exact ⟨rfl, rfl, hle⟩

/-- A task begins its visit if nobody has its lock and there is a worker left. -/
theorem Reaches.visit (h : Reaches network w₀ calls w) {i : Nat} {t : VisitTask}
    (hi : w.scheduler.tasks[i]? = some t) (ht : t.state = .spawned)
    (hl : w.scheduler.isLocked t.slot.runLock = false)
    (hw : w.scheduler.workers.tickets.length < w.scheduler.capacity) :
    ∃ w' ticket lock run, Reaches network w₀ calls w' ∧
      w'.scheduler.tasks = (w.scheduler.setState i (.running ticket lock run)).tasks ∧
      w'.scheduler.workers = w.scheduler.workers.enter ∧
      w.scheduler.nextId ≤ w'.scheduler.nextId := by
  have hqueued := h.queue hi ht hl
  have hi₁ : (w.scheduler.setState i (.queued w.scheduler.workers.nextTicket)).tasks[i]? =
      some { t with state := .queued w.scheduler.workers.nextTicket } := by
    rw [Scheduler.getElem?_setState, hi, Option.map_some, if_pos rfl]
  have hworker : w.scheduler.workers.nextTicket ∈
      (w.scheduler.workers.tickets ++ [w.scheduler.workers.nextTicket]).take
        w.scheduler.capacity := by
    rw [List.take_of_length_le (by rw [List.length_append]; exact hw)]
    exact List.mem_append_right _ (List.mem_singleton_self _)
  obtain ⟨w', lock, run, h', htasks, hworkers, hle⟩ :=
    hqueued.beginVisit hi₁ rfl (Scheduler.hasWorker_iff.2 hworker)
  exact ⟨w', _, lock, run, h', htasks.trans (Scheduler.tasks_setState_setState _ i _ _), hworkers,
    hle⟩

end Watch

namespace Scheduler

variable {ρ : Type u} {s : Scheduler ρ} {hostname : String} {lock : Nat}

/-- One visit is under way. It is a visit to the host and holds the lock. -/
structure OneVisit (s : Scheduler ρ) (hostname : String) (lock : Nat) : Prop where
  running : ∃ (i : Nat) (t : HostTask ρ), s.tasks[i]? = some t ∧ t.isRunning = true ∧
    t.slot.settings.hostname = hostname
  runLock : ∀ t ∈ s.tasks, t.isActive = true → t.slot.runLock = lock
  tickets : s.workers.tickets.length = 1
  issued : lock < s.nextId

theorem nextId_le_apply (c : SchedulerCall) (s : Scheduler ρ) : s.nextId ≤ (c.apply s).nextId := by
  cases c with
  | addHost settings =>
    obtain ⟨slot, -, -, hlt, -⟩ := exists_slot_addHost settings s
    exact Nat.le_of_lt hlt
  | removeHost name => exact Nat.le_of_eq (nextId_removeHost name s).symm
  | runCycle => exact Nat.le_refl _

theorem OneVisit.apply (hs : s.OneVisit hostname lock) (c : SchedulerCall) :
    (c.apply s).OneVisit hostname lock := by
  obtain ⟨new, htasks, hnew⟩ := exists_tasks_apply c s
  refine ⟨?_, fun t ht hactive => ?_, (workers_apply c s).1 ▸ hs.tickets,
    Nat.lt_of_lt_of_le hs.issued (nextId_le_apply c s)⟩
  · obtain ⟨i, t, hi, ht⟩ := hs.running
    refine ⟨i, t, ?_, ht⟩
    rw [htasks]
    exact List.getElem?_append_left (List.getElem?_eq_some_iff.1 hi).1 ▸ hi
  · rw [htasks] at ht
    rcases List.mem_append.1 ht with ht | ht
    · exact hs.runLock t ht hactive
    · exact absurd (hnew t ht) (HostTask.state_ne_spawned hactive)

/-- The host has another lock or none. -/
def Unlinked (s : Scheduler ρ) (hostname : String) (lock : Nat) : Prop :=
  ∀ slot, s.slots.get? hostname = some slot → slot.runLock ≠ lock

theorem Unlinked.apply (hs : s.Unlinked hostname lock) (hlt : lock < s.nextId) (c : SchedulerCall) :
    (c.apply s).Unlinked hostname lock := by
  intro slot hslot
  cases c with
  | addHost settings =>
    obtain ⟨new, -, hget, -, hnew⟩ := exists_slot_addHost settings s
    rw [SchedulerCall.apply, hget] at hslot
    split at hslot
    · rename_i hn
      cases hslot
      rcases hnew with ⟨-, hfresh⟩ | ⟨old, hold, hkept⟩
      · omega
      · exact hkept ▸ hs old (hn ▸ hold)
    · exact hs slot hslot
  | removeHost name =>
    rw [SchedulerCall.apply, get?_slots_removeHost] at hslot
    split at hslot
    · cases hslot
    · exact hs slot hslot
  | runCycle => exact hs slot hslot

/-- A cycle spawns a task for a host that is registered. -/
theorem SlotsValid.exists_spawned (hs : s.SlotsValid) {slot : HostSlot}
    (hslot : s.slots.get? hostname = some slot) :
    ∃ (i : Nat) (t : HostTask ρ), (SchedulerCall.runCycle.apply s).tasks[i]? = some t ∧
      t.state = .spawned ∧ t.slot = slot ∧ t.slot.settings.hostname = hostname := by
  have hm : (⟨s.nextCycle, slot, .spawned⟩ : HostTask ρ) ∈
      (SchedulerCall.runCycle.apply s).tasks := by
    refine List.mem_append_right _ ?_
    rw [hs.isShutDown]
    exact List.mem_map_of_mem
      (List.mem_map_of_mem (NameMap.get?_eq_some_iff.1 hslot) : slot ∈ s.slots.values)
  obtain ⟨i, hi⟩ := List.mem_iff_getElem?.1 hm
  exact ⟨i, _, hi, rfl, rfl, hs.named hostname slot hslot⟩

/-- No task has made a step. -/
def Dormant (s : Scheduler ρ) : Prop :=
  (∀ t ∈ s.tasks, t.state = .spawned) ∧ s.workers.tickets = []

theorem Dormant.apply (hs : s.Dormant) (c : SchedulerCall) : (c.apply s).Dormant := by
  obtain ⟨new, htasks, hnew⟩ := exists_tasks_apply c s
  refine ⟨fun t ht => ?_, (workers_apply c s).1 ▸ hs.2⟩
  rw [htasks] at ht
  exact (List.mem_append.1 ht).elim (hs.1 t) (hnew t)

theorem isLocked_eq_false (h : ∀ t ∈ s.tasks, t.isActive = true → t.slot.runLock ≠ lock) :
    s.isLocked lock = false :=
  List.any_eq_false.2 fun t ht hboth => by
    rw [Bool.and_eq_true, beq_iff_eq] at hboth
    exact h t ht hboth.2 hboth.1

theorem Dormant.isLocked_eq_false (hs : s.Dormant) : s.isLocked lock = false :=
  Scheduler.isLocked_eq_false fun t ht hactive =>
    absurd (hs.1 t ht) (HostTask.state_ne_spawned hactive)

theorem runsOf_le_apply (c : SchedulerCall) (s : Scheduler ρ) (hostname : String) :
    s.runsOf hostname ≤ (c.apply s).runsOf hostname := by
  obtain ⟨new, htasks, -⟩ := exists_tasks_apply c s
  rw [runsOf, runsOf, htasks, List.countP_append]
  exact Nat.le_add_right _ _

end Scheduler

namespace Watch

variable {σ : Type} {network : Network σ} {registry : Registry} {connectors : ConnectorStore}
  {engine : EngineSettings} {state : σ} {hostname : String} {calls : List SchedulerCall}
  {w : Watch σ}

/-- A task that a cycle has spawned for a host begins its visit if nobody has the lock of the host and
there is a worker left. -/
theorem Reaches.exists_visit
    (h : Reaches network (idle registry connectors engine state) calls w) {slot : HostSlot}
    (hslot : w.scheduler.slots.get? hostname = some slot)
    (hl : (SchedulerCall.runCycle.apply w.scheduler).isLocked slot.runLock = false)
    (hw : w.scheduler.workers.tickets.length < max 1 engine.maxWorkers) :
    ∃ w' i ticket lock run t, Reaches network (idle registry connectors engine state)
        (calls ++ [.runCycle]) w' ∧
      (SchedulerCall.runCycle.apply w.scheduler).tasks[i]? = some t ∧ t.state = .spawned ∧
      t.slot = slot ∧ t.slot.settings.hostname = hostname ∧
      w'.scheduler.tasks = ((SchedulerCall.runCycle.apply w.scheduler).setState i
        (.running ticket lock run)).tasks ∧
      w'.scheduler.workers = w.scheduler.workers.enter ∧
      w.scheduler.nextId ≤ w'.scheduler.nextId := by
  have hvalid : w.scheduler.SlotsValid := h.scheduler.slotsValid
  obtain ⟨i, t, hi, ht, hts, hname⟩ := hvalid.exists_spawned hslot
  have hcapacity : (SchedulerCall.runCycle.apply w.scheduler).capacity = max 1 engine.maxWorkers :=
    congrArg (max 1 ·.maxWorkers) h.scheduler.engine_eq
  obtain ⟨w', ticket, lock, run, h', htasks, hworkers, hle⟩ :=
    (h.call .runCycle).visit hi ht (hts ▸ hl) (hcapacity ▸ hw)
  exact ⟨w', i, ticket, lock, run, t, h', hi, ht, hts, hname, htasks, hworkers, hle⟩

variable (network registry connectors engine state)

/-- A host that a cycle visits may have the only visit that is under way. -/
theorem exists_oneVisit (hv : Visited hostname calls) : ∃ w lock,
    Reaches network (idle registry connectors engine state) calls w ∧
      w.scheduler.OneVisit hostname lock := by
  obtain ⟨before, after, rfl, hr⟩ := hv
  have hrefl : Reaches network (idle registry connectors engine state) []
    (idle registry connectors engine state) := .refl
  obtain ⟨w, h, hdormant⟩ := hrefl.callAll (P := Scheduler.Dormant) ⟨nofun, rfl⟩
    (fun c _ hs => hs.apply c) before
  rw [List.nil_append] at h
  rw [← h.scheduler.contains_slots hostname] at hr
  obtain ⟨slot, hslot⟩ := Option.isSome_iff_exists.1 hr
  have hspawned := hdormant.apply .runCycle
  obtain ⟨w', i, ticket, lock, run, t, h', hi, -, hts, hname, htasks, hworkers, hle⟩ :=
    h.exists_visit hslot hspawned.isLocked_eq_false (by rw [hdormant.2]; exact Nat.le_max_left _ _)
  have hone : w'.scheduler.OneVisit hostname slot.runLock := by
    refine ⟨⟨i, { t with state := .running ticket lock run }, ?_, rfl, hname⟩,
      fun t' ht' hactive => ?_, ?_, ?_⟩
    · rw [htasks, Scheduler.getElem?_setState, hi, Option.map_some, if_pos rfl]
    · obtain ⟨j, hj⟩ := List.mem_iff_getElem?.1 (htasks ▸ ht')
      rcases Scheduler.of_getElem?_setState hj with ⟨rfl, -, t₀, ht₀, heq⟩ | hj
      · rw [hi, Option.some.injEq] at ht₀
        rw [heq, ← ht₀, hts]
      · exact absurd (hspawned.1 t' (List.mem_of_getElem? hj)) (HostTask.state_ne_spawned hactive)
    · rw [hworkers, TurnQueue.enter, hdormant.2]
      rfl
    · have hvalid : w.scheduler.SlotsValid := h.scheduler.slotsValid
      exact Nat.lt_of_lt_of_le (hvalid.issued hostname slot hslot) hle
  obtain ⟨w'', h'', hone'⟩ := h'.callAll
    (P := (·.OneVisit hostname slot.runLock)) hone (fun c _ hs => hs.apply c) after
  exact ⟨w'', _, by rwa [List.append_cons], hone'⟩

/-- A host that was removed may have the only visit that is under way. -/
theorem exists_unlinked_visit (hd : Dropped hostname calls) : ∃ w lock,
    Reaches network (idle registry connectors engine state) calls w ∧
      w.scheduler.OneVisit hostname lock ∧ w.scheduler.Unlinked hostname lock := by
  obtain ⟨before, after, rfl, hv⟩ := hd
  obtain ⟨w, lock, h, hone⟩ :=
    exists_oneVisit network registry connectors engine state hv
  have hunlinked :
      ((SchedulerCall.removeHost hostname).apply w.scheduler).Unlinked hostname lock := by
    intro slot hslot
    rw [SchedulerCall.apply, Scheduler.get?_slots_removeHost, if_pos rfl] at hslot
    cases hslot
  obtain ⟨w', h', hw'⟩ := (h.call (.removeHost hostname)).callAll
    (P := fun s => s.OneVisit hostname lock ∧ s.Unlinked hostname lock)
    ⟨hone.apply (.removeHost hostname), hunlinked⟩
    (fun c _ hs => ⟨hs.1.apply c, hs.2.apply hs.1.issued c⟩) after
  exact ⟨w', lock, by rwa [List.append_cons], hw'⟩

/-- **Visits to a host overlap** if it was visited, removed and visited once more. -/
theorem exists_two_runs (hr : Revisited hostname calls) (hw : 1 < engine.maxWorkers) :
    ∃ w, Reaches network (idle registry connectors engine state) calls w ∧
      1 < w.scheduler.runsOf hostname := by
  obtain ⟨before, after, rfl, hd, hr⟩ := hr
  obtain ⟨w, lock, h, hone, hunlinked⟩ :=
    exists_unlinked_visit network registry connectors engine state hd
  rw [← h.scheduler.contains_slots hostname] at hr
  obtain ⟨slot, hslot⟩ := Option.isSome_iff_exists.1 hr
  have hone' := hone.apply .runCycle
  have hfree : (SchedulerCall.runCycle.apply w.scheduler).isLocked slot.runLock = false :=
    Scheduler.isLocked_eq_false fun t ht hactive heq =>
      hunlinked slot hslot (heq.symm.trans (hone'.runLock t ht hactive))
  obtain ⟨w', i, ticket, turn, run, t, h', hi, ht, -, hname, htasks, -, -⟩ :=
    h.exists_visit hslot hfree (by rw [hone.tickets]; omega)
  have htwo : 1 < w'.scheduler.runsOf hostname := by
    rw [← Nat.not_le, Scheduler.runsOf_le_one_iff]
    intro hunique
    obtain ⟨j, t', hj, hrun, hname'⟩ := hone'.running
    have hne : i ≠ j := by
      rintro rfl
      rw [hi, Option.some.injEq] at hj
      exact HostTask.state_ne_spawned (HostTask.isActive_of_isRunning hrun) (hj ▸ ht)
    refine hne (hunique i j { t with state := .running ticket turn run } t' ?_ ?_ ⟨rfl, hname⟩
      ⟨hrun, hname'⟩)
    · rw [htasks, Scheduler.getElem?_setState, hi, Option.map_some, if_pos rfl]
    · rw [htasks, Scheduler.getElem?_setState, hj, Option.map_some, if_neg hne]
  obtain ⟨w'', h'', htwo'⟩ := h'.callAll (P := fun s => 1 < s.runsOf hostname) htwo
    (fun c s hs => Nat.lt_of_lt_of_le hs (Scheduler.runsOf_le_apply c s hostname)) after
  exact ⟨w'', by rwa [List.append_cons], htwo'⟩

end Watch

/-- **When visits to a host never overlap**: exactly if there is one worker, or if the calls do not
visit it, remove it and visit it once more. -/
theorem runs_exclusive_iff {σ : Type} (network : Network σ) (registry : Registry)
    (connectors : ConnectorStore) (engine : EngineSettings) (state : σ) (hostname : String)
    (calls : List SchedulerCall) :
    (∀ w, Watch.Reaches network (Watch.idle registry connectors engine state) calls w →
      w.scheduler.runsOf hostname ≤ 1) ↔
    engine.maxWorkers ≤ 1 ∨ ¬Revisited hostname calls := by
  constructor
  · intro h
    by_contra hnot
    rw [not_or, Nat.not_le, not_not] at hnot
    obtain ⟨w, hw, htwo⟩ :=
      Watch.exists_two_runs network registry connectors engine state hnot.2 hnot.1
    exact Nat.not_lt.2 (h w hw) htwo
  · exact fun h w hw => hw.scheduler.runsOf_le_one h

namespace RemovedHost

/-- A host. -/
def server : HostSettings := .named "srv" .linux

/-- The host is visited, removed, registered once more and visited again. -/
def calls : List SchedulerCall :=
  [.addHost server, .runCycle, .removeHost "srv", .addHost server, .runCycle]

theorem revisited_calls : Revisited "srv" calls :=
  ⟨[.addHost server, .runCycle, .removeHost "srv", .addHost server], [], rfl,
    ⟨[.addHost server, .runCycle], [.addHost server], rfl, ⟨[.addHost server], [], rfl, by decide⟩⟩,
    by decide⟩

/-- The visit that was cancelled when the host was removed is still under way when the next one
begins. -/
theorem runs_overlap : ∃ w, Watch.Reaches Script.network
    (Watch.idle ⟨[], none⟩ .empty .standard .empty) calls w ∧ ¬w.scheduler.runsOf "srv" ≤ 1 := by
  obtain ⟨w, hw, htwo⟩ := Watch.exists_two_runs Script.network ⟨[], none⟩ .empty .standard .empty
    revisited_calls (by decide)
  exact ⟨w, hw, Nat.not_le.2 htwo⟩

end RemovedHost

end HardwareWatch
