import HardwareWatch.Proofs.Scheduler.Exclusion

/-!
# Registrations and locks

A host that is registered again while it is registered keeps its lock, and so its visits never
overlap. A host that is removed loses its lock.

* `IsRegistered`, `Visited`, `Dropped` and `Revisited` say what calls do to a host.
* `Scheduler.SlotsValid` is about the registrations that a scheduler has, `Scheduler.History` about
  the locks of the tasks of a host.
* `Scheduler.Reaches.runsOf_le_one` says that visits do not overlap where there is one worker, and as
  long as the host is not visited, removed and visited once more.
-/

namespace HardwareWatch

universe u

/-! ## What calls do to a host -/

/-- Whether a host is registered after a call, given whether it was so before. -/
def SchedulerCall.register (hostname : String) (before : Bool) : SchedulerCall → Bool
  | addHost settings => before || settings.hostname == hostname
  | removeHost name => before && name != hostname
  | runCycle => before

/-- The host is registered after the calls. -/
def IsRegistered (hostname : String) (calls : List SchedulerCall) : Bool :=
  calls.foldl (SchedulerCall.register hostname) false

/-- A cycle has begun while the host was registered. -/
def Visited (hostname : String) (calls : List SchedulerCall) : Prop :=
  ∃ before after, calls = before ++ .runCycle :: after ∧ IsRegistered hostname before = true

/-- The host was removed after it had been visited. -/
def Dropped (hostname : String) (calls : List SchedulerCall) : Prop :=
  ∃ before after, calls = before ++ .removeHost hostname :: after ∧ Visited hostname before

/-- A cycle has begun while the host was registered once more after that. -/
def Revisited (hostname : String) (calls : List SchedulerCall) : Prop :=
  ∃ before after, calls = before ++ .runCycle :: after ∧ Dropped hostname before ∧
    IsRegistered hostname before = true

section Calls

variable {hostname : String} {calls : List SchedulerCall} (c : SchedulerCall)

theorem isRegistered_concat : IsRegistered hostname (calls ++ [c]) =
    SchedulerCall.register hostname (IsRegistered hostname calls) c := by
  rw [IsRegistered, List.foldl_append]
  rfl

theorem Visited.concat (h : Visited hostname calls) : Visited hostname (calls ++ [c]) := by
  obtain ⟨before, after, rfl, hr⟩ := h
  exact ⟨before, after ++ [c], by simp, hr⟩

theorem Dropped.concat (h : Dropped hostname calls) : Dropped hostname (calls ++ [c]) := by
  obtain ⟨before, after, rfl, hv⟩ := h
  exact ⟨before, after ++ [c], by simp, hv⟩

theorem Revisited.concat (h : Revisited hostname calls) : Revisited hostname (calls ++ [c]) := by
  obtain ⟨before, after, rfl, hd⟩ := h
  exact ⟨before, after ++ [c], by simp, hd⟩

end Calls

namespace Scheduler

variable {ρ : Type u} {s s' : Scheduler ρ}

/-! ## Registrations -/

/-- A registration after a host was added: a host that is registered keeps its lock, any other gets a
new one. -/
theorem exists_slot_addHost (settings : HostSettings) (s : Scheduler ρ) : ∃ slot : HostSlot,
    slot.settings = settings ∧
    (∀ name, (s.addHost settings).slots.get? name =
      if settings.hostname = name then some slot else s.slots.get? name) ∧
    s.nextId < (s.addHost settings).nextId ∧
    (s.slots.get? settings.hostname = none ∧ slot.runLock = s.nextId ∨
      ∃ old, s.slots.get? settings.hostname = some old ∧ slot.runLock = old.runLock) := by
  rw [addHost]
  split
  · rename_i hnone
    exact ⟨_, rfl, NameMap.get?_insert _ _ _, Nat.lt_add_of_pos_right (by omega),
      .inl ⟨hnone, rfl⟩⟩
  · rename_i old hold
    exact ⟨_, rfl, NameMap.get?_insert _ _ _, Nat.lt_succ_self _, .inr ⟨old, hold, rfl⟩⟩

theorem get?_slots_removeHost (name : String) (s : Scheduler ρ) (name' : String) :
    (s.removeHost name).2.slots.get? name' = if name = name' then none else s.slots.get? name' := by
  rw [removeHost]
  split
  · rename_i hnone
    by_cases h : name = name'
    · rw [if_pos h, ← h]
      exact hnone
    · rw [if_neg h]
  · exact NameMap.get?_erase _ _ _

theorem nextId_removeHost (name : String) (s : Scheduler ρ) :
    (s.removeHost name).2.nextId = s.nextId := by
  rw [removeHost]
  split <;> rfl

theorem isShutDown_apply (c : SchedulerCall) (s : Scheduler ρ) :
    (c.apply s).isShutDown = s.isShutDown := by
  cases c with
  | addHost settings =>
    rw [SchedulerCall.apply, addHost]
    split <;> rfl
  | removeHost hostname =>
    rw [SchedulerCall.apply, removeHost]
    split <;> rfl
  | runCycle => rfl

/-- Every registration stands under the name of its host, its lock was given out, and the scheduler
was not shut down. -/
structure SlotsValid (s : Scheduler ρ) : Prop where
  isShutDown : s.isShutDown = false
  named : ∀ name slot, s.slots.get? name = some slot → slot.settings.hostname = name
  issued : ∀ name slot, s.slots.get? name = some slot → slot.runLock < s.nextId

theorem SlotsValid.apply (hs : s.SlotsValid) (c : SchedulerCall) : (c.apply s).SlotsValid := by
  have hshut : (c.apply s).isShutDown = false := (isShutDown_apply c s).trans hs.isShutDown
  cases c with
  | addHost settings =>
    obtain ⟨new, hnew, hget, hlt, hlock⟩ := exists_slot_addHost settings s
    refine ⟨hshut, fun name slot hslot => ?_, fun name slot hslot => ?_⟩ <;>
      rw [SchedulerCall.apply, hget] at hslot <;> split at hslot
    · rename_i h
      cases hslot
      rw [hnew, h]
    · exact hs.named name slot hslot
    · cases hslot
      rcases hlock with ⟨-, hlock⟩ | ⟨old, hold, hlock⟩
      · exact hlock ▸ hlt
      · exact hlock ▸ Nat.lt_trans (hs.issued _ old hold) hlt
    · exact Nat.lt_trans (hs.issued name slot hslot) hlt
  | removeHost name =>
    refine ⟨hshut, fun name' slot hslot => ?_, fun name' slot hslot => ?_⟩ <;>
      rw [SchedulerCall.apply, get?_slots_removeHost] at hslot <;> split at hslot
    · cases hslot
    · exact hs.named name' slot hslot
    · cases hslot
    · rw [SchedulerCall.apply, nextId_removeHost]
      exact hs.issued name' slot hslot
  | runCycle => exact ⟨hshut, hs.named, hs.issued⟩

theorem SlotsValid.step (hs : s.SlotsValid) (h : TaskStep s s') : s'.SlotsValid := by
  obtain ⟨k, t, state, -, -, -, -, hslots, hshut, hle⟩ := h.inversion
  exact ⟨hshut.trans hs.isShutDown, hslots ▸ hs.named, fun name slot hslot =>
    Nat.lt_of_lt_of_le (hs.issued name slot (hslots ▸ hslot)) hle⟩

theorem Reaches.slotsValid {engine : EngineSettings} {calls : List SchedulerCall}
    (h : Reaches (idle engine) calls s) : s.SlotsValid := by
  induction h with
  | refl => exact ⟨rfl, nofun, nofun⟩
  | call _ c ih => exact ih.apply c
  | step _ hs ih => exact ih.step hs

theorem Reaches.contains_slots {engine : EngineSettings} {calls : List SchedulerCall}
    (h : Reaches (idle engine) calls s) (hostname : String) :
    (s.slots.get? hostname).isSome = IsRegistered hostname calls := by
  induction h with
  | refl => rfl
  | call _ c ih =>
    rw [isRegistered_concat, ← ih]
    cases c with
    | addHost settings =>
      obtain ⟨new, -, hget, -⟩ := exists_slot_addHost settings ‹Scheduler ρ›
      rw [SchedulerCall.apply, hget, SchedulerCall.register]
      split
      · rename_i h
        simp [h]
      · rename_i h
        simp [h]
    | removeHost name =>
      rw [SchedulerCall.apply, get?_slots_removeHost, SchedulerCall.register]
      split
      · rename_i h
        simp [h]
      · rename_i h
        simp [h]
    | runCycle => rfl
  | step _ hs ih =>
    obtain ⟨k, t, state, -, -, -, -, hslots, -⟩ := hs.inversion
    rw [hslots, ih]

/-! ## The locks of the tasks of a host -/

/-- How the locks of the tasks of a host and the calls go together. -/
structure History (s : Scheduler ρ) (hostname : String) (calls : List SchedulerCall) : Prop where
  visited : ∀ t ∈ s.tasks, t.slot.settings.hostname = hostname → Visited hostname calls
  /-- A task has the lock of its host, unless the host was removed since. -/
  current : ∀ t ∈ s.tasks, t.slot.settings.hostname = hostname →
    (∃ slot, s.slots.get? hostname = some slot ∧ t.slot.runLock = slot.runLock) ∨
      Dropped hostname calls
  sameLock : ∀ t ∈ s.tasks, ∀ t' ∈ s.tasks, t.slot.settings.hostname = hostname →
    t'.slot.settings.hostname = hostname → t.slot.runLock = t'.slot.runLock ∨
      Revisited hostname calls

theorem History.step {hostname : String} {calls : List SchedulerCall}
    (hs : s.History hostname calls) (h : TaskStep s s') : s'.History hostname calls := by
  obtain ⟨k, t₀, state, hk, -, htasks, -, hslots, -⟩ := h.inversion
  have hslot : ∀ t ∈ s'.tasks, ∃ t₁ ∈ s.tasks, t.slot = t₁.slot := by
    intro t ht
    obtain ⟨i, hi⟩ := List.mem_iff_getElem?.1 (htasks ▸ ht)
    rcases of_getElem?_setState hi with ⟨-, -, t₁, ht₁, heq⟩ | hi
    · exact ⟨t₁, List.mem_of_getElem? ht₁, heq⟩
    · exact ⟨t, List.mem_of_getElem? hi, rfl⟩
  refine ⟨fun t ht hh => ?_, fun t ht hh => ?_, fun t ht t' ht' hh hh' => ?_⟩
  · obtain ⟨t₁, ht₁, heq⟩ := hslot t ht
    exact hs.visited t₁ ht₁ (heq ▸ hh)
  · obtain ⟨t₁, ht₁, heq⟩ := hslot t ht
    rw [hslots, heq]
    exact hs.current t₁ ht₁ (heq ▸ hh)
  · obtain ⟨t₁, ht₁, heq⟩ := hslot t ht
    obtain ⟨t₁', ht₁', heq'⟩ := hslot t' ht'
    rw [heq, heq']
    exact hs.sameLock t₁ ht₁ t₁' ht₁' (heq ▸ hh) (heq' ▸ hh')

theorem History.addHost {hostname : String} {calls : List SchedulerCall}
    (hs : s.History hostname calls) (settings : HostSettings) :
    (s.addHost settings).History hostname (calls ++ [.addHost settings]) := by
  have htasks : (s.addHost settings).tasks = s.tasks := by
    rw [Scheduler.addHost]
    split <;> rfl
  refine ⟨fun t ht hh => ?_, fun t ht hh => ?_, fun t ht t' ht' hh hh' => ?_⟩ <;>
    rw [htasks] at *
  · exact (hs.visited t ht hh).concat _
  · rcases hs.current t ht hh with ⟨slot, hslot, hlock⟩ | hd
    · obtain ⟨new, -, hget, -, hnew⟩ := exists_slot_addHost settings s
      refine .inl ?_
      rw [hget]
      split
      · rename_i hn
        rw [hn] at hnew
        rcases hnew with ⟨hnone, -⟩ | ⟨old, hold, hkept⟩
        · cases hslot.symm.trans hnone
        · cases hslot.symm.trans hold
          exact ⟨new, rfl, hlock.trans hkept.symm⟩
      · exact ⟨slot, hslot, hlock⟩
    · exact .inr (hd.concat _)
  · exact (hs.sameLock t ht t' ht' hh hh').imp_right (·.concat _)

theorem History.removeHost {hostname : String} {calls : List SchedulerCall}
    (hs : s.History hostname calls) (name : String) :
    (s.removeHost name).2.History hostname (calls ++ [.removeHost name]) := by
  have htasks : (s.removeHost name).2.tasks = s.tasks := by
    rw [Scheduler.removeHost]
    split <;> rfl
  refine ⟨fun t ht hh => ?_, fun t ht hh => ?_, fun t ht t' ht' hh hh' => ?_⟩ <;>
    rw [htasks] at *
  · exact (hs.visited t ht hh).concat _
  · rcases hs.current t ht hh with hslot | hd
    · by_cases hn : name = hostname
      · exact .inr ⟨calls, [], by rw [hn], hs.visited t ht hh⟩
      · refine .inl ?_
        rwa [get?_slots_removeHost, if_neg hn]
    · exact .inr (hd.concat _)
  · exact (hs.sameLock t ht t' ht' hh hh').imp_right (·.concat _)

/-- A task after a cycle has begun: one from before, or that of a host that is registered. -/
theorem SlotsValid.of_mem_runCycle (hs : s.SlotsValid) {t : HostTask ρ}
    (ht : t ∈ (SchedulerCall.runCycle.apply s).tasks) :
    t ∈ s.tasks ∨ s.slots.get? t.slot.settings.hostname = some t.slot := by
  refine (List.mem_append.1 ht).imp_right fun ht => ?_
  split at ht
  · simp at ht
  · obtain ⟨slot, hslot, rfl⟩ := List.mem_map.1 ht
    obtain ⟨⟨name, slot⟩, hm, rfl⟩ := List.mem_map.1 hslot
    have hget := NameMap.get?_eq_some_iff.2 hm
    dsimp only
    rwa [hs.named name slot hget]

theorem History.runCycle {hostname : String} {calls : List SchedulerCall}
    (hs : s.History hostname calls) (hslots : s.SlotsValid)
    (hr : (s.slots.get? hostname).isSome = IsRegistered hostname calls) :
    (SchedulerCall.runCycle.apply s).History hostname (calls ++ [.runCycle]) := by
  have hcases : ∀ t ∈ (SchedulerCall.runCycle.apply s).tasks,
      t.slot.settings.hostname = hostname → t ∈ s.tasks ∨ s.slots.get? hostname = some t.slot :=
    fun t ht hh => hh ▸ hslots.of_mem_runCycle ht
  have hregistered : ∀ slot, s.slots.get? hostname = some slot →
      IsRegistered hostname calls = true := fun slot hslot => by rw [← hr, hslot]; rfl
  have hold : ∀ t ∈ s.tasks, t.slot.settings.hostname = hostname →
      ∀ slot, s.slots.get? hostname = some slot → t.slot.runLock = slot.runLock ∨
        Revisited hostname (calls ++ [.runCycle]) := by
    intro t ht hh slot hslot
    rcases hs.current t ht hh with ⟨slot', hslot', hlock⟩ | hd
    · cases hslot.symm.trans hslot'
      exact .inl hlock
    · exact .inr ⟨calls, [], rfl, hd, hregistered slot hslot⟩
  refine ⟨fun t ht hh => ?_, fun t ht hh => ?_, fun t ht t' ht' hh hh' => ?_⟩
  · rcases hcases t ht hh with ht | hslot
    · exact (hs.visited t ht hh).concat _
    · exact ⟨calls, [], rfl, hregistered t.slot hslot⟩
  · rcases hcases t ht hh with ht | hslot
    · exact (hs.current t ht hh).imp_right (·.concat _)
    · exact .inl ⟨t.slot, hslot, rfl⟩
  · rcases hcases t ht hh with ht | hslot <;> rcases hcases t' ht' hh' with ht' | hslot'
    · exact (hs.sameLock t ht t' ht' hh hh').imp_right (·.concat _)
    · exact hold t ht hh t'.slot hslot'
    · exact (hold t' ht' hh' t.slot hslot).imp_left Eq.symm
    · rw [Option.some.inj (hslot.symm.trans hslot')]
      exact .inl rfl

theorem Reaches.history {engine : EngineSettings} {calls : List SchedulerCall}
    (h : Reaches (idle engine) calls s) (hostname : String) : s.History hostname calls := by
  induction h with
  | refl => exact ⟨by simp [idle], by simp [idle], by simp [idle]⟩
  | call h c ih =>
    cases c with
    | addHost settings => exact ih.addHost settings
    | removeHost name => exact ih.removeHost name
    | runCycle => exact ih.runCycle h.slotsValid (h.contains_slots hostname)
  | step _ hs ih => exact ih.step hs

/-! ## No visits overlap -/

/-- At most one element has a property iff no two positions have it. -/
theorem countP_le_one_iff {α : Type u} {p : α → Bool} {l : List α} :
    l.countP p ≤ 1 ↔ ∀ (i j : Nat) (a b : α), l[i]? = some a → l[j]? = some b → p a = true →
      p b = true → i = j := by
  induction l with
  | nil => simp
  | cons x l ih =>
    have hpos : ∀ {i : Nat} {a : α}, l[i]? = some a → p a = true → 0 < l.countP p :=
      fun hi ha => List.countP_pos_iff.2 ⟨_, List.mem_of_getElem? hi, ha⟩
    rw [List.countP_cons]
    constructor
    · intro hle i j a b hi hj ha hb
      cases i with
      | zero =>
        cases j with
        | zero => rfl
        | succ j =>
          cases hi
          have := hpos hj hb
          rw [if_pos ha] at hle
          omega
      | succ i =>
        cases j with
        | zero =>
          cases hj
          have := hpos hi ha
          rw [if_pos hb] at hle
          omega
        | succ j => exact congrArg (· + 1) (ih.1 (by omega) i j a b hi hj ha hb)
    · intro h
      by_cases hx : p x = true
      · have hzero : l.countP p = 0 := List.countP_eq_zero.2 fun b hb hpb => by
          obtain ⟨j, hj⟩ := List.mem_iff_getElem?.1 hb
          cases h 0 (j + 1) x b rfl hj hx hpb
        rw [if_pos hx]
        omega
      · rw [if_neg hx, Nat.add_zero]
        exact ih.2 fun i j a b hi hj ha hb =>
          Nat.succ.inj (h (i + 1) (j + 1) a b hi hj ha hb)

theorem runsOf_le_one_iff {hostname : String} : s.runsOf hostname ≤ 1 ↔
    ∀ (i j : Nat) (t t' : HostTask ρ), s.tasks[i]? = some t → s.tasks[j]? = some t' →
      t.isRunning = true ∧ t.slot.settings.hostname = hostname →
      t'.isRunning = true ∧ t'.slot.settings.hostname = hostname → i = j := by
  rw [runsOf, countP_le_one_iff]
  simp only [Bool.and_eq_true, beq_iff_eq]

/-- **No visits overlap** where there is one worker, and none to a host that is not revisited. -/
theorem Reaches.runsOf_le_one {engine : EngineSettings} {calls : List SchedulerCall}
    (h : Reaches (idle engine) calls s) {hostname : String}
    (hcalls : engine.maxWorkers ≤ 1 ∨ ¬Revisited hostname calls) : s.runsOf hostname ≤ 1 := by
  refine runsOf_le_one_iff.2 fun i j t t' hi hj ht ht' => ?_
  rcases hcalls with hone | hcalls
  · have hcapacity : s.capacity = 1 := by
      rw [capacity, h.engine_eq]
      exact Nat.max_eq_left hone
    exact h.workersHeld.eq_of_isRunning hcapacity hi hj ht.1 ht'.1
  · refine h.locksExclusive i j t t' hi hj (HostTask.isActive_of_isRunning ht.1)
      (HostTask.isActive_of_isRunning ht'.1) ?_
    exact ((h.history hostname).sameLock t (List.mem_of_getElem? hi) t' (List.mem_of_getElem? hj)
      ht.2 ht'.2).resolve_right hcalls

end Scheduler

end HardwareWatch
