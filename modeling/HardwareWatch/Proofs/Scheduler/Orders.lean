import HardwareWatch.Proofs.Scheduler.Registrations
import Mathlib.Logic.Relation

/-!
# Orders to a scheduler

A scheduler may also be shut down, at any time between its other calls and the steps of its tasks.

* `SchedulerOrder` is a call or the order to shut down.
* `Scheduler.Goes` says what a scheduler is next, `Watch.Goes` the same of the whole watch, and
  `Watch.scheduler_of_goes` leads from the one to the other.
* `Scheduler.exists_registration` and `Scheduler.shutDown_eq` say what becomes of the tokens.
* `Scheduler.plan` is what the tasks are for. Only `Scheduler.apply_cases` adds to it.
-/

namespace HardwareWatch

universe u

open Relation (ReflTransGen)

/-- What a scheduler is told. -/
inductive SchedulerOrder
  | call (c : SchedulerCall)
  | shutDown

/-- The scheduler after it was told. -/
def SchedulerOrder.apply {ρ : Type u} : SchedulerOrder → Scheduler ρ → Scheduler ρ
  | call c, s => c.apply s
  | shutDown, s => s.shutDown

namespace Scheduler

variable {ρ : Type u} {s s' : Scheduler ρ}

/-- What a scheduler is next: it is told something, or one of its tasks makes a step. -/
inductive Goes : Scheduler ρ → Scheduler ρ → Prop
  | order (s : Scheduler ρ) (o : SchedulerOrder) : Goes s (o.apply s)
  | step {s s' : Scheduler ρ} (h : TaskStep s s') : Goes s s'

/-! ## Tokens -/

/-- The token of the registration of a host, if it is registered. -/
def tokenOf? (s : Scheduler ρ) (hostname : String) : Option Nat :=
  (s.slots.get? hostname).map (·.token)

theorem isCancelled_iff {token : Nat} :
    s.isCancelled token = true ↔ token ∈ s.cancelledTokens :=
  List.contains_iff_mem

/-- A registration after a host was added: it has a new token, and the one that the host had is
cancelled. -/
theorem exists_registration (settings : HostSettings) (s : Scheduler ρ) : ∃ slot : HostSlot,
    slot.settings = settings ∧
    (∀ name, (s.addHost settings).slots.get? name =
      if settings.hostname = name then some slot else s.slots.get? name) ∧
    s.nextId ≤ slot.token ∧ slot.token < (s.addHost settings).nextId ∧
    (s.addHost settings).cancelledTokens =
      (s.tokenOf? settings.hostname).toList ++ s.cancelledTokens := by
  rw [addHost, tokenOf?]
  split
  · rename_i hnone
    exact ⟨_, rfl, NameMap.get?_insert _ _ _, Nat.le_succ _, Nat.lt_succ_self _, by rw [hnone]; rfl⟩
  · rename_i old hold
    exact ⟨_, rfl, NameMap.get?_insert _ _ _, Nat.le_refl _, Nat.lt_succ_self _, by rw [hold]; rfl⟩

theorem cancelledTokens_removeHost (hostname : String) (s : Scheduler ρ) :
    (s.removeHost hostname).2.cancelledTokens =
      (s.tokenOf? hostname).toList ++ s.cancelledTokens := by
  rw [removeHost, tokenOf?]
  split <;> rename_i h <;> rw [h] <;> rfl

theorem foldl_cancel (slots : List HostSlot) (s : Scheduler ρ) :
    slots.foldl (fun s slot => s.cancel slot.token) s =
      { s with cancelledTokens := (slots.map (·.token)).reverse ++ s.cancelledTokens } := by
  induction slots generalizing s with
  | nil => rfl
  | cons slot slots ih =>
    rw [List.foldl_cons, ih, List.map_cons, List.reverse_cons, List.append_assoc]
    rfl

/-- Shutting down cancels the tokens of all registrations. -/
theorem shutDown_eq (s : Scheduler ρ) : s.shutDown = { s with
    isShutDown := true
    cancelledTokens := (s.slots.values.map (·.token)).reverse ++ s.cancelledTokens } :=
  foldl_cancel _ _

/-! ## Cycles -/

/-- What the tasks are for. -/
def plan (s : Scheduler ρ) : List (Nat × HostSlot) := s.tasks.map fun t => (t.cycle, t.slot)

theorem plan_setState (s : Scheduler ρ) (i : Nat) (state : TaskState ρ) :
    (s.setState i state).plan = s.plan := by
  refine List.ext_getElem? fun j => ?_
  rw [plan, plan, List.getElem?_map, List.getElem?_map, getElem?_setState, Option.map_map]
  refine congrArg (Option.map · _) (funext fun t => ?_)
  dsimp only [Function.comp]
  split <;> rfl

/-- A step of a task does not change what the tasks are for. -/
theorem TaskStep.plan_eq (h : TaskStep s s') : s'.plan = s.plan := by
  obtain ⟨k, t, state, -, -, htasks, -⟩ := h.inversion
  rw [← plan_setState s k state, plan, htasks, plan]

theorem TaskStep.unchanged (h : TaskStep s s') :
    s'.cancelledTokens = s.cancelledTokens ∧ s'.nextCycle = s.nextCycle := by
  cases h with
  | start hi ht =>
    rw [Scheduler.start]
    split <;> exact ⟨rfl, rfl⟩
  | beginVisit hi ht hw run =>
    obtain ⟨locks, nextId, -, heq⟩ := turnLock_eq _ _
    rw [Scheduler.beginVisit]
    dsimp only
    rw [heq]
    exact ⟨rfl, rfl⟩
  | continueVisit hi ht left => exact ⟨rfl, rfl⟩
  | endVisit hi ht report => exact ⟨rfl, rfl⟩

theorem tasks_beginCycle (s : Scheduler ρ) : s.beginCycle.2.tasks = s.tasks ++
    if s.isShutDown then [] else s.slots.values.map (⟨s.nextCycle, ·, .spawned⟩) := rfl

/-- An order begins a cycle, or the tasks and the cycles are as they were. -/
theorem apply_cases (o : SchedulerOrder) (s : Scheduler ρ) :
    ((o.apply s).tasks = s.tasks ∧ (o.apply s).nextCycle = s.nextCycle) ∨
      o.apply s = s.beginCycle.2 := by
  cases o with
  | call c =>
    cases c with
    | addHost settings =>
      left
      rw [SchedulerOrder.apply, SchedulerCall.apply, addHost]
      split <;> exact ⟨rfl, rfl⟩
    | removeHost hostname =>
      left
      rw [SchedulerOrder.apply, SchedulerCall.apply, removeHost]
      split <;> exact ⟨rfl, rfl⟩
    | runCycle => exact .inr rfl
  | shutDown =>
    left
    rw [SchedulerOrder.apply, shutDown_eq]
    exact ⟨rfl, rfl⟩

end Scheduler

namespace Watch

variable {σ : Type}

/-- What a watch is next: its scheduler is told something, one of its tasks makes a step, or time
passes. -/
inductive Goes (network : Network σ) : Watch σ → Watch σ → Prop
  | order (w : Watch σ) (o : SchedulerOrder) : Goes network w (w.modifyScheduler o.apply)
  | step {w : Watch σ} {i : Nat} {t : VisitTask} (hi : w.scheduler.tasks[i]? = some t)
      (ht : w.taskWake? t ≠ none) : Goes network w (w.step network i)
  | wait {w : Watch σ} {time : Nat} (h : w.clock ≤ time) : Goes network w (w.atTime time)

variable {network : Network σ} {w w' : Watch σ}

theorem scheduler_of_goes (h : ReflTransGen (Goes network) w w') :
    ReflTransGen Scheduler.Goes w.scheduler w'.scheduler := by
  induction h with
  | refl => exact .refl
  | tail _ h ih =>
    cases h with
    | order o => exact ih.tail (.order _ o)
    | step hi ht => exact ih.tail (.step (taskStep_step hi ht))
    | wait h => exact ih

end Watch

end HardwareWatch
