import HardwareWatch.Scheduler.Watch

/-!
# Calls and steps of tasks in any order

A scheduler is called to register and remove hosts and to begin cycles, while the tasks of the cycles
before go on. Any task that can make a step may be the next one to make it.

* `SchedulerCall` is a call, `Scheduler.TaskStep` a step of a task.
* `Scheduler.Reaches` says what a scheduler can become by calls in a given order and by steps of its
  tasks at any time between them, `Watch.Reaches` the same of the whole watch.
* `Watch.Reaches.scheduler` leads from the one to the other.
* `Watch.reaches_runUntil` and `Watch.reaches_await` say that letting time pass is one of the orders.
-/

namespace HardwareWatch

universe u

/-- What a scheduler is asked. -/
inductive SchedulerCall
  | addHost (settings : HostSettings)
  | removeHost (hostname : String)
  | runCycle
  deriving DecidableEq

/-- The scheduler after it was asked. -/
def SchedulerCall.apply {ρ : Type u} : SchedulerCall → Scheduler ρ → Scheduler ρ
  | addHost settings, s => s.addHost settings
  | removeHost hostname, s => (s.removeHost hostname).2
  | runCycle, s => s.beginCycle.2

namespace Scheduler

variable {ρ : Type u}

/-- A task makes a step. -/
inductive TaskStep : Scheduler ρ → Scheduler ρ → Prop
  | start {s : Scheduler ρ} {i : Nat} {t : HostTask ρ} (hi : s.tasks[i]? = some t)
      (ht : t.state = .spawned) : TaskStep s (s.start i t.slot)
  | beginVisit {s : Scheduler ρ} {i ticket : Nat} {t : HostTask ρ} (hi : s.tasks[i]? = some t)
      (ht : t.state = .queued ticket) (hw : s.hasWorker ticket = true) (run : ρ) :
    TaskStep s (s.beginVisit i ticket t.slot run)
  | continueVisit {s : Scheduler ρ} {i ticket lock : Nat} {t : HostTask ρ} {run : ρ}
      (hi : s.tasks[i]? = some t) (ht : t.state = .running ticket lock run) (left : ρ) :
    TaskStep s (s.continueVisit i ticket lock left)
  | endVisit {s : Scheduler ρ} {i ticket lock : Nat} {t : HostTask ρ} {run : ρ}
      (hi : s.tasks[i]? = some t) (ht : t.state = .running ticket lock run) (report : HostReport) :
    TaskStep s (s.endVisit i ticket report)

/-- What a scheduler can become by calls, with steps of its tasks at any time. -/
inductive Reaches (s₀ : Scheduler ρ) : List SchedulerCall → Scheduler ρ → Prop
  | refl : Reaches s₀ [] s₀
  | call {calls : List SchedulerCall} {s : Scheduler ρ} (h : Reaches s₀ calls s)
      (c : SchedulerCall) : Reaches s₀ (calls ++ [c]) (c.apply s)
  | step {calls : List SchedulerCall} {s s' : Scheduler ρ} (h : Reaches s₀ calls s)
      (hs : TaskStep s s') : Reaches s₀ calls s'

/-- The number of visits to a host that are under way. -/
def runsOf (s : Scheduler ρ) (hostname : String) : Nat :=
  s.tasks.countP fun t => t.isRunning && t.slot.settings.hostname == hostname

end Scheduler

namespace Watch

variable {σ : Type} (network : Network σ)

/-- What a watch can become by calls, with steps of its tasks at any time. -/
inductive Reaches (w₀ : Watch σ) : List SchedulerCall → Watch σ → Prop
  | refl : Reaches w₀ [] w₀
  | call {calls : List SchedulerCall} {w : Watch σ} (h : Reaches w₀ calls w) (c : SchedulerCall) :
    Reaches w₀ (calls ++ [c]) (w.modifyScheduler c.apply)
  | step {calls : List SchedulerCall} {w : Watch σ} (h : Reaches w₀ calls w) {i : Nat}
      {t : VisitTask} (hi : w.scheduler.tasks[i]? = some t) (ht : w.taskWake? t ≠ none) :
    Reaches w₀ calls (w.step network i)
  | wait {calls : List SchedulerCall} {w : Watch σ} (h : Reaches w₀ calls w) {time : Nat}
      (ht : w.clock ≤ time) : Reaches w₀ calls (w.atTime time)

variable {network}

/-- A step of the watch is a step of one of its tasks, or nothing happens. -/
theorem taskStep_step {w : Watch σ} {i : Nat} {t : VisitTask} (hi : w.scheduler.tasks[i]? = some t)
    (ht : w.taskWake? t ≠ none) : w.scheduler.TaskStep (w.step network i).scheduler := by
  rw [step, hi]
  dsimp only
  cases hs : t.state with
  | spawned => exact .start hi hs
  | queued ticket =>
    rw [taskWake?, hs] at ht
    have hw : w.scheduler.hasWorker ticket = true := by
      cases hw : w.scheduler.hasWorker ticket with
      | true => rfl
      | false => simp [hw] at ht
    exact .beginVisit hi hs hw _
  | running ticket lock run =>
    dsimp only
    rw [goOn]
    dsimp only
    split
    · exact .endVisit hi hs _
    · exact .continueVisit hi hs _
  | ended report =>
    rw [taskWake?, hs] at ht
    exact absurd rfl ht

theorem Reaches.scheduler {w₀ w : Watch σ} {calls : List SchedulerCall}
    (h : Reaches network w₀ calls w) : w₀.scheduler.Reaches calls w.scheduler := by
  induction h with
  | refl => exact .refl
  | call _ c ih => exact ih.call c
  | step _ hi ht ih => exact ih.step (taskStep_step hi ht)
  | wait _ _ ih => exact ih

/-! ## Time that passes -/

theorem Reaches.advance {w₀ w : Watch σ} {calls : List SchedulerCall}
    (h : Reaches network w₀ calls w) {i time : Nat} (hn : w.next? = some (i, time)) :
    Reaches network w₀ calls (w.advance network i time) := by
  obtain ⟨t, hi, ht⟩ := task_of_next? hn
  have hwake : (w.atTime (max w.clock time)).taskWake? t ≠ none := by
    intro h
    rw [taskWake?] at h ht
    cases hs : t.state <;> simp_all [atTime]
  exact (h.wait (Nat.le_max_left _ _)).step hi hwake

/-- Letting time pass is one of the orders. -/
theorem reaches_runUntil {w₀ w : Watch σ} {calls : List SchedulerCall}
    (h : Reaches network w₀ calls w) (limit : Nat) :
    Reaches network w₀ calls (w.runUntil network limit) := by
  fun_induction runUntil network limit w with
  | case1 w hn => exact h.wait (Nat.le_max_left _ _)
  | case2 w i time hn _ ih => exact ih (h.advance hn)
  | case3 w i time hn _ => exact h.wait (Nat.le_max_left _ _)

theorem reaches_await {w₀ w : Watch σ} {calls : List SchedulerCall}
    (h : Reaches network w₀ calls w) (cycle : Nat) :
    Reaches network w₀ calls (w.await network cycle) := by
  fun_induction await network cycle w with
  | case1 w he => exact h
  | case2 w he hn => exact h
  | case3 w he i time hn ih => exact ih (h.advance hn)

end Watch

end HardwareWatch
