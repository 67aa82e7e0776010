import HardwareWatch.Scheduler.Progress
import HardwareWatch.Visit.Host

/-!
# The watch over all hosts

The scheduler at work: its tasks go on one at a time, always the one that can go on first, and the
clock moves with them. All hosts share the clock and the extensions; every host has a resource and a
queue of its own.

* `Watch` is the state.
* `Watch.runUntil` lets time pass, `Watch.await` lets it pass until a cycle is over.
* `Watch.runPeriodically` begins cycles at equal distances.
-/

namespace HardwareWatch

universe u

/-- The scheduler at work, where the extensions have states of type `σ`. -/
structure Watch (σ : Type) where
  registry : Registry
  connectors : ConnectorStore
  scheduler : Scheduler (Activity HostReport)
  /-- The time in milliseconds. -/
  clock : Nat
  /-- The queues for the turns on the hosts, by lock. -/
  turns : List (Nat × TurnQueue)
  telemetry : Telemetry
  /-- The state of the extensions. -/
  network : σ
  /-- What happened to requests, the latest first. -/
  events : List CallEvent
  /-- The instant of the latest visit. -/
  lastInstant : Instant

/-- The one of two positions that has the lesser time, the first one if they are equal. -/
def sooner? : Option (Nat × Nat) → Option (Nat × Nat) → Option (Nat × Nat)
  | none, second => second
  | some first, none => some first
  | some first, some second => if first.2 ≤ second.2 then some first else some second

/-- The first least of some times, with its position in front. -/
def earliest? : List (Option Nat) → Option (Nat × Nat)
  | [] => none
  | time? :: rest =>
    sooner? (time?.map fun time => (0, time))
      ((earliest? rest).map fun (i, time) => (i + 1, time))

theorem eq_or_eq_of_sooner? {first second : Option (Nat × Nat)} {entry : Nat × Nat}
    (h : sooner? first second = some entry) : first = some entry ∨ second = some entry := by
  cases first with
  | none => exact .inr h
  | some first =>
    cases second with
    | none => exact .inl h
    | some second =>
      rw [sooner?] at h
      split at h
      · exact .inl h
      · exact .inr h

theorem getElem?_of_earliest? {times : List (Option Nat)} {i time : Nat}
    (h : earliest? times = some (i, time)) : times[i]? = some (some time) := by
  induction times generalizing i time with
  | nil => cases h
  | cons time? rest ih =>
    rcases eq_or_eq_of_sooner? h with h | h
    · obtain ⟨t, rfl, ht⟩ := Option.map_eq_some_iff.1 h
      cases ht
      rfl
    · obtain ⟨⟨j, t⟩, hj, hjt⟩ := Option.map_eq_some_iff.1 h
      cases hjt
      simpa using ih hj

namespace Watch

variable {σ : Type}

/-- The watch before anything has happened. -/
def idle (registry : Registry) (connectors : ConnectorStore) (engine : EngineSettings)
    (network : σ) : Watch σ :=
  ⟨registry, connectors, .idle engine, 0, [], .empty, network, [], 0⟩

/-- The watch at a later time. -/
def atTime (w : Watch σ) (time : Nat) : Watch σ := { w with clock := time }

/-- Ask something of the scheduler. -/
def modifyScheduler
    (f : Scheduler (Activity HostReport) → Scheduler (Activity HostReport)) (w : Watch σ) :
    Watch σ :=
  { w with scheduler := f w.scheduler }

/-- Begin a cycle. Gives its number. -/
def beginCycle (w : Watch σ) : Nat × Watch σ :=
  let (cycle, scheduler) := w.scheduler.beginCycle
  (cycle, { w with scheduler })

/-! ## The steps of the tasks -/

/-- The site at which a visit is. -/
def site (w : Watch σ) (slot : HostSlot) (lock : Nat) : Site σ where
  clock := w.clock
  cancelled := w.scheduler.isCancelled slot.token
  turns := (w.turns.lookup lock).getD .empty
  resource := w.telemetry.resource slot.settings.hostname slot.settings.kind
  network := w.network
  events := w.events

/-- The watch after something was done at the site of a visit. -/
def leaveSite (w : Watch σ) (slot : HostSlot) (lock : Nat) (s : Site σ) : Watch σ :=
  { w with
    turns := (lock, s.turns) :: w.turns.filter (·.1 ≠ lock)
    telemetry := w.telemetry.insert slot.settings.hostname s.resource
    network := s.network
    events := s.events }

/-- The instant of a visit that begins now. No two visits have the same one. -/
def nextInstant (w : Watch σ) : Instant := max (w.lastInstant + 1) w.clock

/-- Begin the visit of a task. -/
def beginVisit (w : Watch σ) (i ticket : Nat) (slot : HostSlot) : Watch σ :=
  let visit : Visit := ⟨w.registry, slot.settings, w.scheduler.engine, w.nextInstant⟩
  { w with
    scheduler := w.scheduler.beginVisit i ticket slot (visit.run w.connectors)
    telemetry := w.telemetry.ensure slot.settings.hostname slot.settings.kind
    lastInstant := w.nextInstant }

/-- Let a task go on with its visit. -/
def goOn (network : Network σ) (w : Watch σ) (i ticket lock : Nat) (slot : HostSlot)
    (run : Activity HostReport) : Watch σ :=
  let (left, s) := run.poll network (w.site slot lock)
  let w := w.leaveSite slot lock s
  match left.result? with
  | some report => w.modifyScheduler (·.endVisit i ticket report)
  | none => w.modifyScheduler (·.continueVisit i ticket lock left)

/-- Let a task make a step. -/
def step (network : Network σ) (w : Watch σ) (i : Nat) : Watch σ :=
  match w.scheduler.tasks[i]? with
  | none => w
  | some task =>
    match task.state with
    | .spawned => w.modifyScheduler (·.start i task.slot)
    | .queued ticket => w.beginVisit i ticket task.slot
    | .running ticket lock run => w.goOn network i ticket lock task.slot run
    | .ended _ => w

/-- The time from which on a task can make a step, if it need not wait for another task. -/
def taskWake? (w : Watch σ) (task : VisitTask) : Option Nat :=
  match task.state with
  | .spawned => some 0
  | .queued ticket => if w.scheduler.hasWorker ticket then some 0 else none
  | .running _ lock run => some (run.wake (w.site task.slot lock))
  | .ended _ => none

/-- The task that can make a step first, and the time. -/
def next? (w : Watch σ) : Option (Nat × Nat) :=
  earliest? (w.scheduler.tasks.map w.taskWake?)

/-- Let a task make a step at a time. -/
def advance (network : Network σ) (w : Watch σ) (i time : Nat) : Watch σ :=
  (w.atTime (max w.clock time)).step network i

/-! ## Progress -/

theorem task_of_next? {w : Watch σ} {i time : Nat} (h : w.next? = some (i, time)) :
    ∃ task, w.scheduler.tasks[i]? = some task ∧ w.taskWake? task = some time := by
  have := getElem?_of_earliest? h
  rw [List.getElem?_map] at this
  exact Option.map_eq_some_iff.1 this

theorem moves_goOn (network : Network σ) {w : Watch σ} {i ticket lock : Nat} {t : VisitTask}
    {slot : HostSlot} {run : Activity HostReport} (hi : w.scheduler.tasks[i]? = some t)
    (ht : t.state = .running ticket lock run) (h : run.wake (w.site slot lock) ≤ w.clock) :
    HostTask.Moves (w.goOn network i ticket lock slot run).scheduler.tasks w.scheduler.tasks := by
  rw [goOn]
  dsimp only
  split
  · exact HostTask.moves_endVisit hi ht _
  · rename_i hr
    exact HostTask.moves_continueVisit hi ht
      (Activity.follows_poll_of_wake_le network (Activity.result?_eq_none_of_poll network hr) h)

theorem moves_advance (network : Network σ) {w : Watch σ} {i time : Nat}
    (h : w.next? = some (i, time)) :
    HostTask.Moves (w.advance network i time).scheduler.tasks w.scheduler.tasks := by
  obtain ⟨task, hi, ht⟩ := task_of_next? h
  have hi' : (w.atTime (max w.clock time)).scheduler.tasks[i]? = some task := hi
  rw [advance, step, hi']
  dsimp only
  cases hs : task.state with
  | spawned => exact HostTask.moves_start hi hs _
  | queued ticket => exact HostTask.moves_beginVisit hi hs _ _
  | running ticket lock run =>
    rw [taskWake?, hs, Option.some.injEq] at ht
    refine moves_goOn network hi' hs ?_
    have hw : run.wake ((w.atTime (max w.clock time)).site task.slot lock) = time :=
      (Activity.wake_atTime run (w.site task.slot lock) _).trans ht
    rw [hw]
    exact Nat.le_max_right _ _
  | ended report =>
    rw [taskWake?, hs] at ht
    cases ht

/-! ## Time passes -/

/-- Let time pass up to a time. -/
def runUntil (network : Network σ) (limit : Nat) (w : Watch σ) : Watch σ :=
  match _h : w.next? with
  | none => w.atTime (max w.clock limit)
  | some (i, time) =>
    if max w.clock time ≤ limit then runUntil network limit (w.advance network i time)
    else w.atTime (max w.clock limit)
termination_by HostTask.moves_wellFounded.wrap w.scheduler.tasks
decreasing_by exact moves_advance network _h

/-- Let time pass until all tasks of a cycle are over. -/
def await (network : Network σ) (cycle : Nat) (w : Watch σ) : Watch σ :=
  if w.scheduler.hasEnded cycle then w
  else
    match _h : w.next? with
    | none => w
    | some (i, time) => await network cycle (w.advance network i time)
termination_by HostTask.moves_wellFounded.wrap w.scheduler.tasks
decreasing_by exact moves_advance network _h

/-- Begin cycles at equal distances, the first at once, and let time pass up to a time. Without a
distance between them there are none. -/
def runPeriodically (network : Network σ) (periodMs durationMs : Nat) (w : Watch σ) : Watch σ :=
  let count := if periodMs = 0 then 0 else durationMs / periodMs + 1
  let begins := (List.range count).map (w.clock + · * periodMs)
  (begins.foldl (fun w time => (w.runUntil network time).beginCycle.2) w).runUntil network
    (w.clock + durationMs)

end Watch

end HardwareWatch
