import HardwareWatch.Settings.Engine
import HardwareWatch.Settings.Host
import HardwareWatch.TurnQueue
import HardwareWatch.Visit.Report

/-!
# The scheduler

Hosts are registered and visited in cycles. A cycle spawns a task for every host. A task that finds a
visit to its host under way ends at once; any other waits for one of the workers and then visits the
host. Each registration has a token by which its visits are cancelled, and a host that is registered
again keeps the lock that only one visit may hold.

* `Scheduler` is the state, where a visit that is under way has a state of type `ρ`.
* `addHost`, `removeHost`, `shutDown` and `beginCycle` are what is asked of the scheduler.
* `start`, `beginVisit`, `continueVisit` and `endVisit` are the steps of a task.
-/

namespace HardwareWatch

universe u

/-- A registered host. -/
structure HostSlot where
  settings : HostSettings
  /-- The lock that a visit to the host holds. -/
  runLock : Nat
  /-- The token by which the visits are cancelled. -/
  token : Nat

/-- How far a task is. -/
inductive TaskState (ρ : Type u)
  | spawned
  /-- It holds the lock of its host and waits for a worker. -/
  | queued (ticket : Nat)
  /-- It visits the host. -/
  | running (ticket turnLock : Nat) (run : ρ)
  /-- It is over; without a report if another visit was under way. -/
  | ended (report : Option HostReport)

/-- A task: visit a host in a cycle. -/
structure HostTask (ρ : Type u) where
  cycle : Nat
  /-- The registration of the host when the cycle began. -/
  slot : HostSlot
  state : TaskState ρ

namespace HostTask

variable {ρ : Type u}

/-- Whether the task holds the lock of its host. -/
def isActive (t : HostTask ρ) : Bool :=
  match t.state with
  | .queued _ | .running .. => true
  | _ => false

/-- Whether the task visits its host. -/
def isRunning (t : HostTask ρ) : Bool :=
  match t.state with
  | .running .. => true
  | _ => false

/-- Whether the task is over. -/
def hasEnded (t : HostTask ρ) : Bool :=
  match t.state with
  | .ended _ => true
  | _ => false

/-- The report of a task that is over. -/
def report? (t : HostTask ρ) : Option HostReport :=
  match t.state with
  | .ended report => report
  | _ => none

end HostTask

/-- The state of the scheduler. -/
structure Scheduler (ρ : Type u) where
  engine : EngineSettings
  /-- The registered hosts. -/
  slots : NameMap HostSlot
  /-- The locks under which the probes of a host take turns. -/
  turnLocks : NameMap Nat
  cancelledTokens : List Nat
  /-- The tasks in the order in which they were spawned. -/
  tasks : List (HostTask ρ)
  /-- Those who want a worker. -/
  workers : TurnQueue
  /-- The lock or token that is given out next. -/
  nextId : Nat
  nextCycle : Nat
  isShutDown : Bool

namespace Scheduler

variable {ρ : Type u}

/-- The scheduler without hosts. -/
def idle (engine : EngineSettings) : Scheduler ρ :=
  ⟨engine, .empty, .empty, [], [], .empty, 0, 0, false⟩

/-- The names of the registered hosts. -/
def hostnames (s : Scheduler ρ) : List String := s.slots.keys

/-- How many visits may be under way. -/
def capacity (s : Scheduler ρ) : Nat := max 1 s.engine.maxWorkers

/-- Whether the visits with a token are cancelled. -/
def isCancelled (s : Scheduler ρ) (token : Nat) : Bool := s.cancelledTokens.contains token

/-! ## What is asked of the scheduler -/

/-- Cancel the visits with a token. -/
def cancel (token : Nat) (s : Scheduler ρ) : Scheduler ρ :=
  { s with cancelledTokens := token :: s.cancelledTokens }

/-- Register a host. The visits of an earlier registration are cancelled, and its lock is kept. -/
def addHost (settings : HostSettings) (s : Scheduler ρ) : Scheduler ρ :=
  match s.slots.get? settings.hostname with
  | none =>
    { s with
      slots := s.slots.insert settings.hostname ⟨settings, s.nextId, s.nextId + 1⟩
      nextId := s.nextId + 2 }
  | some old =>
    cancel old.token { s with
      slots := s.slots.insert settings.hostname ⟨settings, old.runLock, s.nextId⟩
      nextId := s.nextId + 1 }

/-- Take a host from the register and cancel its visits. Gives whether there was one. -/
def removeHost (hostname : String) (s : Scheduler ρ) : Bool × Scheduler ρ :=
  match s.slots.get? hostname with
  | none => (false, s)
  | some old =>
    (true, cancel old.token { s with
      slots := s.slots.erase hostname
      turnLocks := s.turnLocks.erase hostname })

/-- Cancel all visits and begin no more cycles. -/
def shutDown (s : Scheduler ρ) : Scheduler ρ :=
  s.slots.values.foldl (fun s slot => s.cancel slot.token) { s with isShutDown := true }

/-- Begin a cycle: its number, and a task for every host. -/
def beginCycle (s : Scheduler ρ) : Nat × Scheduler ρ :=
  let spawned := if s.isShutDown then [] else s.slots.values.map (⟨s.nextCycle, ·, .spawned⟩)
  (s.nextCycle, { s with tasks := s.tasks ++ spawned, nextCycle := s.nextCycle + 1 })

/-- Whether all tasks of a cycle are over. -/
def hasEnded (s : Scheduler ρ) (cycle : Nat) : Bool :=
  s.tasks.all fun t => t.cycle != cycle || t.hasEnded

/-- The reports of a cycle in the order of the names of the hosts. -/
def reports (s : Scheduler ρ) (cycle : Nat) : List HostReport :=
  (s.tasks.filter (·.cycle = cycle)).filterMap HostTask.report?

/-! ## The steps of a task -/

/-- Whether a task holds a lock of a host. -/
def isLocked (s : Scheduler ρ) (lock : Nat) : Bool :=
  s.tasks.any fun t => t.slot.runLock == lock && t.isActive

/-- Whether the ticket has a worker. -/
def hasWorker (s : Scheduler ρ) (ticket : Nat) : Bool := s.workers.isAmongFirst s.capacity ticket

/-- Change the state of a task. -/
def setState (i : Nat) (state : TaskState ρ) (s : Scheduler ρ) : Scheduler ρ :=
  { s with tasks := s.tasks.modify i fun t => { t with state } }

/-- Let a task that was spawned stand in the queue for a worker, unless a visit to its host is under
way. -/
def start (i : Nat) (slot : HostSlot) (s : Scheduler ρ) : Scheduler ρ :=
  if s.isLocked slot.runLock then s.setState i (.ended none)
  else { s.setState i (.queued s.workers.nextTicket) with workers := s.workers.enter }

/-- The lock under which the probes of a host take turns, which is made where it is missing. -/
def turnLock (hostname : String) (s : Scheduler ρ) : Nat × Scheduler ρ :=
  match s.turnLocks.get? hostname with
  | some lock => (lock, s)
  | none =>
    (s.nextId, { s with
      turnLocks := s.turnLocks.insert hostname s.nextId
      nextId := s.nextId + 1 })

/-- Let a task with a worker begin its visit. -/
def beginVisit (i ticket : Nat) (slot : HostSlot) (run : ρ) (s : Scheduler ρ) : Scheduler ρ :=
  let (lock, s) := s.turnLock slot.settings.hostname
  s.setState i (.running ticket lock run)

/-- Let a task go on with its visit. -/
def continueVisit (i ticket lock : Nat) (run : ρ) (s : Scheduler ρ) : Scheduler ρ :=
  s.setState i (.running ticket lock run)

/-- End the visit of a task, which gives its worker back. -/
def endVisit (i ticket : Nat) (report : HostReport) (s : Scheduler ρ) : Scheduler ρ :=
  { s.setState i (.ended (some report)) with workers := s.workers.leave ticket }

end Scheduler

end HardwareWatch
