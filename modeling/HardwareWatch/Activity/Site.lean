import HardwareWatch.Activity.Request
import HardwareWatch.Telemetry.Resource
import HardwareWatch.TurnQueue

/-!
# The state around an activity

An activity runs at a site: the clock, the resource of the host, the queue of those that wait for
their turn on the host, the state of the extensions, and what was asked so far.

* `Site` is the state, `Site.record` notes what happens to a request.
* `CallEvent` is something that happened to a request.
-/

namespace HardwareWatch

/-- What happens to a request. -/
inductive CallStage
  | begun | finished
  /-- Nobody waits for the answer any more. -/
  | abandoned
  deriving DecidableEq, Repr

/-- Something that happened to a request. -/
structure CallEvent where
  time : Nat
  stage : CallStage
  request : Request
  deriving DecidableEq

/-- The state around an activity, where the extensions have states of type `σ`. -/
structure Site (σ : Type) where
  /-- The time in milliseconds. -/
  clock : Nat
  /-- Whether the run was cancelled. -/
  cancelled : Bool
  /-- Those that wait for their turn on the host. -/
  turns : TurnQueue
  /-- What is known of the host. -/
  resource : Resource
  /-- The state of the extensions. -/
  network : σ
  /-- What happened to requests, the latest first. -/
  events : List CallEvent

namespace Site

variable {σ : Type}

/-- The site where nothing has happened. -/
def fresh (resource : Resource) (network : σ) : Site σ :=
  ⟨0, false, .empty, resource, network, []⟩

/-- Note what happened to a request. -/
def record (s : Site σ) (stage : CallStage) (r : Request) : Site σ :=
  { s with events := ⟨s.clock, stage, r⟩ :: s.events }

/-- The site with one more in the queue. -/
def enterQueue (s : Site σ) : Site σ := { s with turns := s.turns.enter }

/-- The site with a ticket given back. -/
def leaveQueue (s : Site σ) (ticket : Nat) : Site σ := { s with turns := s.turns.leave ticket }

/-- The site at a later time. -/
def atTime (s : Site σ) (time : Nat) : Site σ := { s with clock := time }

end Site

end HardwareWatch
