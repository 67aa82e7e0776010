import HardwareWatch.Activity.Site

/-!
# What was asked

* `CallEvent.answered` lists the requests that were answered.
* `CallEvent.mostInFlight` is the most requests that waited for their answers at one time.
-/

namespace HardwareWatch.CallEvent

/-- The requests that were answered, in the order of the answers, given what happened with the latest
first. -/
def answered (events : List CallEvent) : List Request :=
  ((events.filter (·.stage = .finished)).map (·.request)).reverse

/-- How many of the requests that count wait for their answers. -/
def inFlight (counts : Request → Bool) (events : List CallEvent) : Nat :=
  let (begun, ended) := (events.filter fun e => counts e.request).partition (·.stage = .begun)
  begun.length - ended.length

/-- The most requests that waited for their answers at one time, of those that count. -/
def mostInFlight (counts : Request → Bool) : List CallEvent → Nat
  | [] => 0
  | e :: earlier => max (inFlight counts (e :: earlier)) (mostInFlight counts earlier)

end HardwareWatch.CallEvent
