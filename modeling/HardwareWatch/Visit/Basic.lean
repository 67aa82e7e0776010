import HardwareWatch.Extension.Registry
import HardwareWatch.Activity.Basic
import HardwareWatch.Settings.Engine
import HardwareWatch.Telemetry.Instant

/-!
# Visits and their probes

A visit is one round of work on one host. Every probe of it keeps to the rules of the host: it has a
time limit, it waits for its turn where only one may run at a time, and it is given up when the run
is cancelled.

* `Visit` is what a visit knows.
* `Visit.probe` asks an extension by these rules.
-/

namespace HardwareWatch

/-- What is known during a visit to a host. -/
structure Visit where
  registry : Registry
  host : HostSettings
  engine : EngineSettings
  /-- The instant that everything is written for. -/
  time : Instant

namespace Visit

/-- The milliseconds of a number of seconds. -/
def msOfSecs (secs : Nat) : Nat := 1000 * secs

/-- A time limit as it is shown. -/
def limitText (secs : Nat) : String := if secs = 0 then "0ns" else toString secs ++ "s"

/-- What a probe is called together with its host. -/
def subject (v : Visit) (what : String) : String := what ++ " on " ++ v.host.hostname

/-- The error of a probe that did not answer in time. -/
def lateProbe (v : Visit) (what : String) (limitSecs : Nat) : EngineError :=
  ⟨.probeTimeout, v.subject what ++ " after " ++ limitText limitSecs⟩

/-- The error of a probe that did not get its turn in time. -/
def lateTurn (v : Visit) (what : String) : EngineError :=
  ⟨.probeTimeout, "serialization lock for " ++ v.subject what⟩

/-- The error of a probe whose run was cancelled. -/
def cancelledProbe (v : Visit) (what : String) : EngineError := ⟨.cancelled, v.subject what⟩

/-- The error that an error of an extension counts as. -/
def probeError (what : String) (e : EngineError) : EngineError :=
  if e.isProbeError || e.isCancelled then e else ⟨.probeFailure, what ++ ": " ++ e.message⟩

/-- What a probe comes to, given the answer if there was one in time. -/
def settle {β : Type} (v : Visit) (what : String) (limitSecs : Nat) :
    Option (Except EngineError β) → Except EngineError β
  | some answer => answer.mapError (probeError what)
  | none => .error (v.lateProbe what limitSecs)

/-- Ask an extension within the time limit of the request. -/
def timedProbe (v : Visit) (what : String) (r : Request) :
    Activity (Except EngineError r.Answer) := do
  let answer ← Activity.limited (msOfSecs r.timeoutSecs) (.ask r)
  return v.settle what r.timeoutSecs answer

/-- Ask an extension within the time limit, in turn if need be. -/
def orderedProbe (v : Visit) (what : String) (inTurn : Bool) (r : Request) :
    Activity (Except EngineError r.Answer) :=
  if inTurn then do
    let answer ← Activity.serialized (msOfSecs v.engine.serializationTimeoutSecs)
      (v.timedProbe what r)
    return answer.getD (.error (v.lateTurn what))
  else v.timedProbe what r

/-- Ask an extension by the rules of the host. -/
def probe (v : Visit) (what : String) (inTurn : Bool) (r : Request) :
    Activity (Except EngineError r.Answer) := do
  let answer ← Activity.guarded (v.orderedProbe what inTurn r)
  return answer.getD (.error (v.cancelledProbe what))

/-- The request for a probe with a time limit. -/
def request (v : Visit) (e : Extension) (limitSecs : Nat) (p : Probe) : Request :=
  ⟨e.id, v.host, limitSecs, p⟩

end Visit

end HardwareWatch
