import HardwareWatch.Connector.Criterion
import HardwareWatch.Connector.Source
import HardwareWatch.Detect.Result
import HardwareWatch.Error
import HardwareWatch.Settings.Host

/-!
# Requests to extensions

An extension is asked for the table of a source, for the result of a criterion, or whether its
protocol works at all. It answers, or fails, after some time.

* `Request` is what is asked, `Request.Answer` the type of what comes back.
* `Network` is the behaviour of all extensions: the reply to a request in a state.
-/

namespace HardwareWatch

/-- What an extension is asked. -/
inductive Probe
  | source (s : Source)
  | criterion (c : Criterion)
  /-- Whether the protocol works. -/
  | health
  deriving DecidableEq

/-- The type of the answers to a probe. -/
abbrev Probe.Answer : Probe → Type
  | source _ => Table
  | criterion _ => CriterionResult
  | health => Bool

/-- A probe of a host by an extension. -/
structure Request where
  /-- The id of the extension. -/
  extension : String
  host : HostSettings
  timeoutSecs : Nat
  probe : Probe
  deriving DecidableEq

/-- The type of the answers to a request. -/
abbrev Request.Answer (r : Request) : Type := r.probe.Answer

/-- What comes back for a request, and when. -/
structure Reply (r : Request) where
  delayMs : Nat
  answer : Except EngineError r.Answer

/-- The behaviour of the extensions: the reply to a request that is made in a state, and the state
after it. -/
abbrev Network (σ : Type) := (r : Request) → σ → Reply r × σ

end HardwareWatch
