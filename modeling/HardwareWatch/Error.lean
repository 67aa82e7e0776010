/-!
# Errors of the engine

An error has a kind and a text. The kind decides how far it travels: a *probe error* stays at the
source or criterion it arose in, and a cancellation ends a run.

* `EngineError.message` is the text that is shown, with the kind in front.
* `EngineError.isProbeError` tells the probe errors apart.
-/

namespace HardwareWatch

/-- What went wrong, in kind. -/
inductive ErrorKind
  /-- A file could not be read. -/
  | io
  /-- The configuration is unusable. -/
  | config
  /-- A connector definition is unusable. -/
  | connector
  /-- A document is no JSON or has not the expected form. -/
  | json
  /-- A document is no XML. -/
  | xml
  /-- A probe did not answer in time. -/
  | probeTimeout
  /-- A probe failed. -/
  | probeFailure
  /-- No extension can run the probe. -/
  | probeUnsupported
  /-- A table has not the expected form. -/
  | malformedTable
  /-- The run was cancelled. -/
  | cancelled
  /-- Anything else. -/
  | other
  deriving DecidableEq, Repr

/-- An error of the engine. -/
structure EngineError where
  kind : ErrorKind
  text : String
  deriving DecidableEq, Repr

namespace ErrorKind

/-- What stands in front of the text of an error of this kind. -/
def heading : ErrorKind → String
  | io => "IO error: "
  | config => "Configuration error: "
  | connector => "Connector error: "
  | json => "JSON error: "
  | xml => "XML error: "
  | probeTimeout => "Probe timed out: "
  | probeFailure => "Probe failed: "
  | probeUnsupported => "Probe unsupported: "
  | malformedTable => "Malformed table data: "
  | cancelled => "Orchestration cancelled: "
  | other => ""

end ErrorKind

namespace EngineError

/-- The error as it is shown. -/
def message (e : EngineError) : String := e.kind.heading ++ e.text

/-- Whether the error is absorbed at the source or criterion it arose in. -/
def isProbeError (e : EngineError) : Bool :=
  match e.kind with
  | .probeTimeout | .probeFailure | .probeUnsupported | .malformedTable => true
  | _ => false

/-- Whether the error is the end of a cancelled probe. -/
def isCancelled (e : EngineError) : Bool := e.kind == .cancelled

end EngineError

end HardwareWatch
