import HardwareWatch.Connector.Criterion
import HardwareWatch.Connector.Source
import HardwareWatch.Operator.Context
import HardwareWatch.Settings.Host

/-!
# Extensions

The engine never talks to a device itself: sources and criteria that ask a host are handed to an
extension for the protocol. The first extension that runs the kind of source or criterion and
supports the host is taken.

* `Extension` is what is known of an extension beforehand.
* `Registry.forSource?` and `Registry.forCriterion?` choose an extension.
-/

namespace HardwareWatch

/-- An implementation of a protocol, as far as it is known beforehand. -/
structure Extension where
  id : String
  sourceTypes : List SourceType
  criterionTypes : List CriterionType
  /-- Whether the host can be asked by the protocol. -/
  supports : HostSettings → Bool

/-- The extensions in order of preference, and what runs external scripts. -/
structure Registry where
  extensions : List Extension
  awk : Option AwkExecutor

namespace Registry

/-- The extension that runs a kind of source on a host. -/
def forSource? (r : Registry) (type : SourceType) (host : HostSettings) : Option Extension :=
  r.extensions.find? fun e => e.sourceTypes.contains type && e.supports host

/-- The extension that evaluates a kind of criterion on a host. -/
def forCriterion? (r : Registry) (type : CriterionType) (host : HostSettings) :
    Option Extension :=
  r.extensions.find? fun e => e.criterionTypes.contains type && e.supports host

end Registry

end HardwareWatch
