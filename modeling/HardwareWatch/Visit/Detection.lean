import HardwareWatch.Connector.Basic
import HardwareWatch.Detect.Local
import HardwareWatch.Visit.Basic

/-!
# Detection of a connector

The criteria of a connector are evaluated in order, up to the first that is not met.

* `Visit.evaluate` is the result of one criterion.
* `Visit.detection` is the result of a connector.
-/

namespace HardwareWatch.Visit

/-- What a criterion is called in messages. -/
def criterionSubject (c : Criterion) (e : Extension) : String :=
  c.type.name ++ " criterion #" ++ toString c.position ++ " (" ++ e.id ++ ")"

/-- The error where no extension evaluates a kind of criterion. -/
def noEvaluator (v : Visit) (type : CriterionType) : EngineError :=
  ⟨.probeUnsupported, "no extension evaluates " ++ type.name ++ " criteria on " ++ v.host.hostname⟩

/-- Ask an extension about a criterion. -/
def probeCriterion (v : Visit) (c : Criterion) : Activity CriterionResult :=
  match v.registry.forCriterion? c.type v.host with
  | none => return .ofError (v.noEvaluator c.type)
  | some e => do
    let r := v.request e (v.host.timeoutFor c.protocol?) (.criterion c)
    match ← v.probe (criterionSubject c e) c.forceSerialization r with
    | .ok result => return result
    | .error e => return .ofError e

/-- The result of a criterion. -/
def evaluate (v : Visit) (c : Criterion) : Activity CriterionResult :=
  match c.kind with
  | .deviceType keep exclude => return deviceTypeResult keep exclude v.host.kind
  | .productRequirements required _ => return productResult required v.engine.engineVersion
  | _ => v.probeCriterion c

/-- The results of criteria up to the first that is not met. -/
def evaluateAll (v : Visit) : List Criterion → Activity (List CriterionResult)
  | [] => return []
  | c :: rest => do
    let result ← v.evaluate c
    if result.isSuccess then return result :: (← v.evaluateAll rest) else return [result]

/-- The result of a connector. -/
def detection (v : Visit) (c : Connector) : Activity DetectionResult :=
  return ⟨c.id, ← v.evaluateAll c.detection.criteria⟩

end HardwareWatch.Visit
