import HardwareWatch.Error
import HardwareWatch.Text.Pieces

/-!
# Results of detection

* `CriterionResult` is the result of one criterion; an error says that it could not be evaluated.
* `DetectionResult` is the result of a connector: the results of the criteria that were evaluated.
-/

namespace HardwareWatch

/-- How a criterion came out. -/
inductive Outcome
  | success | failure
  /-- The criterion could not be evaluated. -/
  | error
  deriving DecidableEq, Repr

/-- The name of an outcome. -/
def Outcome.name : Outcome → String
  | success => "Success"
  | failure => "Failure"
  | error => "Error"

/-- The result of a criterion. -/
structure CriterionResult where
  outcome : Outcome
  message : String
  /-- What the host answered, where that is known. -/
  answer : Option String
  deriving DecidableEq

namespace CriterionResult

/-- The criterion is met. -/
def success (message : String) : CriterionResult := ⟨.success, message, none⟩

/-- The criterion is not met. -/
def failure (message : String) : CriterionResult := ⟨.failure, message, none⟩

/-- The result of a criterion whose evaluation ended in an error. -/
def ofError (e : EngineError) : CriterionResult := ⟨.error, e.message, none⟩

/-- Whether the criterion is met. -/
def isSuccess (r : CriterionResult) : Bool := r.outcome == .success

end CriterionResult

/-- The result of the detection of a connector. -/
structure DetectionResult where
  connectorId : String
  results : List CriterionResult
  deriving DecidableEq

namespace DetectionResult

/-- Whether every criterion that was evaluated is met. -/
def isSuccess (r : DetectionResult) : Bool := r.results.all CriterionResult.isSuccess

/-- Whether a criterion could not be evaluated. -/
def hasErrors (r : DetectionResult) : Bool := r.results.any (·.outcome == .error)

/-- The messages of the criteria, one per line. -/
def message (r : DetectionResult) : String := Text.join "\n" (r.results.map (·.message))

end DetectionResult

end HardwareWatch
