import HardwareWatch.Connector.Criterion
import HardwareWatch.Detect.Result
import HardwareWatch.Text.Numeral
import HardwareWatch.Text.Pieces

/-!
# Criteria the engine decides itself

A version is a row of numbers between points. Of a part only the leading digits count, and a part
that is no number of 64 bits is zero.

* `compareVersions` compares two versions part by part, missing parts being zero.
* `deviceTypeResult` asks what the host is.
* `productResult` asks for the version of the engine.
-/

namespace HardwareWatch

/-! ## Versions -/

/-- The number of a part of a version. -/
def versionPart (part : Chars) : Nat :=
  ((Chars.digits? ((Chars.trim part).takeWhile Chars.isDigit)).filter (· < word64)).getD 0

/-- The numbers of a version. -/
def versionParts (version : String) : List Nat :=
  (Chars.splitBy (· == '.') version.toList).map versionPart

/-- Compare two rows of numbers from the left, missing ones being zero. -/
def compareParts : List Nat → List Nat → Ordering
  | [], [] => .eq
  | a :: as, [] => if 0 < a then .gt else compareParts as []
  | [], b :: bs => if 0 < b then .lt else compareParts [] bs
  | a :: as, b :: bs => if a < b then .lt else if b < a then .gt else compareParts as bs

/-- Compare two versions. -/
def compareVersions (a b : String) : Ordering := compareParts (versionParts a) (versionParts b)

/-! ## Criteria -/

/-- Test the kind of the host: it must not be excluded, and it must be among those to keep, if there
are any. -/
def deviceTypeResult (keep exclude : List DeviceKind) (host : DeviceKind) : CriterionResult :=
  if exclude.contains host then .failure ("Host type " ++ host.name ++ " is excluded")
  else if keep ≠ [] ∧ !keep.contains host then
    .failure ("Host type " ++ host.name ++ " is not in ["
      ++ Text.join ", " (keep.map DeviceKind.name) ++ "]")
  else .success ("Host type " ++ host.name ++ " matches")

/-- Test the version of the engine, if one is required. -/
def productResult (required : Option String) (engineVersion : String) : CriterionResult :=
  match required.filter fun v => !Text.isBlank v with
  | none => .success "No engine version required"
  | some required =>
    if (compareVersions engineVersion required).isGE then
      .success ("Engine version " ++ engineVersion ++ " satisfies " ++ required)
    else
      .failure ("Engine version " ++ engineVersion ++ " is older than the required " ++ required)

end HardwareWatch
