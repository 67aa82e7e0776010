import HardwareWatch.Operator.Context
import HardwareWatch.Pattern.Marked
import HardwareWatch.Pattern.Reader

/-!
# Filters of rows

Keeping or dropping the rows that match a pattern or a list of values. Where both are given, a row
is kept if it matches both, and dropped if it matches either. A row without the column in question
matches nothing.

* `LineTest` is what the rows are tested for, `LineTest.admits` the rule for one row.
* `filterLines` is the operator.
-/

namespace HardwareWatch

/-- What rows are tested for: a pattern, a list of values in lower case, or both. -/
structure LineTest where
  pattern : Option Pattern
  values : Option (List String)

namespace LineTest

/-- The values of a comma-separated list, in lower case. -/
def valuesOf (list : String) : List String :=
  (Text.splitAt ',' list).map fun v => Text.lowercase (Text.trim v)

/-- The test that the texts of a filter describe, empty ones counting as missing. There is none if
both are missing or the pattern cannot be read. -/
def of? (pattern values : Option String) : Option LineTest :=
  let values := (values.filter (· ≠ "")).map valuesOf
  match pattern.filter (· ≠ "") with
  | some text => (Pattern.readIgnoringCase? text).map fun p => ⟨some p, values⟩
  | none => if values.isNone then none else some ⟨none, values⟩

/-- What each given part of the test says about a text. -/
def verdicts (test : LineTest) (subject : String) : List Bool :=
  (test.pattern.map (·.occursIn subject)).toList
    ++ (test.values.map (·.contains (Text.lowercase subject))).toList

/-- Whether a filter lets a row through whose subject, if it has one, is tested. -/
def admits (test : LineTest) (filter : LineFilter) (subject : Option String) : Bool :=
  match filter, subject with
  | .keepOnly, some s => (test.verdicts s).all id
  | .keepOnly, none => false
  | .exclude, some s => !(test.verdicts s).any id
  | .exclude, none => true

end LineTest

/-- The text of a row that a filter looks at: a cell, or the row as a whole. -/
def Row.subject? (row : Row) : (column : Option Nat) → Option String
  | some n => row[n - 1]?
  | none => some (Text.join cellSeparator row)

/-- Filter the rows of a table. Without a test, and on column zero, the table stays as it is. -/
def filterLines (filter : LineFilter) (column : Option Nat) (pattern values : Option String)
    (t : Table) : Table :=
  match LineTest.of? pattern values with
  | none => t
  | some test =>
    if column = some 0 then t
    else .ofRows (t.rows.filter fun row => test.admits filter (row.subject? column))

end HardwareWatch
