import HardwareWatch.Operator.Context
import HardwareWatch.Pattern.Marked
import HardwareWatch.Pattern.Reader

/-!
# External scripts

A script gets the text of the table and gives a text, which is read line by line: empty lines are
passed over, lines are kept and dropped by patterns, cut into cells, and the cells selected. A
pattern that cannot be read counts as missing, and so does a selection.

* `AwkCall.rowsOf` reads the output of a script.
* `runAwk` is the operator. A script that fails or has nothing to say leaves an empty table.
-/

namespace HardwareWatch

namespace AwkCall

/-- The numbers that a part of a selection stands for: one number, or all from one to another. -/
def selectionPart? (part : String) : Option (List Nat) :=
  match Text.breakOn? "-" part with
  | some (first, last) => do
    let first ← (Text.natural? word64 (Text.trim first)).filter (0 < ·)
    let last ← (Text.natural? word64 (Text.trim last)).filter (first ≤ ·)
    some (List.range' first (last + 1 - first))
  | none => ((Text.natural? word64 part).filter (0 < ·)).map ([·])

/-- The numbers of a selection such as `1,3,5-7`. -/
def selection? (text : String) : Option (List Nat) :=
  ((((Text.splitAt ',' text).map Text.trim).filter (· ≠ "")).mapM selectionPart?).map List.flatten

/-- The pattern of a text, where there is one. -/
def pattern? (text : Option String) : Option Pattern :=
  (text.filter (· ≠ "")).bind Pattern.readIgnoringCase?

/-- The cells of a line. -/
def cells (call : AwkCall) (line : String) : Row :=
  match call.separators.filter (· ≠ "") with
  | some separators => Text.splitBy (separators.toList.contains ·) line
  | none => Row.ofLine cellSeparator line

/-- The selected cells, missing ones empty. -/
def select (call : AwkCall) (row : Row) : Row :=
  match (call.selectColumns.bind selection?).filter (· ≠ []) with
  | some columns => columns.map fun n => row[n - 1]?.getD ""
  | none => row

/-- The rows of the output of a script. -/
def rowsOf (call : AwkCall) (output : String) : List Row :=
  let keep := pattern? call.keep
  let exclude := pattern? call.exclude
  let admitted (line : String) : Bool :=
    line != "" && (keep.map (·.occursIn line)).getD true
      && !(exclude.map (·.occursIn line)).getD false
  ((Text.lines output).filter admitted).map fun line => call.select (call.cells line)

end AwkCall

/-- Run a script on a table. -/
def runAwk (executor : Option AwkExecutor) (call : AwkCall) (t : Table) : Table :=
  match executor with
  | none => Table.empty
  | some run =>
    match run call.script t.text with
    | .ok output =>
      if Text.isBlank output then Table.empty else ⟨call.rowsOf output, some output⟩
    | .error _ => Table.empty

end HardwareWatch
