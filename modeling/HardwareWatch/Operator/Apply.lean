import HardwareWatch.Operator.Awk
import HardwareWatch.Operator.Cells
import HardwareWatch.Operator.Flatten
import HardwareWatch.Operator.Lines
import HardwareWatch.Operator.Translation

/-!
# Applying operators

* `Operator.apply` is the table that an operator makes of a table.
* `Operator.applyAll` applies a chain of operators in order.
-/

namespace HardwareWatch.Operator

/-- What divides the elements of a cell where nothing else is given. -/
def elementSeparator : String := "|"

/-- The table that the operator makes. -/
def apply (ctx : OperatorContext) : Operator → Table → Table
  | arithmetic op column operand, t => op.onColumn column operand t
  | bitwise op column operand, t => op.onColumn column operand t
  | substring column start length, t => substringColumn column start length t
  | translate column table, t => translateColumn ctx column table t
  | arrayTranslate column table separator joiner, t =>
    translateArrayColumn ctx column table (separator.getD elementSeparator)
      (joiner.getD elementSeparator) t
  | lines filter column pattern values, t => filterLines filter column pattern values t
  | duplicateColumn column, t => HardwareWatch.duplicateColumn column t
  | concat side column value, t => concatColumn ctx.tables side column value t
  | replace column old new, t => replaceInColumn column old new t
  | extract column field separators, t => extractColumn column field separators t
  | pathProperty column property, t => pathPropertyColumn column property t
  | keepColumns columns, t => selectColumns columns t
  | convert column conversion, t => convertColumn column conversion t
  | perBitTranslation column bits table, t => translateBitsColumn ctx column bits table t
  | fromJson entryKey properties separator, t => flattenJson entryKey properties separator t
  | fromXml recordTag properties, t => flattenXml recordTag properties t
  | awk call, t => runAwk ctx.awk call t

/-- The table after a chain of operators. -/
def applyAll (ctx : OperatorContext) (operators : List Operator) (t : Table) : Table :=
  operators.foldl (fun t op => op.apply ctx t) t

end HardwareWatch.Operator
