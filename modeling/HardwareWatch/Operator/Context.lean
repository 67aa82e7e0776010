import HardwareWatch.Error
import HardwareWatch.Operator.Basic
import HardwareWatch.Text.Lowercase

/-!
# What operators may read

Besides the table it works on, an operator may read the translations of the connector, the tables
of the run and the outcome of external scripts.

* `Table.mapRows` applies a function to every row, which is what most operators do.
* `Row.put` writes a cell whose text may hold separators.
-/

namespace HardwareWatch

/-- Runs an external script on a text. -/
abbrev AwkExecutor := (script input : String) → Except EngineError String

/-- What an operator may read besides the table it works on. -/
structure OperatorContext where
  translations : NameMap Translation
  tables : Namespace
  awk : Option AwkExecutor

namespace OperatorContext

/-- The translation that is meant, its keys in lower case. A name the connector does not know means
none. -/
def translation? (ctx : OperatorContext) (ref : TranslationRef) : Option Translation :=
  let table := match ref with
    | .named name => ctx.translations.get? name
    | .inline table => some table
  table.map fun t => NameMap.ofList (t.toList.map fun (k, v) => (Text.lowercase k, v))

end OperatorContext

namespace Row

/-- The row with a text in place of the cell with a position. A text with separators becomes
several cells. -/
def put (row : Row) (position : Nat) (text : String) : Row :=
  if Text.hasInfix cellSeparator text then
    row.take position ++ Row.ofLine cellSeparator text ++ row.drop (position + 1)
  else row.set position text

end Row

namespace Table

/-- The table with every row replaced by its image, and without its raw text. -/
def mapRows (f : Row → Row) (t : Table) : Table := ofRows (t.rows.map f)

/-- Change the cell in a column of every row that has it, by a function of the row and the cell.
There is no column zero: the table stays as it is. -/
def mapColumn (column : Nat) (f : (position : Nat) → Row → String → Row) (t : Table) : Table :=
  if column = 0 then t
  else t.mapRows fun row =>
    match row[column - 1]? with
    | some cell => f (column - 1) row cell
    | none => row

end Table

end HardwareWatch
