import HardwareWatch.Connector.Source
import HardwareWatch.Table.Reference
import HardwareWatch.Text.Lowercase

/-!
# Tables made of other tables

A structural source needs no host: its table follows from the tables that are there already.

* `TableJoin.join` brings the rows of two tables with the same key together. It finds them by
  `TableJoin.index`, which keeps the rows of one key in their order.
* `SourceKind.derive` is the table of a structural source.
-/

namespace HardwareWatch

namespace TableJoin

/-- The word for the keys whose case does not count. -/
def caselessKeyType : String := "wbem"

/-- A key as it is compared. -/
def keyForm (j : TableJoin) (key : String) : String :=
  if j.keyType.any (Text.sameIgnoringCase · caselessKeyType) then Text.lowercase key else key

/-- The key of a row in the column with a number, as it is compared. -/
def key? (j : TableJoin) (column : Nat) (row : Row) : Option String :=
  row[column - 1]?.map j.keyForm

/-- The index with a row behind those of the same key. A row without a key is left out. -/
def indexRow (j : TableJoin) (index : NameMap (List Row)) (row : Row) : NameMap (List Row) :=
  match j.key? j.rightKeyColumn row with
  | some key => index.insert key ((index.get? key).getD [] ++ [row])
  | none => index

/-- The right rows by their keys. -/
def index (j : TableJoin) (right : List Row) : NameMap (List Row) :=
  right.foldl j.indexRow .empty

/-- The right rows with a key, or else the row that stands for a missing one. -/
def partners (j : TableJoin) (index : NameMap (List Row)) (key : String) : List Row :=
  match index.get? key with
  | some found => found
  | none => (j.defaultRightLine.map (Row.ofLine cellSeparator)).toList

/-- The rows that a left row becomes. A row without a key becomes none. -/
def joinRow (j : TableJoin) (index : NameMap (List Row)) (row : Row) : List Row :=
  match j.key? j.leftKeyColumn row with
  | some key => (j.partners index key).map (row ++ ·)
  | none => []

/-- Left rows with the right rows of the same key behind them. Columns count from one. -/
def join (j : TableJoin) (left right : Table) : Table :=
  if j.leftKeyColumn = 0 ∨ j.rightKeyColumn = 0 then .empty
  else
    let index := j.index right.rows
    .ofRows (left.rows.flatMap (j.joinRow index))

end TableJoin

/-- The table of a structural source. A table that is missing counts as empty, and a join needs
both of its tables. -/
def SourceKind.derive (ns : Namespace) : SourceKind → Table
  | copy origin => (Table.lookup origin ns).getD .empty
  | static value => (Table.lookup value ns).getD .empty
  | tableUnion tables => .union (tables.filterMap (Table.lookup · ns))
  | tableJoin j =>
    match Table.lookup j.leftTable ns, Table.lookup j.rightTable ns with
    | some left, some right => j.join left right
    | _, _ => .empty
  | _ => .empty

end HardwareWatch
