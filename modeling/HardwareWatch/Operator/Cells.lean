import HardwareWatch.Operator.Context
import HardwareWatch.Table.Column
import HardwareWatch.Table.Reference

/-!
# Operators on the text of cells and the shape of rows

Cutting, joining and replacing the text of a cell, copying a column and selecting columns.

* `substringOf`, `extractField` and `pathPropertyOf` are the operations on one text.
* `concatValue?` is the value that is put at an end of a cell: a column, the first cell of another
  table, or a text with references to columns.
-/

namespace HardwareWatch

/-- The `length` characters of a text from the character with number `start` on, counted from one.
A start below one is one, and no length leaves nothing. -/
def substringOf (text : String) (start length : Int) : String :=
  .ofList ((text.toList.drop (start - 1).toNat).take length.toNat)

/-- A whole number with blanks around it. -/
def readBound? (s : String) : Option Int := Text.integer? (Text.trim s)

/-- Cut a piece out of the cells of a column. -/
def substringColumn (column : Nat) (start length : String) (t : Table) : Table :=
  let start := Operand.parse start
  let length := Operand.parse length
  t.mapColumn column fun position row cell =>
    match (start.resolve row).bind readBound?, (length.resolve row).bind readBound? with
    | some s, some n => row.set position (substringOf cell s n)
    | _, _ => row

/-- Insert a copy of a column behind it. -/
def duplicateColumn (column : Nat) (t : Table) : Table :=
  t.mapColumn column fun position row cell =>
    row.take position ++ cell :: row.drop position

/-- The value that is put at an end of a cell in a row. -/
def concatValue? (tables : Namespace) (row : Row) (value : String) : Option String :=
  match Reference.key? value with
  | some key => ((tables.get? key).bind (·.rows.head?)).bind (·.head?)
  | none =>
    match Operand.parse value with
    | .column n => Column.cell? row n
    | .literal text => some (Column.substitute row text)

/-- A text with a value at one of its ends. -/
def Side.attach (side : Side) (text value : String) : String :=
  match side with
  | .append => text ++ value
  | .prepend => value ++ text

/-- Put a value at an end of the cell with a position, or behind the last cell. -/
def attachValue (side : Side) (position : Nat) (value : String) (row : Row) : Row :=
  match row[position]? with
  | some cell => row.put position (side.attach cell value)
  | none =>
    if position = row.length then Row.put (row ++ [""]) position value else row

/-- Put a value at an end of the cells of a column. The column may be the one behind the last. -/
def concatColumn (tables : Namespace) (side : Side) (column : Nat) (value : String) (t : Table) :
    Table :=
  if column = 0 then t
  else t.mapRows fun row =>
    match concatValue? tables row value with
    | some v => attachValue side (column - 1) v row
    | none => row

/-- Replace every occurrence of a text in the cells of a column. -/
def replaceInColumn (column : Nat) (old new : String) (t : Table) : Table :=
  let old := Operand.parse old
  let new := Operand.parse new
  t.mapColumn column fun position row cell =>
    match old.resolve row, new.resolve row with
    | some a, some b => if a = "" then row else row.put position (Text.replaceAll a b cell)
    | _, _ => row

/-- The field of a text with a number, counted from one. Fields are cut at any of the separators,
and empty ones do not count. -/
def extractField (text : String) (field : Nat) (separators : String) : String :=
  let fields := (Text.splitBy (separators.toList.contains ·) text).filter (· ≠ "")
  fields[field - 1]?.getD ""

/-- Take a field out of the cells of a column. -/
def extractColumn (column field : Nat) (separators : String) (t : Table) : Table :=
  if field = 0 || separators = "" then t
  else t.mapColumn column fun position row cell =>
    row.set position (extractField cell field separators)

/-- The text without the quotes at its ends. -/
def unquoted (s : Chars) : Chars :=
  ((s.dropWhile (· == '\x22')).reverse.dropWhile (· == '\x22')).reverse

/-- The value of a property in an object path such as `root:Disk.Id="d0",System="srv"`. Names are
compared without regard to case, and the first one may have a class in front of it. -/
def pathPropertyOf (path property : String) : Option String :=
  let wanted := Chars.lowercase property.toList
  (Chars.splitBy (· == ',') path.toList).findSome? fun pair =>
    match Chars.breakOn? ['='] pair with
    | none => none
    | some (name, value) =>
      let name := Chars.lowercase (Chars.trim name)
      if name == wanted || (Chars.dropSuffix? ('.' :: wanted) name).isSome then
        some (.ofList (Chars.trim (unquoted (Chars.trim value))))
      else none

/-- Take a property out of the object paths in a column. -/
def pathPropertyColumn (column : Nat) (property : String) (t : Table) : Table :=
  if property = "" then t
  else t.mapColumn column fun position row cell =>
    match pathPropertyOf cell property with
    | some value => row.set position value
    | none => row

/-- The numbers of a comma-separated list of columns, in ascending order and each once. -/
def columnList? (columns : String) : Option (List Nat) :=
  ((Text.splitAt ',' columns).mapM fun n =>
    (Text.natural? word64 (Text.trim n)).filter (0 < ·)).map fun ns =>
      (ns.mergeSort (· ≤ ·)).eraseReps

/-- Keep the listed columns of the rows that have all of them. -/
def selectColumns (columns : String) (t : Table) : Table :=
  match columnList? columns with
  | none => t
  | some ns =>
    .ofRows ((t.rows.filter fun row => ns.all (· ≤ row.length)).map fun row =>
      ns.filterMap (Column.cell? row))

end HardwareWatch
