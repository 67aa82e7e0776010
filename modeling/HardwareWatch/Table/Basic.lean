import HardwareWatch.NameMap
import HardwareWatch.Text.Pieces

/-!
# Tables

The values that flow from sources through operators to mappings: rows of text cells, possibly with
the raw text they were read from. A table without rows and without raw text is *empty*, which is
how a source says that it has no result.

* `Table.ofCsv` reads separated lines and keeps the text as raw text; `Table.toCsv` writes every
  cell with the separator after it.
* `Table.text` is the text that a reader of the whole table gets.
* `Namespace` is the tables of a run by source key.
-/

namespace HardwareWatch

/-- The cells of one line. -/
abbrev Row := List String

/-- Rows of cells, and the raw text they come from. -/
structure Table where
  rows : List Row
  raw : Option String
  deriving DecidableEq, Repr

/-- Tables by the key of the source that produced them. -/
abbrev Namespace := NameMap Table

/-- The separator of cells where none is given. -/
def cellSeparator : String := ";"

namespace Row

/-- A line as cells. One separator at its end adds no cell, and without a separator the line is one
cell. -/
def ofLine (separator line : String) : Row :=
  if separator = "" then [line]
  else Text.splitOn separator ((Text.dropSuffix? separator line).getD line)

/-- The cells with the separator after each. -/
def toLine (separator : String) (row : Row) : String := String.join (row.map (· ++ separator))

end Row

namespace Table

/-- The table of a source without a result. -/
def empty : Table := ⟨[], none⟩

instance : Inhabited Table := ⟨empty⟩

/-- A table of rows alone. Operators make such tables, since a raw text no longer agrees with rows
that were changed. -/
def ofRows (rows : List Row) : Table := ⟨rows, none⟩

/-- A table of raw text alone. -/
def ofRaw (raw : String) : Table := ⟨[], some raw⟩

/-- The raw text where it is not the empty text. -/
def rawText? (t : Table) : Option String := t.raw.filter (· ≠ "")

/-- Whether the table has neither rows nor raw text. -/
def isEmpty (t : Table) : Bool := t.rows.isEmpty && t.rawText?.isNone

/-- The rows as lines, without a line feed at the end. -/
def linesOf (separator : String) (rows : List Row) : String :=
  Text.join "\n" (rows.map (Row.toLine separator))

/-- The rows as separated lines. -/
def toCsv (separator : String) (t : Table) : String := linesOf separator t.rows

/-- The raw text, or else the rows as lines. -/
def text (t : Table) : String := t.rawText?.getD (t.toCsv cellSeparator)

/-- The rows of separated lines. Blank lines are passed over. -/
def rowsOf (separator text : String) : List Row :=
  ((Text.lines text).filter fun line => !Text.isBlank line).map (Row.ofLine separator)

/-- Read separated lines. -/
def ofCsv (separator text : String) : Table := ⟨rowsOf separator text, some text⟩

/-- The tables one below the other, the raw texts that are not empty joined by line feeds. -/
def union (tables : List Table) : Table :=
  let raws := tables.filterMap rawText?
  ⟨tables.flatMap rows, if raws = [] then none else some (Text.join "\n" raws)⟩

end Table

end HardwareWatch
