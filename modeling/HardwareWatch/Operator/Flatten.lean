import HardwareWatch.Json.Printer
import HardwareWatch.Json.Reader
import HardwareWatch.Table.Basic
import HardwareWatch.Xml.Node

/-!
# Documents as rows

Flattening a JSON or an XML document: a path names the records, and a list of properties, divided
by semicolons, names the cells of a row. Empty names in a path do not count.

* `JsonRows.read?` gives a row for every record, which starts with the place it was found at; arrays
  on the way to a record and records in arrays are taken item by item.
* `XmlRows.read?` gives a row for every element that the path leads to.
* `flattenJson` and `flattenXml` are the operators. The document is the raw text of the table, or
  else the first cell.
-/

namespace HardwareWatch

/-- The names of a path. -/
def pathNames (path : String) : List String := (Text.splitAt '/' path).filter (· ≠ "")

/-- The properties of a list. -/
def propertyNames (properties : String) : List String :=
  ((Text.splitAt ';' properties).map Text.trim).filter (· ≠ "")

namespace JsonRows

mutual

/-- The records that a path leads to, each with its place. -/
def records (place : String) : List String → Json → List (String × Json)
  | path, .array items => recordsIn place path 0 items
  | [], v => [(if place = "" then "/" else place, v)]
  | name :: path, .object fields => recordsUnder place name path fields
  | _, _ => []

/-- The records in the items of an array from a number on. -/
def recordsIn (place : String) (path : List String) (number : Nat) :
    List Json → List (String × Json)
  | [] => []
  | v :: rest =>
    records (place ++ "[" ++ toString number ++ "]") path v
      ++ recordsIn place path (number + 1) rest

/-- The records in the first field with a name. -/
def recordsUnder (place name : String) (path : List String) :
    List (String × Json) → List (String × Json)
  | [] => []
  | (field, v) :: rest =>
    if field = name then records (place ++ "/" ++ name) path v
    else recordsUnder place name path rest

end

/-- The value that a path of names leads to through objects. -/
def at? : List String → Json → Option Json
  | [], v => some v
  | name :: path, .object fields => (Json.field? name fields).bind (at? path)
  | _, _ => none

/-- A value as a cell: a text is itself, all else is written. -/
def cell : Json → String
  | .null => ""
  | .text s => s
  | v => v.print

/-- The row of a record. -/
def row (properties : List String) (place : String) (record : Json) : Row :=
  place :: properties.map fun property => ((at? (pathNames property) record).map cell).getD ""

/-- The rows of a document. -/
def read? (document entryKey properties : String) : Option (List Row) :=
  (Json.readValue? document).map fun v =>
    (records "" (pathNames entryKey) v).map fun (place, record) =>
      row (propertyNames properties) place record

end JsonRows

namespace XmlRows

/-- The value of a property in an element: an attribute behind `>`, or else the characters. -/
def value (record : Xml.Node) (property : String) : String :=
  match Text.breakOn? ">" property with
  | some (path, name) =>
    ((record.at? (pathNames path)).bind (·.attribute? name)).getD ""
  | none => ((record.at? (pathNames property)).map fun n => Text.trim n.text).getD ""

/-- The rows of the elements that a path leads to. -/
def rowsOf (properties recordTag : String) (n : Xml.Node) : List Row :=
  (n.recordsAt (pathNames recordTag)).map fun record =>
    (propertyNames properties).map (value record)

/-- The rows of a document. -/
def read? (document properties recordTag : String) : Option (List Row) :=
  (Xml.Node.ofDocument? document).map (rowsOf properties recordTag)

end XmlRows

namespace Table

/-- The document in a table. -/
def document? (t : Table) : Option String :=
  match t.raw.filter fun s => !Text.isBlank s with
  | some raw => some raw
  | none => t.rows.head?.bind (·.head?)

end Table

/-- Flatten the JSON document in a table. -/
def flattenJson (entryKey : String) (properties separator : Option String) (t : Table) : Table :=
  match t.document?.bind (JsonRows.read? · entryKey (properties.getD "")) with
  | some rows => ⟨rows, some (Table.linesOf (separator.getD cellSeparator) rows)⟩
  | none => Table.empty

/-- Flatten the XML document in a table. -/
def flattenXml (recordTag properties : String) (t : Table) : Table :=
  match t.document?.bind (XmlRows.read? · properties recordTag) with
  | some rows => .ofRows rows
  | none => Table.empty

end HardwareWatch
