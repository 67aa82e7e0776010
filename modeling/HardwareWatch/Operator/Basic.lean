import HardwareWatch.Table.Basic

/-!
# Operators

An operator makes a table from a table. Columns are counted from one; a reference past the end of a
row, or a cell that cannot be read as the operator needs it, leaves the row as it was.

* `Operator` is the closed list of operators, as a connector declares them.
* `Operator.name` is the name an operator has in a document.
-/

namespace HardwareWatch

/-- A named list of translated values, by the value that is translated. -/
abbrev Translation := NameMap String

/-- A translation given by its name in the connector, or written out. -/
inductive TranslationRef
  | named (name : String)
  | inline (table : Translation)
  deriving DecidableEq

/-- The arithmetic operations. -/
inductive Arithmetic
  | add | subtract | multiply | divide
  deriving DecidableEq, Repr

/-- The operations on bits. -/
inductive Bitwise
  | and | or
  deriving DecidableEq, Repr

/-- What a filter does with the rows that match. -/
inductive LineFilter
  | keepOnly | exclude
  deriving DecidableEq, Repr

/-- The end of a cell at which a value is put. -/
inductive Side
  | append | prepend
  deriving DecidableEq, Repr

/-- The conversions of a cell. -/
inductive Conversion
  /-- A hexadecimal number to a decimal one. -/
  | hexToDecimal
  /-- A list of states to the worst of them. -/
  | worstState
  deriving DecidableEq, Repr

/-- What an external script is given and how its output is read. -/
structure AwkCall where
  script : String
  exclude : Option String
  keep : Option String
  separators : Option String
  selectColumns : Option String
  deriving DecidableEq

/-- An operator of a connector. -/
inductive Operator
  /-- Calculate with a number, or with the number in a column. -/
  | arithmetic (op : Arithmetic) (column : Nat) (operand : String)
  /-- Combine the bits of whole numbers. -/
  | bitwise (op : Bitwise) (column : Nat) (operand : String)
  /-- Cut out `length` characters from the character with number `start`. -/
  | substring (column : Nat) (start length : String)
  /-- Replace a cell by its translation. -/
  | translate (column : Nat) (table : TranslationRef)
  /-- Translate the elements of a cell. -/
  | arrayTranslate (column : Nat) (table : TranslationRef) (separator joiner : Option String)
  /-- Keep or drop the rows that match a pattern or a list of values. -/
  | lines (filter : LineFilter) (column : Option Nat) (pattern values : Option String)
  /-- Insert a copy of a column behind it. -/
  | duplicateColumn (column : Nat)
  /-- Put a value at an end of a cell. -/
  | concat (side : Side) (column : Nat) (value : String)
  /-- Replace every occurrence of a text in a cell. -/
  | replace (column : Nat) (old new : String)
  /-- Take the field of a cell with a number, fields being cut at any of the separators. -/
  | extract (column field : Nat) (separators : String)
  /-- Take a property out of an object path. -/
  | pathProperty (column : Nat) (property : String)
  /-- Keep the listed columns, in ascending order. -/
  | keepColumns (columns : String)
  /-- Convert a cell. -/
  | convert (column : Nat) (conversion : Conversion)
  /-- Replace a number by the translations of its bits. -/
  | perBitTranslation (column : Nat) (bits : String) (table : TranslationRef)
  /-- Flatten a JSON document into rows. -/
  | fromJson (entryKey : String) (properties separator : Option String)
  /-- Flatten an XML document into rows. -/
  | fromXml (recordTag properties : String)
  /-- Run an external script. -/
  | awk (call : AwkCall)
  deriving DecidableEq

namespace Operator

/-- The name of the operator in a document. -/
def name : Operator → String
  | arithmetic .add .. => "add"
  | arithmetic .subtract .. => "subtract"
  | arithmetic .multiply .. => "multiply"
  | arithmetic .divide .. => "divide"
  | bitwise .and .. => "and"
  | bitwise .or .. => "or"
  | substring .. => "substring"
  | translate .. => "translate"
  | arrayTranslate .. => "arrayTranslate"
  | lines .keepOnly .. => "keepOnlyMatchingLines"
  | lines .exclude .. => "excludeMatchingLines"
  | duplicateColumn .. => "duplicateColumn"
  | concat .append .. => "append"
  | concat .prepend .. => "prepend"
  | replace .. => "replace"
  | extract .. => "extract"
  | pathProperty .. => "extractPropertyFromWbemPath"
  | keepColumns .. => "keepColumns"
  | convert .. => "convert"
  | perBitTranslation .. => "perBitTranslation"
  | fromJson .. => "json2Csv"
  | fromXml .. => "xml2Csv"
  | awk .. => "awk"

/-- The names of the operators, in the order that their positions count in a document. -/
def names : List String :=
  ["add", "subtract", "multiply", "divide", "and", "or", "substring", "translate",
    "arrayTranslate", "keepOnlyMatchingLines", "excludeMatchingLines", "duplicateColumn", "append",
    "prepend", "replace", "extract", "extractPropertyFromWbemPath", "keepColumns", "convert",
    "perBitTranslation", "json2Csv", "xml2Csv", "awk"]

end Operator

end HardwareWatch
