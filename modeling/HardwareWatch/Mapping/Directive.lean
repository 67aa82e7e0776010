import HardwareWatch.Connector.Basic
import HardwareWatch.Decimal.Text
import HardwareWatch.Table.Column
import HardwareWatch.Telemetry.Resource

/-!
# Directives of mappings

A directive says how a value is got from a row: a single column, a text with references to columns
and to the number of the row, or a function of such values.

* `Directive.call?` takes a function apart.
* `RowReader.value?` is the value without functions, `RowReader.plain?` the value with those that
  give a text, `RowReader.metric?` the value of a metric, which may also be a rate or a counter.
* `InterpretedRow` is a row with all directives of a mapping carried out.
-/

namespace HardwareWatch

/-- The value of a metric: as it is, or as what a rate or a counter follows from. -/
inductive MetricValue
  | plain (text : String)
  | rate (text : String)
  | counter (text : String)
  deriving DecidableEq

/-- The reference to the number of the row. -/
def indexReference : String := "$index"

/-- A function with its arguments. -/
structure FunctionCall where
  name : String
  arguments : List String
  deriving DecidableEq

namespace FunctionCall

/-- Read a function: a name of ASCII letters and digits, and arguments in parentheses. -/
def parse? (directive : String) : Option FunctionCall := do
  let (name, rest) ← Chars.breakOn? ['('] (Chars.trim directive.toList)
  let inner ← Chars.dropSuffix? [')'] rest
  if name = [] ∨ name.any (!Char.isAlphanum ·) then none
  else
    some ⟨.ofList name, (Chars.splitBy (· == ',') inner).map fun a => .ofList (Chars.trim a)⟩

end FunctionCall

/-- A row with its number, and the resource its values are for. -/
structure RowReader where
  row : Row
  number : Nat
  resource : Resource

namespace RowReader

/-- The value of a column, or of a text with references. -/
def value? (r : RowReader) (directive : String) : Option String :=
  match Column.parse? directive with
  | some n => Column.cell? r.row n
  | none =>
    some (Column.substitute r.row (Text.replaceAll indexReference (toString r.number) directive))

/-- The value of the first argument of a function. -/
def firstValue? (r : RowReader) (call : FunctionCall) : Option String :=
  call.arguments.head?.bind r.value?

/-- A number, converted. -/
def converted? (value : Option String) (f : Float → Float) : Option String :=
  (value.bind Text.number?).map fun x => Decimal.plain (f x)

/-- One for `true` and `1`, zero for all else. -/
def truth (value : String) : String :=
  let v := Text.trim value
  if Text.sameIgnoringCase v "true" || v == "1" then "1" else "0"

/-- An attribute of the first monitor of a type with a given value of another attribute. -/
def lookup? (r : RowReader) : List String → Option String
  | [type, name, keyName, keyValue] => do
    let wanted ← r.value? keyValue
    let m ← (r.resource.monitorsOf type).values.find? fun m =>
      m.attributes.get? keyName = some wanted
    m.attributes.get? name
  | _ => none

/-- The value of a directive. A text that looks like a function that is not known is a text. -/
def plain? (r : RowReader) (directive : String) : Option String :=
  match FunctionCall.parse? directive with
  | none => r.value? directive
  | some call =>
    let first := r.firstValue? call
    match call.name with
    | "percent2Ratio" => converted? first (· / 100)
    | "megaHertz2Hertz" => converted? first (· * 1000000)
    | "mebiByte2Byte" => converted? first (· * 1048576)
    | "milliVolt2Volt" => converted? first (· / 1000)
    | "megaBit2Bit" => converted? first (· * 1000000)
    | "boolean" => first.map truth
    | "lookup" => r.lookup? call.arguments
    | _ => r.value? directive

/-- The value of the directive of a metric. -/
def metric? (r : RowReader) (directive : String) : Option MetricValue :=
  match FunctionCall.parse? directive with
  | some ⟨"rate", arguments⟩ => (arguments.head?.bind r.value?).map .rate
  | some ⟨"fakeCounter", arguments⟩ => (arguments.head?.bind r.value?).map .counter
  | _ => (r.plain? directive).map .plain

end RowReader

/-- A row with all directives of a mapping carried out. -/
structure InterpretedRow where
  attributes : NameMap String
  metrics : NameMap MetricValue
  legacyTextParameters : NameMap String

namespace Mapping

/-- The entries of a map of directives that have a value. -/
def valuesOf {α : Type} (read : String → Option α) (directives : NameMap String) : NameMap α :=
  .ofList (directives.toList.filterMap fun (name, directive) =>
    (read directive).map fun value => (name, value))

/-- Carry out all directives for a row. -/
def interpret (m : Mapping) (r : RowReader) : InterpretedRow :=
  ⟨valuesOf r.plain? m.attributes, valuesOf r.metric? m.metrics,
    valuesOf r.plain? m.legacyTextParameters⟩

end Mapping

end HardwareWatch
