import HardwareWatch.Json.Shape
import HardwareWatch.Operator.Basic

/-!
# Operators in documents

An operator is a tagged record. `subtract`, `append` and `prepend` have a second name each that is
read but never written.

* `Operator.ofJson?` reads an operator, `Operator.toJson` writes it with its fields in their order.
-/

namespace HardwareWatch

open Json FieldReader

/-- The number of a column, or another number that fits in a 64-bit word. -/
def Json.word64? : Json → Option Nat := Json.nat? word64

namespace TranslationRef

/-- A name is a text, a translation written out is an object of texts. -/
def ofJson? (v : Json) : Option TranslationRef :=
  ((Json.text? v).map .named).orElse fun _ => (Json.map? Json.text? v).map .inline

/-- The document of a reference. -/
def toJson : TranslationRef → Json
  | named name => .text name
  | inline table => Json.ofMap .text table

end TranslationRef

namespace Conversion

/-- The words for the conversions. -/
def words : List (String × Conversion) :=
  [("hex2Dec", hexToDecimal), ("array2SimpleStatus", worstState)]

/-- The word for a conversion. -/
def word : Conversion → String
  | hexToDecimal => "hex2Dec"
  | worstState => "array2SimpleStatus"

end Conversion

namespace Operator

/-- The fields of an operator on a column with a value. -/
def columnValue (make : Nat → String → Operator) : FieldReader Operator := do
  let column ← required "column" Json.word64?
  let value ← required "value" Json.text?
  return make column value

/-- The fields of a filter. -/
def lineFields (filter : LineFilter) : FieldReader Operator := do
  let column ← optional "column" Json.word64?
  let pattern ← optional "regExp" Json.text?
  let values ← optional "valueList" Json.text?
  return .lines filter column pattern values

/-- The fields of an operator by its name. -/
def fields : String → FieldReader Operator
  | "add" => columnValue (.arithmetic .add)
  | "subtract" | "substract" => columnValue (.arithmetic .subtract)
  | "multiply" => columnValue (.arithmetic .multiply)
  | "divide" => columnValue (.arithmetic .divide)
  | "and" => columnValue (.bitwise .and)
  | "or" => columnValue (.bitwise .or)
  | "substring" => do
    let column ← required "column" Json.word64?
    let start ← required "start" Json.text?
    let length ← required "length" Json.text?
    return .substring column start length
  | "translate" => do
    let column ← required "column" Json.word64?
    let table ← required "translationTable" TranslationRef.ofJson?
    return .translate column table
  | "arrayTranslate" => do
    let column ← required "column" Json.word64?
    let table ← required "translationTable" TranslationRef.ofJson?
    let separator ← optional "arraySeparator" Json.text?
    let joiner ← optional "resultSeparator" Json.text?
    return .arrayTranslate column table separator joiner
  | "keepOnlyMatchingLines" => lineFields .keepOnly
  | "excludeMatchingLines" => lineFields .exclude
  | "duplicateColumn" => do return .duplicateColumn (← required "column" Json.word64?)
  | "append" | "rightConcat" => columnValue (.concat .append)
  | "prepend" | "leftConcat" => columnValue (.concat .prepend)
  | "replace" => do
    let column ← required "column" Json.word64?
    let old ← required "existingValue" Json.text?
    let new ← required "newValue" Json.text?
    return .replace column old new
  | "extract" => do
    let column ← required "column" Json.word64?
    let field ← required "subColumn" Json.word64?
    let separators ← required "subSeparators" Json.text?
    return .extract column field separators
  | "extractPropertyFromWbemPath" => do
    let column ← required "column" Json.word64?
    let property ← required "property" Json.text?
    return .pathProperty column property
  | "keepColumns" => do return .keepColumns (← required "columnNumbers" Json.text?)
  | "convert" => do
    let column ← required "column" Json.word64?
    let conversion ← required "conversion" (Json.word? Conversion.words true)
    return .convert column conversion
  | "perBitTranslation" => do
    let column ← required "column" Json.word64?
    let bits ← required "bitList" Json.text?
    let table ← required "translationTable" TranslationRef.ofJson?
    return .perBitTranslation column bits table
  | "json2Csv" => do
    let entryKey ← required "entryKey" Json.text?
    let properties ← optional "properties" Json.text?
    let separator ← optional "separator" Json.text?
    return .fromJson entryKey properties separator
  | "xml2Csv" => do
    let recordTag ← required "recordTag" Json.text?
    let properties ← required "properties" Json.text?
    return .fromXml recordTag properties
  | "awk" => do
    let script ← required "script" Json.text?
    let exclude ← optional "exclude" Json.text?
    let keep ← optional "keep" Json.text?
    let separators ← optional "separators" Json.text?
    let selectColumns ← optional "selectColumns" Json.text?
    return .awk ⟨script, exclude, keep, separators, selectColumns⟩
  | _ => failure

/-- Read an operator; `held` says that it stands in a part that is held back. -/
def ofJson? (held : Bool) (v : Json) : Option Operator :=
  (Json.tagged? names held v).bind fun (kind, record) => record.read? (fields kind)

/-- The fields of an operator after its name. -/
def content : Operator → List (String × Json)
  | arithmetic _ column operand => [("column", .ofNat column), ("value", .text operand)]
  | bitwise _ column operand => [("column", .ofNat column), ("value", .text operand)]
  | substring column start length =>
    [("column", .ofNat column), ("start", .text start), ("length", .text length)]
  | translate column table => [("column", .ofNat column), ("translationTable", table.toJson)]
  | arrayTranslate column table separator joiner =>
    [("column", .ofNat column), ("translationTable", table.toJson),
      ("arraySeparator", Json.ofText? separator), ("resultSeparator", Json.ofText? joiner)]
  | lines _ column pattern values =>
    [("column", Json.ofNat? column), ("regExp", Json.ofText? pattern),
      ("valueList", Json.ofText? values)]
  | duplicateColumn column => [("column", .ofNat column)]
  | concat _ column value => [("column", .ofNat column), ("value", .text value)]
  | replace column old new =>
    [("column", .ofNat column), ("existingValue", .text old), ("newValue", .text new)]
  | extract column field separators =>
    [("column", .ofNat column), ("subColumn", .ofNat field), ("subSeparators", .text separators)]
  | pathProperty column property => [("column", .ofNat column), ("property", .text property)]
  | keepColumns columns => [("columnNumbers", .text columns)]
  | convert column conversion =>
    [("column", .ofNat column), ("conversion", .text conversion.word)]
  | perBitTranslation column bits table =>
    [("column", .ofNat column), ("bitList", .text bits), ("translationTable", table.toJson)]
  | fromJson entryKey properties separator =>
    [("entryKey", .text entryKey), ("properties", Json.ofText? properties),
      ("separator", Json.ofText? separator)]
  | fromXml recordTag properties =>
    [("recordTag", .text recordTag), ("properties", .text properties)]
  | awk call =>
    [("script", .text call.script), ("exclude", Json.ofText? call.exclude),
      ("keep", Json.ofText? call.keep), ("separators", Json.ofText? call.separators),
      ("selectColumns", Json.ofText? call.selectColumns)]

/-- The document of an operator. -/
def toJson (op : Operator) : Json := .object ((Json.tagName, .text op.name) :: op.content)

end Operator

end HardwareWatch
