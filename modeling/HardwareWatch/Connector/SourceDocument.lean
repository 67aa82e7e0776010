import HardwareWatch.Connector.Source
import HardwareWatch.Json.Printer
import HardwareWatch.Operator.Document
import HardwareWatch.Table.Reference

/-!
# Sources in documents

A source is an object with the fields all sources have and those of its kind side by side. `copy`
has a second name, `reference`, that is read but never written.

* `Source.ofJson?` reads a source, `Source.toJson` writes it with every field.
* `Source.references` are the other sources that occur in the document of a source.
-/

namespace HardwareWatch

open Json FieldReader

namespace ResultContent

/-- The words for the parts of an answer. -/
def words : List (String × ResultContent) :=
  [("body", body), ("header", header), ("httpStatus", httpStatus), ("all", all)]

/-- The word for a part of an answer. -/
def word : ResultContent → String
  | body => "body"
  | header => "header"
  | httpStatus => "httpStatus"
  | all => "all"

end ResultContent

namespace EntryMerge

/-- The words for the merges without texts of their own. -/
def words : List (String × EntryMerge) :=
  [("list", list), ("jsonArray", jsonArray), ("jsonArrayExtended", jsonArrayExtended)]

/-- The texts around a custom merge. -/
def customFields : FieldReader EntryMerge := do
  let start ← required "concatStart" text?
  let finish ← required "concatEnd" text?
  return .custom start finish

/-- Read a merge. The texts around a custom one may only be listed where they are not a value by
themselves. -/
def ofJson? (standing : Standing) : Json → Option EntryMerge
  | .object [("custom", .array items)] =>
    if standing = .atHand then none else record? customFields (.array items)
  | .object [("custom", v)] => record? customFields v
  | v => Json.word? words (standing = .heldTwice) v

/-- The document of a merge. -/
def toJson : EntryMerge → Json
  | list => .text "list"
  | jsonArray => .text "jsonArray"
  | jsonArrayExtended => .text "jsonArrayExtended"
  | custom start finish =>
    .object [("custom", .object [("concatStart", .text start), ("concatEnd", .text finish)])]

end EntryMerge

namespace EntryLoop

/-- Read a loop. -/
def ofJson? (standing : Standing) : Json → Option EntryLoop := record? do
  let source ← required "source" text?
  let merge ← withDefault "concatMethod" .list (EntryMerge.ofJson? standing)
  return ⟨source, merge⟩

/-- The document of a loop. -/
def toJson (e : EntryLoop) : Json :=
  .object [("source", .text e.source), ("concatMethod", e.merge.toJson)]

end EntryLoop

namespace SourceKind

/-- The fields of a query. -/
def queryFields (make : QuerySource → SourceKind) : FieldReader SourceKind := do
  let query ← required "query" text?
  let nameSpace ← optional "namespace" text?
  return make ⟨query, nameSpace⟩

/-- The method of a web request where none is given. -/
def standardMethod : String := "GET"

/-- The fields of a kind by its word. -/
def fields : String → FieldReader SourceKind
  | "http" => do
    let method ← withDefault "method" standardMethod text?
    let url ← optional "url" text?
    let path ← optional "path" text?
    let header ← optional "header" text?
    let body ← optional "body" text?
    let content ← withDefault "resultContent" .body (Json.word? ResultContent.words true)
    return .http ⟨method, url, path, header, body, content⟩
  | "snmpGet" => do return .snmpGet (← required "oid" text?)
  | "snmpTable" => do
    let oid ← required "oid" text?
    let selectColumns ← required "selectColumns" text?
    return .snmpTable oid selectColumns
  | "wmi" => queryFields .wmi
  | "wbem" => queryFields .wbem
  | "commandLine" => do
    let commandLine ← required "commandLine" text?
    let executeLocally ← withDefault "executeLocally" false bool?
    let timeout ← optional "timeout" Json.word64?
    let exclude ← optional "exclude" text?
    let keep ← optional "keep" text?
    let beginAtLineNumber ← optional "beginAtLineNumber" Json.word64?
    let endAtLineNumber ← optional "endAtLineNumber" Json.word64?
    let separators ← optional "separators" text?
    let selectColumns ← optional "selectColumns" text?
    return .commandLine ⟨commandLine, executeLocally, timeout, exclude, keep, beginAtLineNumber,
      endAtLineNumber, separators, selectColumns⟩
  | "ipmi" => return .ipmi
  | "sql" => do return .sql (← required "query" text?)
  | "copy" | "reference" => do return .copy (← required "from" text?)
  | "static" => do return .static (← required "value" text?)
  | "tableUnion" => do return .tableUnion (← required "tables" (list? text?))
  | "tableJoin" => do
    let leftTable ← required "leftTable" text?
    let rightTable ← required "rightTable" text?
    let leftKeyColumn ← required "leftKeyColumn" Json.word64?
    let rightKeyColumn ← required "rightKeyColumn" Json.word64?
    let defaultRightLine ← optional "defaultRightLine" text?
    let keyType ← optional "keyType" text?
    return .tableJoin ⟨leftTable, rightTable, leftKeyColumn, rightKeyColumn, defaultRightLine,
      keyType⟩
  | _ => failure

/-- The fields of a query as they are written. -/
def queryContent (q : QuerySource) : List (String × Json) :=
  [("query", .text q.query), ("namespace", ofText? q.nameSpace)]

/-- The fields of the kind as they are written. -/
def content : SourceKind → List (String × Json)
  | http r =>
    [("method", .text r.method), ("url", ofText? r.url), ("path", ofText? r.path),
      ("header", ofText? r.header), ("body", ofText? r.body),
      ("resultContent", .text r.resultContent.word)]
  | snmpGet oid => [("oid", .text oid)]
  | snmpTable oid selectColumns => [("oid", .text oid), ("selectColumns", .text selectColumns)]
  | wmi q => queryContent q
  | wbem q => queryContent q
  | commandLine c =>
    [("commandLine", .text c.commandLine), ("executeLocally", .bool c.executeLocally),
      ("timeout", ofNat? c.timeout), ("exclude", ofText? c.exclude), ("keep", ofText? c.keep),
      ("beginAtLineNumber", ofNat? c.beginAtLineNumber),
      ("endAtLineNumber", ofNat? c.endAtLineNumber), ("separators", ofText? c.separators),
      ("selectColumns", ofText? c.selectColumns)]
  | ipmi => []
  | sql query => [("query", .text query)]
  | copy origin => [("from", .text origin)]
  | static value => [("value", .text value)]
  | tableUnion tables => [("tables", ofTexts tables)]
  | tableJoin j =>
    [("leftTable", .text j.leftTable), ("rightTable", .text j.rightTable),
      ("leftKeyColumn", ofNat j.leftKeyColumn), ("rightKeyColumn", ofNat j.rightKeyColumn),
      ("defaultRightLine", ofText? j.defaultRightLine), ("keyType", ofText? j.keyType)]

/-- The kinds in the order that their positions count in a document. -/
def names : List String := SourceType.all.map SourceType.word

end SourceKind

namespace Source

/-- The fields that all sources have. -/
def commonFields (standing : Standing) : FieldReader (SourceKind → Source) := do
  let key ← required "key" text?
  let forceSerialization ← withDefault "forceSerialization" false bool?
  let computes ← withDefault "computes" [] (list? (Operator.ofJson? standing.isHeld))
  let entries ← withDefault "executeForEachEntryOf" none (nullable? (EntryLoop.ofJson? standing))
  return fun kind => ⟨key, 0, forceSerialization, computes, entries, kind⟩

/-- The names of the fields that all sources have. -/
def commonNames : List String := ["key", "forceSerialization", "computes", "executeForEachEntryOf"]

/-- Read a source, the first of its job as far as the document says. -/
def ofJson? (standing : Standing) : Json → Option Source := object? fun fields => do
  let make ← Record.read? (commonFields standing) (.named fields)
  let rest ← heldBack? commonNames fields
  let (kind, record) ← taggedFields? SourceKind.names true rest
  (record.read? (SourceKind.fields kind)).map make

/-- The document of a source. -/
def toJson (s : Source) : Json :=
  .object ([("key", .text s.key), ("forceSerialization", .bool s.forceSerialization),
    ("computes", .array (s.computes.map Operator.toJson)),
    ("executeForEachEntryOf", ofOption EntryLoop.toJson s.entries),
    (tagName, .text s.type.word)] ++ s.kind.content)

/-- The keys of the other sources that the source refers to, in order of appearance. -/
def references (s : Source) : List String :=
  ((Reference.keysIn s.toJson.print).filter (· ≠ s.key)).eraseDups

/-- The references are found in the characters of the document. -/
theorem references_eq (s : Source) :
    s.references = (((Reference.keysFrom 0 s.toJson.printChars).map String.ofList).filter
      (· ≠ s.key)).eraseDups := by
  rw [references, Reference.keysIn, Json.print, String.toList_ofList]

end Source

end HardwareWatch
