import HardwareWatch.Json.Shape
import HardwareWatch.Operator.Document
import HardwareWatch.Settings.Host

/-!
# Criteria

A criterion is one test of whether a connector fits a host. Two kinds are decided by the engine
itself: what the host is, and which version the engine has. All others ask the host by a protocol.

* `Criterion` is a criterion, `CriterionKind` what it tests.
* `CriterionType` is the kind without its details, by which extensions are chosen.
* `Criterion.ofJson?` reads a criterion, `Criterion.toJson` writes it with every field.
-/

namespace HardwareWatch

open Json FieldReader

/-- A web request whose answer is tested. -/
structure HttpCriterion where
  method : String
  url : Option String
  path : Option String
  header : Option String
  body : Option String
  expectedResult : Option String
  errorMessage : Option String
  deriving DecidableEq

/-- A value of a network device that is tested. -/
structure SnmpCriterion where
  oid : String
  expectedResult : Option String
  deriving DecidableEq

/-- A query to a management service whose answer is tested. -/
structure QueryCriterion where
  query : String
  nameSpace : Option String
  expectedResult : Option String
  errorMessage : Option String
  deriving DecidableEq

/-- A command whose output is tested. -/
structure CommandCriterion where
  commandLine : String
  executeLocally : Bool
  expectedResult : Option String
  errorMessage : Option String
  timeout : Option Nat
  deriving DecidableEq

/-- What a criterion tests. -/
inductive CriterionKind
  | http (request : HttpCriterion)
  | snmpGet (value : SnmpCriterion)
  | snmpGetNext (value : SnmpCriterion)
  | wmi (query : QueryCriterion)
  | wbem (query : QueryCriterion)
  | commandLine (command : CommandCriterion)
  | ipmi
  | sql (query : String) (expectedResult : Option String)
  /-- A process that has to run. -/
  | process (commandLine : String)
  /-- A service that has to run. -/
  | service (name : String)
  /-- Kinds of devices that fit, or that do not. -/
  | deviceType (keep exclude : List DeviceKind)
  /-- The least versions that fit. -/
  | productRequirements (engineVersion kbVersion : Option String)
  deriving DecidableEq

/-- A kind of criterion. -/
inductive CriterionType
  | http | snmpGet | snmpGetNext | wmi | wbem | commandLine | ipmi | sql
  | process | service | deviceType | productRequirements
  deriving DecidableEq, Repr

/-- A criterion of a connector. -/
structure Criterion where
  /-- The position among the criteria of the connector. -/
  position : Nat
  /-- Whether it may only run while no other such source or criterion runs on the host. -/
  forceSerialization : Bool
  kind : CriterionKind
  deriving DecidableEq

namespace CriterionType

/-- The word for a kind. -/
def word : CriterionType → String
  | http => "http"
  | snmpGet => "snmpGet"
  | snmpGetNext => "snmpGetNext"
  | wmi => "wmi"
  | wbem => "wbem"
  | commandLine => "commandLine"
  | ipmi => "ipmi"
  | sql => "sql"
  | process => "process"
  | service => "service"
  | deviceType => "deviceType"
  | productRequirements => "productRequirements"

/-- The name of a kind in messages. -/
def name : CriterionType → String
  | http => "Http"
  | snmpGet => "SnmpGet"
  | snmpGetNext => "SnmpGetNext"
  | wmi => "Wmi"
  | wbem => "Wbem"
  | commandLine => "CommandLine"
  | ipmi => "Ipmi"
  | sql => "Sql"
  | process => "Process"
  | service => "Service"
  | deviceType => "DeviceType"
  | productRequirements => "ProductRequirements"

/-- All kinds in their order. -/
def all : List CriterionType :=
  [http, snmpGet, snmpGetNext, wmi, wbem, commandLine, ipmi, sql, process, service, deviceType,
    productRequirements]

/-- The protocol by which the host is asked. -/
def protocol? : CriterionType → Option String
  | http => some "http"
  | snmpGet | snmpGetNext => some "snmp"
  | wmi => some "wmi"
  | wbem => some "wbem"
  | commandLine | process | service => some "ssh"
  | ipmi => some "ipmi"
  | sql => some "jdbc"
  | deviceType | productRequirements => none

end CriterionType

namespace CriterionKind

/-- The kind without its details. -/
def type : CriterionKind → CriterionType
  | http _ => .http
  | snmpGet _ => .snmpGet
  | snmpGetNext _ => .snmpGetNext
  | wmi _ => .wmi
  | wbem _ => .wbem
  | commandLine _ => .commandLine
  | ipmi => .ipmi
  | sql .. => .sql
  | process _ => .process
  | service _ => .service
  | deviceType .. => .deviceType
  | productRequirements .. => .productRequirements

/-! ## Documents -/

/-- The fields of a value of a network device. -/
def snmpFields (make : SnmpCriterion → CriterionKind) : FieldReader CriterionKind := do
  let oid ← required "oid" text?
  let expectedResult ← optional "expectedResult" text?
  return make ⟨oid, expectedResult⟩

/-- The fields of a query. -/
def queryFields (make : QueryCriterion → CriterionKind) : FieldReader CriterionKind := do
  let query ← required "query" text?
  let nameSpace ← optional "namespace" text?
  let expectedResult ← optional "expectedResult" text?
  let errorMessage ← optional "errorMessage" text?
  return make ⟨query, nameSpace, expectedResult, errorMessage⟩

/-- The fields of a kind by its word. -/
def fields : String → FieldReader CriterionKind
  | "http" => do
    let method ← withDefault "method" "GET" text?
    let url ← optional "url" text?
    let path ← optional "path" text?
    let header ← optional "header" text?
    let body ← optional "body" text?
    let expectedResult ← optional "expectedResult" text?
    let errorMessage ← optional "errorMessage" text?
    return .http ⟨method, url, path, header, body, expectedResult, errorMessage⟩
  | "snmpGet" => snmpFields .snmpGet
  | "snmpGetNext" => snmpFields .snmpGetNext
  | "wmi" => queryFields .wmi
  | "wbem" => queryFields .wbem
  | "commandLine" => do
    let commandLine ← required "commandLine" text?
    let executeLocally ← withDefault "executeLocally" false bool?
    let expectedResult ← optional "expectedResult" text?
    let errorMessage ← optional "errorMessage" text?
    let timeout ← optional "timeout" Json.word64?
    return .commandLine ⟨commandLine, executeLocally, expectedResult, errorMessage, timeout⟩
  | "ipmi" => return .ipmi
  | "sql" => do
    let query ← required "query" text?
    let expectedResult ← optional "expectedResult" text?
    return .sql query expectedResult
  | "process" => do return .process (← required "commandLine" text?)
  | "service" => do return .service (← required "name" text?)
  | "deviceType" => do
    let keep ← withDefault "keep" [] (list? (DeviceKind.ofJson? true))
    let exclude ← withDefault "exclude" [] (list? (DeviceKind.ofJson? true))
    return .deviceType keep exclude
  | "productRequirements" => do
    let engineVersion ← optional "engineVersion" text?
    let kbVersion ← optional "kbVersion" text?
    return .productRequirements engineVersion kbVersion
  | _ => failure

/-- The fields of a query as they are written. -/
def queryContent (q : QueryCriterion) : List (String × Json) :=
  [("query", .text q.query), ("namespace", ofText? q.nameSpace),
    ("expectedResult", ofText? q.expectedResult), ("errorMessage", ofText? q.errorMessage)]

/-- The fields of the kind as they are written. -/
def content : CriterionKind → List (String × Json)
  | http r =>
    [("method", .text r.method), ("url", ofText? r.url), ("path", ofText? r.path),
      ("header", ofText? r.header), ("body", ofText? r.body),
      ("expectedResult", ofText? r.expectedResult), ("errorMessage", ofText? r.errorMessage)]
  | snmpGet v => [("oid", .text v.oid), ("expectedResult", ofText? v.expectedResult)]
  | snmpGetNext v => [("oid", .text v.oid), ("expectedResult", ofText? v.expectedResult)]
  | wmi q => queryContent q
  | wbem q => queryContent q
  | commandLine c =>
    [("commandLine", .text c.commandLine), ("executeLocally", .bool c.executeLocally),
      ("expectedResult", ofText? c.expectedResult), ("errorMessage", ofText? c.errorMessage),
      ("timeout", ofNat? c.timeout)]
  | ipmi => []
  | sql query expectedResult =>
    [("query", .text query), ("expectedResult", ofText? expectedResult)]
  | process command => [("commandLine", .text command)]
  | service name => [("name", .text name)]
  | deviceType keep exclude =>
    [("keep", .array (keep.map DeviceKind.toJson)),
      ("exclude", .array (exclude.map DeviceKind.toJson))]
  | productRequirements engineVersion kbVersion =>
    [("engineVersion", ofText? engineVersion), ("kbVersion", ofText? kbVersion)]

/-- The kinds in the order that their positions count in a document. -/
def names : List String := CriterionType.all.map CriterionType.word

end CriterionKind

namespace Criterion

/-- The kind of the criterion. -/
def type (c : Criterion) : CriterionType := c.kind.type

/-- The protocol by which the host is asked. -/
def protocol? (c : Criterion) : Option String := c.type.protocol?

/-- Read a criterion, the first of its connector as far as the document says. -/
def ofJson? : Json → Option Criterion := object? fun fields => do
  let forced ← Record.read? (withDefault "forceSerialization" false bool?) (.named fields)
  let rest ← heldBack? ["forceSerialization"] fields
  let (kind, record) ← taggedFields? CriterionKind.names true rest
  (record.read? (CriterionKind.fields kind)).map fun kind => ⟨0, forced, kind⟩

/-- The document of a criterion. -/
def toJson (c : Criterion) : Json :=
  .object ([("forceSerialization", .bool c.forceSerialization), (tagName, .text c.type.word)]
    ++ c.kind.content)

end Criterion

end HardwareWatch
