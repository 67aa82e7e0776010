import HardwareWatch.Operator.Basic

/-!
# Sources

A source is one step of getting data: where the data comes from and the operators that are applied
to it. *Structural* sources make a table of other tables, all others ask a host by a protocol.

* `Source` is a source, `SourceKind` where its data comes from.
* `SourceType` is the kind without its details, by which extensions are chosen.
* `EntryLoop` says that a source is run for every row of another table.
-/

namespace HardwareWatch

/-- What is kept of the answer to a web request. -/
inductive ResultContent
  | body | header | httpStatus | all
  deriving DecidableEq, Repr

/-- A web request. -/
structure HttpSource where
  method : String
  url : Option String
  path : Option String
  header : Option String
  body : Option String
  resultContent : ResultContent
  deriving DecidableEq

/-- A query to a management service. -/
structure QuerySource where
  query : String
  nameSpace : Option String
  deriving DecidableEq

/-- A command, and how its output is read. -/
structure CommandSource where
  commandLine : String
  executeLocally : Bool
  timeout : Option Nat
  exclude : Option String
  keep : Option String
  beginAtLineNumber : Option Nat
  endAtLineNumber : Option Nat
  separators : Option String
  selectColumns : Option String
  deriving DecidableEq

/-- How the rows of two tables are brought together. -/
structure TableJoin where
  leftTable : String
  rightTable : String
  leftKeyColumn : Nat
  rightKeyColumn : Nat
  /-- The line that stands for the right row where there is none. -/
  defaultRightLine : Option String
  keyType : Option String
  deriving DecidableEq

/-- Where the data of a source comes from. -/
inductive SourceKind
  | http (request : HttpSource)
  | snmpGet (oid : String)
  | snmpTable (oid selectColumns : String)
  | wmi (query : QuerySource)
  | wbem (query : QuerySource)
  | commandLine (command : CommandSource)
  | ipmi
  | sql (query : String)
  /-- The table of another source. -/
  | copy (origin : String)
  /-- A text. -/
  | static (value : String)
  /-- Tables one below the other. -/
  | tableUnion (tables : List String)
  /-- Tables side by side. -/
  | tableJoin (join : TableJoin)
  deriving DecidableEq

/-- A kind of source. -/
inductive SourceType
  | http | snmpGet | snmpTable | wmi | wbem | commandLine | ipmi | sql
  | copy | static | tableUnion | tableJoin
  deriving DecidableEq, Repr

/-- How the results for single rows are merged. -/
inductive EntryMerge
  /-- One table below the other. -/
  | list
  /-- The raw texts as the items of a JSON array. -/
  | jsonArray
  /-- Objects of the row and the raw text as the items of a JSON array. -/
  | jsonArrayExtended
  /-- The raw texts between a start and an end. -/
  | custom (start finish : String)
  deriving DecidableEq

/-- Runs a source for every row of a table. -/
structure EntryLoop where
  source : String
  merge : EntryMerge
  deriving DecidableEq

/-- A source of a connector. -/
structure Source where
  /-- The name by which other sources and mappings refer to the table. -/
  key : String
  /-- The position among the sources of a job. -/
  position : Nat
  /-- Whether it may only run while no other such source or criterion runs on the host. -/
  forceSerialization : Bool
  computes : List Operator
  entries : Option EntryLoop
  kind : SourceKind
  deriving DecidableEq

namespace SourceType

/-- The word for a kind. -/
def word : SourceType → String
  | http => "http"
  | snmpGet => "snmpGet"
  | snmpTable => "snmpTable"
  | wmi => "wmi"
  | wbem => "wbem"
  | commandLine => "commandLine"
  | ipmi => "ipmi"
  | sql => "sql"
  | copy => "copy"
  | static => "static"
  | tableUnion => "tableUnion"
  | tableJoin => "tableJoin"

/-- The name of a kind in messages. -/
def name : SourceType → String
  | http => "Http"
  | snmpGet => "SnmpGet"
  | snmpTable => "SnmpTable"
  | wmi => "Wmi"
  | wbem => "Wbem"
  | commandLine => "CommandLine"
  | ipmi => "Ipmi"
  | sql => "Sql"
  | copy => "Copy"
  | static => "Static"
  | tableUnion => "TableUnion"
  | tableJoin => "TableJoin"

/-- All kinds in their order. -/
def all : List SourceType :=
  [http, snmpGet, snmpTable, wmi, wbem, commandLine, ipmi, sql, copy, static, tableUnion,
    tableJoin]

/-- Whether the source makes a table of other tables. -/
def isStructural : SourceType → Bool
  | copy | static | tableUnion | tableJoin => true
  | _ => false

/-- The protocol by which the host is asked. -/
def protocol? : SourceType → Option String
  | http => some "http"
  | snmpGet | snmpTable => some "snmp"
  | wmi => some "wmi"
  | wbem => some "wbem"
  | commandLine => some "ssh"
  | ipmi => some "ipmi"
  | sql => some "jdbc"
  | copy | static | tableUnion | tableJoin => none

theorem protocol?_eq_none_iff (t : SourceType) : t.protocol? = none ↔ t.isStructural = true := by
  cases t <;> simp [protocol?, isStructural]

end SourceType

/-- The kind without its details. -/
def SourceKind.type : SourceKind → SourceType
  | http _ => .http
  | snmpGet _ => .snmpGet
  | snmpTable .. => .snmpTable
  | wmi _ => .wmi
  | wbem _ => .wbem
  | commandLine _ => .commandLine
  | ipmi => .ipmi
  | sql _ => .sql
  | copy _ => .copy
  | static _ => .static
  | tableUnion _ => .tableUnion
  | tableJoin _ => .tableJoin

namespace Source

/-- The kind of the source. -/
def type (s : Source) : SourceType := s.kind.type

/-- The protocol by which the host is asked. -/
def protocol? (s : Source) : Option String := s.type.protocol?

end Source

end HardwareWatch
