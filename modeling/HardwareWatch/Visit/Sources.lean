import HardwareWatch.Connector.Basic
import HardwareWatch.Connector.Derived
import HardwareWatch.Connector.Template
import HardwareWatch.Connector.Waves
import HardwareWatch.Operator.Apply
import HardwareWatch.Visit.Basic

/-!
# Running sources

A source gives a table: derived from other tables, or asked of an extension, for each row of a table
if it says so, and then put through its operators. Sources that do not read each other run at the
same time. A source that fails leaves an empty table, and all that is built on it counts as failed.

* `SourceRun.execute` is the table of a source.
* `SourceRun.obtain` tries a source again that had data in the cycle before and now has none.
* `SourceRun.runSources` runs sources wave by wave.
-/

namespace HardwareWatch

/-- What a connector is run with: the visit, the connector, and the tables of the cycle before. -/
structure SourceRun where
  visit : Visit
  connector : Connector
  previous : Namespace

/-- The tables that there are, and the sources that failed. -/
structure Harvest where
  tables : Namespace
  failed : NameSet

namespace SourceRun

/-- The error where no extension runs a kind of source. -/
def noRunner (v : Visit) (type : SourceType) : EngineError :=
  ⟨.probeUnsupported, "no extension runs " ++ type.name ++ " sources on " ++ v.host.hostname⟩

/-- The error where the filled document of a source cannot be read. -/
def unreadable : EngineError := ⟨.json, "no source document"⟩

/-- What a source is called in messages. -/
def sourceSubject (s : Source) (e : Extension) : String := "source " ++ s.key ++ " (" ++ e.id ++ ")"

/-- The table of a source before its operators. -/
def fetch (x : SourceRun) (s : Source) (tables : Namespace) : Activity (Except EngineError Table) :=
  if s.type.isStructural then return .ok (s.kind.derive tables)
  else
    match x.visit.registry.forSource? s.type x.visit.host with
    | none => return .error (noRunner x.visit s.type)
    | some e =>
      x.visit.probe (sourceSubject s e) s.forceSerialization
        (x.visit.request e (x.visit.host.timeoutFor s.protocol?) (.source s))

/-- The tables of a source for single rows. A row that fails has the empty table, unless the run was
cancelled. -/
def fetchRows (x : SourceRun) (s : Source) (tables : Namespace) :
    List Row → Activity (Except EngineError (List (Row × Table)))
  | [] => return .ok []
  | row :: rest =>
    match s.forRow? row with
    | none => return .error unreadable
    | some entry => do
      match ← x.fetch entry tables with
      | .ok t => return (← x.fetchRows s tables rest).map ((row, t) :: ·)
      | .error e =>
        if e.isCancelled then return .error e
        else return (← x.fetchRows s tables rest).map ((row, .empty) :: ·)

/-- What the operators of the connector may read. -/
def operatorContext (x : SourceRun) (tables : Namespace) : OperatorContext :=
  ⟨x.connector.translations, tables, x.visit.registry.awk⟩

/-- The table with the operators of the source applied. -/
def finish (x : SourceRun) (s : Source) (tables : Namespace) (t : Table) : Table :=
  Operator.applyAll (x.operatorContext tables) s.computes t

/-- The table of a source without gaps. A loop over a missing table is an empty one. -/
def executeFilled (x : SourceRun) (s : Source) (tables : Namespace) :
    Activity (Except EngineError Table) :=
  match s.entries with
  | none => return (← x.fetch s tables).map (x.finish s tables)
  | some loop =>
    match Table.lookup loop.source tables with
    | none => return .ok .empty
    | some entries => do
      let results ← x.fetchRows s tables entries.rows
      return results.map fun results => x.finish s tables (loop.merge.merge results)

/-- The table of a source, its gaps filled by the attributes of a monitor if there is one. -/
def execute (x : SourceRun) (s : Source) (tables : Namespace)
    (attributes : Option (NameMap String)) : Activity (Except EngineError Table) :=
  match attributes with
  | none => x.executeFilled s tables
  | some attributes =>
    match s.forMonitor? attributes with
    | none => return .error unreadable
    | some s => x.executeFilled s tables

/-- Whether the source had data in the cycle before. -/
def hadData (x : SourceRun) (s : Source) : Bool := (x.previous.get? s.key).any (!·.isEmpty)

/-- The table of a source, or nothing if it failed. A source that had data in the cycle before and
now has none is tried once more after a while, and the second outcome counts. -/
def obtain (x : SourceRun) (tables : Namespace) (attributes : Option (NameMap String))
    (s : Source) : Activity (Option Table) := do
  let first ← x.execute s tables attributes
  let isEmpty := first.toOption.all Table.isEmpty
  if isEmpty && x.hadData s && !(← Activity.cancelled) then
    Activity.pause x.visit.host.retryDelayMs
    return (← x.execute s tables attributes).toOption
  else return first.toOption

/-- Add the outcome of a source. It counts as failed if a source it refers to has failed. -/
def store (h : Harvest) (outcome : Source × Option Table) : Harvest :=
  let (s, table) := outcome
  let isFailed := table.isNone || s.references.any h.failed.has
  { tables := h.tables.insert s.key (table.getD .empty)
    failed := if isFailed then h.failed.add s.key else h.failed }

/-- The sources without a table count as failed. -/
def giveUp (sources : List Source) (h : Harvest) : Harvest :=
  { h with failed := h.failed.addAll ((sources.map (·.key)).filter (!h.tables.contains ·)) }

/-- Run a wave of the sources, each with the tables of the waves before it. -/
def runWave (x : SourceRun) (attributes : Option (NameMap String)) (sources : List Source)
    (h : Harvest) (wave : List Source) : Activity Harvest := do
  if ← Activity.cancelled then return giveUp sources h
  else
    let tables ← Activity.all (wave.map (x.obtain h.tables attributes))
    return (wave.zip tables).foldl store h

/-- Run sources, given the tables that there are. -/
def runSources (x : SourceRun) (attributes : Option (NameMap String)) (sources : List Source)
    (tables : Namespace) : Activity Harvest :=
  (dependencyWaves sources).foldlM (x.runWave attributes sources) ⟨tables, .empty⟩

/-- Run sources up to a time. Gives what there is then, and whether all were run. -/
def runSourcesBefore (x : SourceRun) (deadline : Nat) (sources : List Source)
    (tables : Namespace) : Activity (Harvest × Bool) :=
  Activity.foldBefore deadline (x.runWave none sources) (dependencyWaves sources) ⟨tables, .empty⟩

end SourceRun

end HardwareWatch
