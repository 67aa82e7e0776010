import HardwareWatch.Proofs.Sources.Filling
import HardwareWatch.Proofs.Visit.Replies

/-!
# Rows on their own

A source that runs for every row of a table asks an extension for one row after the other. Where its
table has the tables of the rows one below the other, each row has a block of it to itself: more rows
are more blocks, and a row that fails has the empty block.

* `SourceRun.AsksPerRow` says which sources are meant, `SourceRun.Execution` is one that is run over
  rows.
* `SourceRun.yields_fetchRows` is the loop over the rows.
* `SourceRun.rows_isolated` says what is asked and what the table is, for more rows, and where an
  answer is an error instead.
-/

namespace HardwareWatch

open Activity

/-- The source that runs for a row, its gaps for attributes filled before. -/
def Source.entryFor (s : Source) (attributes : Option (NameMap String)) (row : Row) : Source :=
  (s.filled attributes).forEntry row

theorem Source.forceSerialization_entryFor (s : Source) (attributes : Option (NameMap String))
    (row : Row) : (s.entryFor attributes row).forceSerialization = s.forceSerialization := by
  change (s.filled attributes).forceSerialization = s.forceSerialization
  cases attributes with
  | none => rfl
  | some attributes =>
    rw [filled]
    split <;> rfl

theorem flatMap_filter {α β : Type} (p : α → Prop) [DecidablePred p] (f : α → List β)
    (l : List α) : (l.filter p).flatMap f = l.flatMap fun a => if p a then f a else [] := by
  induction l with
  | nil => rfl
  | cons a rest ih => by_cases ha : p a <;> simp [ha, ih]

namespace SourceRun

/-- A source has an extension asked for every row of a table, and its table has the tables of the
rows one below the other. -/
structure AsksPerRow (x : SourceRun) (e : Extension) (s : Source) : Prop where
  inWords : s.InWords
  computes : s.computes = []
  isStructural : s.type.isStructural = false
  extension : x.visit.registry.forSource? s.type x.visit.host = some e
  entries : ∃ source, s.entries = some ⟨source, .list⟩

/-- The call for the source of a row. -/
def entryCall (x : SourceRun) (e : Extension) (entry : Source) : ProbeCall :=
  ⟨sourceSubject entry e, entry.forceSerialization,
    x.visit.request e (x.visit.host.timeoutFor entry.protocol?) (.source entry)⟩

/-- The request for a row. -/
def rowRequest (x : SourceRun) (e : Extension) (s : Source) (attributes : Option (NameMap String))
    (row : Row) : Request :=
  (x.entryCall e (s.entryFor attributes row)).request

variable {σ : Type} {network : Network σ} {x : SourceRun} {e : Extension} {s t : Source}
  {tables : Namespace} {answer : Source → Except EngineError Table} {site : Site σ}

theorem AsksPerRow.filled (h : x.AsksPerRow e s) (attributes : Option (NameMap String)) :
    x.AsksPerRow e (s.filled attributes) := by
  cases attributes with
  | none => exact h
  | some attributes =>
    rw [Source.filled]
    split
    · have htype : (s.mapTexts (AttributeGap.fill attributes)).type = s.type :=
        s.kind.type_mapTexts
      obtain ⟨source, hentries⟩ := h.entries
      refine ⟨h.inWords.mapTexts, ?_, htype ▸ h.isStructural, htype ▸ h.extension,
        AttributeGap.fill attributes source, ?_⟩
      · simp [Source.mapTexts, h.computes]
      · simp [Source.mapTexts, hentries, EntryLoop.mapTexts, EntryMerge.mapTexts]
    · exact h

/-- The source for a row is a call of the extension. -/
theorem AsksPerRow.fetch_eq (h : x.AsksPerRow e t) (row : Row) :
    x.fetch (t.forEntry row) tables = x.visit.call (x.entryCall e (t.forEntry row)) := by
  have htype : (t.forEntry row).type = t.type := t.kind.type_mapTexts
  rw [fetch, htype, h.isStructural, h.extension]
  rfl

/-! ## The loop -/

/-- What a probe for the source of a row comes to, where nobody can be asked without a turn. -/
def entryAnswer (x : SourceRun) (e : Extension) (answer : Source → Except EngineError Table)
    (isFree : Bool) (entry : Source) : Except EngineError Table :=
  if entry.forceSerialization && !isFree then .error (x.visit.lateTurn (sourceSubject entry e))
  else answer entry

/-- The extension has the answer for the source of a row in all its states. -/
def Replies (x : SourceRun) (e : Extension) (network : Network σ)
    (answer : Source → Except EngineError Table) (entry : Source) : Prop :=
  ∀ state, x.visit.outcome (x.entryCall e entry)
    (network (x.entryCall e entry).request state).1 = answer entry

theorem yields_fetch (tables : Namespace) (h : x.AsksPerRow e t) {row : Row}
    (hreplies : x.Replies e network answer (t.forEntry row)) (hs : site.cancelled = false)
    (hissued : site.turns.Issued) :
    Yields network (x.fetch (t.forEntry row) tables) site
      (x.entryAnswer e answer site.turns.isFree (t.forEntry row))
      (Visit.requestsOf (x.entryCall e (t.forEntry row)) site.turns.isFree) := by
  have hcall := Visit.yields_call network x.visit (x.entryCall e (t.forEntry row)) hs
    hissued
  rw [Visit.replied, hreplies] at hcall
  rw [h.fetch_eq]
  exact hcall

/-- **The loop over the rows**: one row is asked after the other, and who fails has the empty
table. -/
theorem yields_fetchRows (tables : Namespace) (h : x.AsksPerRow e t) {rows : List Row}
    (hreplies : ∀ row ∈ rows, x.Replies e network answer (t.forEntry row))
    (herrors : ∀ row ∈ rows, ∀ err, answer (t.forEntry row) = .error err → err.isCancelled = false)
    (hs : site.cancelled = false) (hissued : site.turns.Issued) :
    Yields network (x.fetchRows t tables rows) site
      (.ok (rows.map fun row => (row,
        (x.entryAnswer e answer site.turns.isFree (t.forEntry row)).toOption.getD .empty)))
      (rows.flatMap fun row =>
        Visit.requestsOf (x.entryCall e (t.forEntry row)) site.turns.isFree) := by
  -- From row to row the site changes, but not in what the next probe sees of it.
  induction rows generalizing site with
  | nil => exact .pure _ _
  | cons row rest ih =>
    rw [fetchRows, Source.forRow?_eq h.inWords]
    have hfetch := yields_fetch tables h (hreplies row List.mem_cons_self) hs hissued
    have hrest := ih (fun r hr => hreplies r (List.mem_cons_of_mem _ hr))
      (fun r hr => herrors r (List.mem_cons_of_mem _ hr)) (hfetch.asked.cancelled.trans hs)
      (hfetch.asked.issued hissued)
    rw [hfetch.asked.isFree] at hrest
    have hnone (err : EngineError)
        (herr : x.entryAnswer e answer site.turns.isFree (t.forEntry row) = .error err) :
        err.isCancelled = false := by
      rw [entryAnswer] at herr
      split at herr
      · cases herr
        rfl
      · exact herrors row List.mem_cons_self err herr
    rw [List.map_cons, List.flatMap_cons]
    refine hfetch.bind ?_
    cases hanswer : x.entryAnswer e answer site.turns.isFree (t.forEntry row) with
    | ok table => exact hrest.map fun results => results.map ((row, table) :: ·)
    | error err =>
      dsimp only
      rw [if_neg (Bool.eq_false_iff.1 (hnone err hanswer))]
      exact hrest.map fun results => results.map ((row, Table.empty) :: ·)

/-- A source without operators has the tables of the rows one below the other. -/
theorem yields_executeFilled (h : x.AsksPerRow e t) {rows : List Row}
    (hrows : ∀ loop ∈ t.entries, (Table.lookup loop.source tables).map Table.rows = some rows)
    (hreplies : ∀ row ∈ rows, x.Replies e network answer (t.forEntry row))
    (herrors : ∀ row ∈ rows, ∀ err, answer (t.forEntry row) = .error err → err.isCancelled = false)
    (hs : site.cancelled = false) (hissued : site.turns.Issued) :
    Yields network (x.executeFilled t tables) site
      (.ok (.union (rows.map fun row =>
        (x.entryAnswer e answer site.turns.isFree (t.forEntry row)).toOption.getD .empty)))
      (rows.flatMap fun row =>
        Visit.requestsOf (x.entryCall e (t.forEntry row)) site.turns.isFree) := by
  obtain ⟨source, hentries⟩ := h.entries
  obtain ⟨entries, hlookup, rfl⟩ := Option.map_eq_some_iff.1 (hrows _ hentries)
  have hfinish (table : Table) : x.finish t tables table = table := by
    rw [finish, h.computes]
    rfl
  have hloop := (yields_fetchRows tables h hreplies herrors hs hissued).map
    fun results => results.map fun results => x.finish t tables (EntryMerge.list.merge results)
  simp only [Except.map, EntryMerge.merge, List.map_map, Function.comp_def, hfinish] at hloop
  rw [executeFilled, hentries]
  dsimp only at hlookup ⊢
  rw [hlookup]
  simp only [EntryMerge.merge, hfinish]
  exact hloop

/-- A loop over rows can go on at once. -/
theorem run_executeFilled (h : x.AsksPerRow e t) :
    (x.executeFilled t tables).run network none site =
      (x.executeFilled t tables).finish network site := by
  obtain ⟨source, hentries⟩ := h.entries
  rw [executeFilled, hentries]
  dsimp only
  split
  · exact (run_done ..).trans (finish_done ..).symm
  · rename_i entries _
    cases entries.rows with
    | nil => exact (run_done ..).trans (finish_done ..).symm
    | cons row rest =>
      rw [fetchRows, Source.forRow?_eq h.inWords]
      dsimp only
      rw [h.fetch_eq]
      exact run_eq_finish_of_wake rfl
        (((wake_bind rfl _ site).trans (wake_bind rfl _ site)).trans (Visit.wake_call x.visit _ site))

/-! ## Executions -/

/-- A source is run over rows, alone on its host, and nothing is cancelled. What the probe for a row
comes to depends on the source for the row alone. -/
structure Execution (x : SourceRun) (e : Extension) (s : Source)
    (attributes : Option (NameMap String)) (answer : Source → Except EngineError Table)
    (rows : List Row) where
  /-- The states of the extensions. -/
  State : Type
  network : Network State
  tables : Namespace
  site : Site State
  cancelAt : Option Nat
  overRows : ∀ loop ∈ (s.filled attributes).entries,
    (Table.lookup loop.source tables).map Table.rows = some rows
  issued : site.turns.Issued
  replies : ∀ row ∈ rows, x.Replies e network answer (s.entryFor attributes row)
  errors : ∀ row ∈ rows, ∀ err,
    answer (s.entryFor attributes row) = .error err → err.isCancelled = false
  uncancelled : ((x.execute s tables attributes).run network cancelAt site).2.cancelled = false

namespace Execution

variable {attributes : Option (NameMap String)} {rows : List Row}

/-- What the execution comes to, and the site that it leaves. -/
def left (r : x.Execution e s attributes answer rows) : Except EngineError Table × Site r.State :=
  (x.execute s r.tables attributes).run r.network r.cancelAt r.site

/-- The table, empty if there is an error in its place. -/
def table (r : x.Execution e s attributes answer rows) : Table := r.left.1.toOption.getD .empty

/-- The probes have to wait for a turn that somebody else keeps. -/
def missesTurn (r : x.Execution e s attributes answer rows) : Bool :=
  s.forceSerialization && !r.site.turns.isFree

/-- The rows of the table for one row: those of the answer, if there is one and it is no error. -/
def block (r : x.Execution e s attributes answer rows) (row : Row) : List Row :=
  if r.missesTurn then []
  else ((answer (s.entryFor attributes row)).toOption.getD .empty).rows

variable (r : x.Execution e s attributes answer rows)

theorem rows_entryAnswer (row : Row) :
    ((x.entryAnswer e answer r.site.turns.isFree (s.entryFor attributes row)).toOption.getD
      .empty).rows = r.block row := by
  rw [entryAnswer, block, missesTurn, Source.forceSerialization_entryFor]
  split <;> rfl

theorem requestsOf_entryCall (row : Row) :
    Visit.requestsOf (x.entryCall e (s.entryFor attributes row)) r.site.turns.isFree =
      if r.missesTurn then [] else [x.rowRequest e s attributes row] := by
  have hforced : (x.entryCall e (s.entryFor attributes row)).inTurn = s.forceSerialization :=
    s.forceSerialization_entryFor attributes row
  rw [Visit.requestsOf, missesTurn, rowRequest, hforced]

/-- **What an execution comes to**: a block for each row, and one request for each. -/
theorem left_eq (h : x.AsksPerRow e s) :
    ∃ t, r.left.1 = .ok t ∧ t.rows = rows.flatMap r.block ∧
      r.left.2.asked = r.site.asked ++
        if r.missesTurn then [] else rows.map (x.rowRequest e s attributes) := by
  have hnever : r.left =
      (x.executeFilled (s.filled attributes) r.tables).finish r.network r.site := by
    rw [left, run_eq_run_none r.uncancelled, execute_eq x h.inWords,
      run_executeFilled (h.filled attributes)]
  have hs : r.site.cancelled = false :=
    Bool.eq_false_iff.2 fun hs => absurd (r.uncancelled.symm.trans (cancelled_run hs))
      Bool.false_ne_true
  obtain ⟨hresult, hasked⟩ := yields_executeFilled (h.filled attributes) r.overRows r.replies
    r.errors hs r.issued
  refine ⟨_, hnever ▸ hresult, ?_, hnever ▸ hasked.asked.trans (congrArg (_ ++ ·) ?_)⟩
  · simp only [Table.union, List.flatMap_map]
    exact congrArg (List.flatMap · rows) (funext r.rows_entryAnswer)
  · refine (congrArg (List.flatMap · rows) (funext r.requestsOf_entryCall)).trans ?_
    split
    · simp
    · exact List.map_eq_flatMap.symm

theorem rows_table (h : x.AsksPerRow e s) : r.table.rows = rows.flatMap r.block := by
  obtain ⟨t, ht, hrows, -⟩ := r.left_eq h
  rw [table, ht]
  exact hrows

end Execution

/-- **Rows are executed on their own.** Nothing but one request for each row in their order is made,
unless there is no turn for it, and the table has the rows of the answers in that order. With more
rows, the rows for these come after those before. Where an error takes the place of the answer for
one source, the rows for it are gone and the others stay. -/
theorem rows_isolated (h : x.AsksPerRow e s) (attributes : Option (NameMap String)) :
    (∀ {answer rows} (r : x.Execution e s attributes answer rows),
      r.left.1 = .ok r.table ∧ r.table.rows = rows.flatMap r.block ∧
        r.left.2.asked = r.site.asked ++
          if r.missesTurn then [] else rows.map (x.rowRequest e s attributes)) ∧
    (∀ {answer a b} (r : x.Execution e s attributes answer (a ++ b))
      (first : x.Execution e s attributes answer a) (second : x.Execution e s attributes answer b),
      first.missesTurn = r.missesTurn → second.missesTurn = r.missesTurn →
        r.table.rows = first.table.rows ++ second.table.rows) ∧
    ∀ {answer answer' rows failing err}, answer' failing = .error err →
      (∀ entry, entry ≠ failing → answer' entry = answer entry) →
      ∀ (r : x.Execution e s attributes answer rows) (r' : x.Execution e s attributes answer' rows),
        r'.missesTurn = r.missesTurn → r'.table.rows =
          (rows.filter fun row => s.entryFor attributes row ≠ failing).flatMap r.block := by
  refine ⟨fun r => ?_, fun r first second hfirst hsecond => ?_, ?_⟩
  · obtain ⟨t, ht, hrows, hasked⟩ := r.left_eq h
    have htable : r.table = t := by
      rw [Execution.table, ht]
      rfl
    exact ⟨htable ▸ ht, htable ▸ hrows, hasked⟩
  · have hblock : first.block = r.block ∧ second.block = r.block := by
      constructor <;> funext row
      · rw [Execution.block, hfirst, Execution.block]
      · rw [Execution.block, hsecond, Execution.block]
    rw [r.rows_table h, first.rows_table h, second.rows_table h, hblock.1, hblock.2,
      List.flatMap_append]
  · intro answer answer' rows failing err hfailing hothers r r' hmisses
    have hblock (row : Row) :
        r'.block row = if s.entryFor attributes row ≠ failing then r.block row else [] := by
      rw [Execution.block, Execution.block, hmisses]
      by_cases hrow : s.entryFor attributes row = failing
      · simp [hrow, hfailing, Table.empty, Except.toOption]
      · simp [hrow, hothers _ hrow]
    rw [r'.rows_table h, flatMap_filter]
    exact congrArg (List.flatMap · rows) (funext hblock)

end SourceRun

/-! ## Three disks, one of which does not answer -/

namespace DeadDisk

/-- The state of each disk, one after the other. -/
def status : Source :=
  ⟨"status", 1, true, [], some ⟨"$\x7bsource::ids\x7d", .list⟩, .snmpGet "1.7.$1"⟩

/-- The state of one disk. -/
def statusOf (disk : String) : Source := ⟨"status", 1, true, [], none, .snmpGet ("1.7." ++ disk)⟩

/-- The extension that is asked. -/
def snmp : Extension := ⟨"snmp", [.snmpGet], [], fun _ => true⟩

/-- A run for a host on which the extension works. -/
def run : SourceRun :=
  ⟨⟨⟨[snmp], none⟩, .named "srv" .linux, .standard, 0⟩,
    ⟨1, "C", none, none, [], ⟨[], false, [], []⟩, .empty, .empty, [], .empty⟩, .empty⟩

/-- The state of a disk that is well. -/
def well (entry : Source) : Except EngineError Table :=
  match entry.kind with
  | .snmpGet oid => .ok (.ofRows [[oid, "ok"]])
  | _ => .ok .empty

/-- One disk does not answer. -/
def dead (entry : Source) : Except EngineError Table :=
  if entry = statusOf "d1" then .error ⟨.probeFailure, "no answer"⟩ else well entry

/-- The replies of a device that answers for sources. -/
def reply (answer : Source → Except EngineError Table) : (p : Probe) → Except EngineError p.Answer
  | .source entry => answer entry
  | .criterion _ => .error ⟨.probeUnsupported, ""⟩
  | .health => .ok true

/-- A device that counts what it is asked, and replies in a millisecond. -/
def network (answer : Source → Except EngineError Table) : Network Nat := fun r count =>
  (⟨1, reply answer r.probe⟩, count + 1)

theorem asksPerRow : run.AsksPerRow snmp status := by
  have hnumbers : status.numbers = [] := rfl
  exact ⟨by simp [Source.InWords, hnumbers], rfl, rfl, rfl, _, rfl⟩

/-- All errors are those of probes. -/
def FailsAsProbe (answer : Source → Except EngineError Table) : Prop :=
  ∀ entry err, answer entry = .error err → err.isProbeError = true

theorem failsAsProbe_well : FailsAsProbe well := by
  intro entry err h
  rw [well] at h
  split at h <;> cases h

theorem failsAsProbe_dead : FailsAsProbe dead := by
  intro entry err h
  rw [dead] at h
  split at h
  · cases h
    rfl
  · exact failsAsProbe_well entry err h

theorem replies {answer : Source → Except EngineError Table} (h : FailsAsProbe answer)
    (entry : Source) : run.Replies snmp (network answer) answer entry := by
  intro state
  have hlimit : run.visit.host.timeoutFor entry.protocol? = 30 := by
    cases entry.protocol? <;> rfl
  have hintime : 1 ≤ Visit.msOfSecs (run.visit.host.timeoutFor entry.protocol?) := by
    rw [hlimit]
    decide
  refine (congrArg (run.visit.settle _ _) (if_pos hintime)).trans ?_
  change (answer entry).mapError _ = answer entry
  cases hanswer : answer entry with
  | ok t => rfl
  | error err =>
    have hprobe : Visit.probeError (SourceRun.sourceSubject entry snmp) err = err :=
      if_pos (by simp [h entry err hanswer])
    exact congrArg Except.error hprobe

/-- A run over disks that is never cancelled. -/
def execution {answer : Source → Except EngineError Table} (h : FailsAsProbe answer)
    (rows : List Row) :
    run.Execution snmp status none answer rows where
  State := Nat
  network := network answer
  tables := .ofList [("ids", .ofRows rows)]
  site := .fresh (.named "srv" .linux) 0
  cancelAt := none
  overRows := by
    rintro _ ⟨⟩
    have hkey : Reference.key? "$\x7bsource::ids\x7d" = some "ids" := rfl
    rw [Table.lookup, hkey]
    rfl
  issued := List.forall_mem_nil _
  replies row _ := replies h _
  errors row _ err herr := by
    have hprobe := h _ err herr
    obtain ⟨kind, text⟩ := err
    cases kind <;> first | rfl | cases hprobe
  uncancelled := cancelled_run_none

/-- Three disks that are well. -/
def allWell := execution failsAsProbe_well [["d0"], ["d1"], ["d2"]]

/-- The same disks, one of which does not answer. -/
def oneDead := execution failsAsProbe_dead [["d0"], ["d1"], ["d2"]]

/-- All three disks are asked for, the table for them is the one for the first with the one for the
others below it, and only the disk that does not answer is missing. -/
theorem others_stay :
    run.AsksPerRow snmp status ∧
      (allWell.table.rows = [["1.7.d0", "ok"], ["1.7.d1", "ok"], ["1.7.d2", "ok"]]) ∧
      allWell.table.rows = (execution failsAsProbe_well [["d0"]]).table.rows ++
        (execution failsAsProbe_well [["d1"], ["d2"]]).table.rows ∧
      oneDead.left.2.asked.map (·.probe) =
        [.source (statusOf "d0"), .source (statusOf "d1"), .source (statusOf "d2")] ∧
      oneDead.table.rows = [["1.7.d0", "ok"], ["1.7.d2", "ok"]] := by
  obtain ⟨hone, happend, herror⟩ := SourceRun.rows_isolated asksPerRow none
  refine ⟨asksPerRow, (hone allWell).2.1.trans ?_,
    happend allWell (execution _ [["d0"]]) (execution _ [["d1"], ["d2"]]) rfl rfl,
    (congrArg (List.map _) (hone oneDead).2.2).trans ?_,
    (herror (show dead (statusOf "d1") = .error _ from rfl) (fun _ h => if_neg h) allWell oneDead
      rfl).trans ?_⟩
  · decide +kernel
  · decide +kernel
  · decide +kernel

end DeadDisk

end HardwareWatch
