import HardwareWatch.Proofs.Sources.Course

/-!
# Sources that loop over rows

A source with a loop is asked for one row after the other. A row whose answer is an error has the
empty table, and the loop goes on, unless the error is that of a cancelled probe.

* `Poll` is what came of the rows, and `SourceRun.Polls` says which polls there can be.
* `SourceRun.runs_executeFilled_iff_of_loop` says that these are the runs of a source with a loop.
* `Poll.IsOutage` says that the answer for every row was an error. `Poll.result_of_isOutage` has the
  tables that there are then.
* `SourceRun.Gathers.exists_poll` finds the poll of the last attempt at a source that runs wave by
  wave.
-/

namespace HardwareWatch

open Activity

/-- What came of the rows of a table: the answers for them in their order, and the error that ended
the loop before its time, if one did. -/
structure Poll where
  rows : List Row
  answers : List (Except EngineError Table)
  broken : Option EngineError

namespace Poll

/-- The rows with their tables. A row has the empty table if its answer is an error. -/
def tables (p : Poll) : List (Row × Table) := p.rows.zip (p.answers.map (·.toOption.getD .empty))

/-- What the loop comes to. -/
def result (p : Poll) : Except EngineError (List (Row × Table)) :=
  match p.broken with
  | none => .ok p.tables
  | some e => .error e

/-- The answer for every row was an error, none that ends the loop. -/
structure IsOutage (p : Poll) : Prop where
  unbroken : p.broken = none
  errors : ∀ answer ∈ p.answers, ∃ e, answer = .error e

end Poll

/-- The source with its gaps filled by the attributes of a monitor if there is one, where what is
filled in can be read. -/
def Source.ready? (s : Source) : Option (NameMap String) → Option Source
  | none => some s
  | some attributes => s.forMonitor? attributes

namespace SourceRun

/-! ## The loop -/

/-- The polls of a source, given the tables that there are. -/
inductive Polls (w : Surroundings) (x : SourceRun) (s : Source) (tables : Namespace) : Poll → Prop
  | done : Polls w x s tables ⟨[], [], none⟩
  | unreadable {row : Row} {rest : List Row} (h : s.forRow? row = none) :
    Polls w x s tables ⟨row :: rest, [], some unreadable⟩
  | cancelled {row : Row} {rest : List Row} {entry : Source} {e : EngineError}
      (h : s.forRow? row = some entry) (hruns : Runs w (x.fetch entry tables) 0 (some (.error e)))
      (he : e.isCancelled = true) :
    Polls w x s tables ⟨row :: rest, [], some e⟩
  | next {row : Row} {entry : Source} {answer : Except EngineError Table} {p : Poll}
      (h : s.forRow? row = some entry) (hruns : Runs w (x.fetch entry tables) 0 (some answer))
      (ha : ∀ e, answer = .error e → e.isCancelled = false) (hp : Polls w x s tables p) :
    Polls w x s tables ⟨row :: p.rows, answer :: p.answers, p.broken⟩

variable {w : Surroundings} {x : SourceRun} {s : Source} {tables : Namespace} {p : Poll}
  {cs : Multiset Change}

/-- A loop that is not broken has an answer for every row. -/
theorem Polls.length_eq (h : Polls w x s tables p) (hb : p.broken = none) :
    p.rows.length = p.answers.length := by
  induction h with
  | done => rfl
  | unreadable => cases hb
  | cancelled => cases hb
  | next _ _ _ _ ih => exact congrArg (· + 1) (ih hb)

/-- **An outage comes to the same as if every row had an empty answer.** -/
theorem Polls.result_of_isOutage (h : Polls w x s tables p) (ho : p.IsOutage) :
    p.result = .ok (p.rows.map fun row => (row, .empty)) := by
  have hempty : p.answers.map (·.toOption.getD .empty) = p.rows.map fun _ => Table.empty := by
    rw [List.map_const', h.length_eq ho.unbroken, List.eq_replicate_iff]
    refine ⟨List.length_map _, fun t ht => ?_⟩
    obtain ⟨answer, hanswer, rfl⟩ := List.mem_map.1 ht
    obtain ⟨e, rfl⟩ := ho.errors answer hanswer
    rfl
  have htables : p.tables = p.rows.map fun row => (row, Table.empty) := by
    rw [Poll.tables, hempty, ← List.zip_map', List.map_id']
  rw [Poll.result, ho.unbroken, htables]

/-- What a table and the tables of the rows after it come to. -/
theorem Poll.result_cons (row : Row) (answer : Except EngineError Table) (p : Poll) :
    (⟨row :: p.rows, answer :: p.answers, p.broken⟩ : Poll).result =
      p.result.map ((row, answer.toOption.getD .empty) :: ·) := by
  obtain ⟨rows, answers, broken⟩ := p
  cases broken <;> rfl

/-- Every poll is a run of the loop. -/
theorem Polls.runs_fetchRows (h : Polls w x s tables p) :
    Runs w (x.fetchRows s tables p.rows) 0 (some p.result) := by
  induction h with
  | done => exact .done
  | unreadable h =>
    rw [fetchRows, h]
    exact .done
  | @cancelled _ _ _ e h hruns he =>
    rw [fetchRows, h]
    refine runs_bind_some_iff.2 ⟨.error e, 0, 0, rfl, hruns, ?_⟩
    dsimp only
    rw [if_pos he]
    exact .done
  | @next row _ answer p h hruns ha _ ih =>
    rw [fetchRows, h]
    refine runs_bind_some_iff.2 ⟨answer, 0, 0, rfl, hruns, ?_⟩
    rw [Poll.result_cons]
    cases answer with
    | ok t => exact runs_bind_some_iff.2 ⟨_, 0, 0, rfl, ih, .done⟩
    | error e =>
      dsimp only
      rw [if_neg (by simp [ha e rfl])]
      exact runs_bind_some_iff.2 ⟨_, 0, 0, rfl, ih, .done⟩

/-- Every run of the loop is a poll. -/
theorem exists_polls_of_runs_fetchRows {rows : List Row}
    {result : Except EngineError (List (Row × Table))}
    (h : Runs w (x.fetchRows s tables rows) cs (some result)) :
    cs = 0 ∧ ∃ p : Poll, p.rows = rows ∧ Polls w x s tables p ∧ result = p.result := by
  refine ⟨(x.probing_fetchRows s tables rows).quiet.eq_zero h, ?_⟩
  induction rows generalizing cs result with
  | nil => exact ⟨_, rfl, .done, (runs_pure_some_iff.1 h).2⟩
  | cons row rest ih =>
    rw [fetchRows] at h
    cases hentry : s.forRow? row with
    | none =>
      rw [hentry] at h
      exact ⟨_, rfl, .unreadable hentry, (runs_pure_some_iff.1 h).2⟩
    | some entry =>
      rw [hentry] at h
      obtain ⟨answer, cs₁, cs₂, -, hanswer, h⟩ := runs_bind_some_iff.1 h
      obtain rfl : cs₁ = 0 := (x.probing_fetch entry tables).quiet.eq_zero hanswer
      -- The rest of the rows is asked unless the answer ends the loop.
      have hrest (ha : ∀ e, answer = .error e → e.isCancelled = false)
          (h : Runs w (x.fetchRows s tables rest >>= fun result =>
            pure (result.map ((row, answer.toOption.getD .empty) :: ·))) cs₂ (some result)) :
          ∃ p : Poll, p.rows = row :: rest ∧ Polls w x s tables p ∧ result = p.result := by
        obtain ⟨result, cs₃, _, -, hrest, hend⟩ := runs_bind_some_iff.1 h
        obtain ⟨p, rfl, hp, rfl⟩ := ih hrest
        exact ⟨_, rfl, .next hentry hanswer ha hp,
          (runs_pure_some_iff.1 hend).2.trans (Poll.result_cons row answer p).symm⟩
      cases answer with
      | ok t => exact hrest (fun _ he => by cases he) h
      | error e =>
        cases he : e.isCancelled with
        | true =>
          dsimp only at h
          rw [if_pos he] at h
          exact ⟨_, rfl, .cancelled hentry hanswer he, (runs_pure_some_iff.1 h).2⟩
        | false =>
          dsimp only at h
          rw [if_neg (by simp [he])] at h
          exact hrest (fun e' he' => (Except.error.inj he') ▸ he) h

/-- **The runs of a loop** are its polls. -/
theorem runs_fetchRows_iff {rows : List Row} {result : Except EngineError (List (Row × Table))} :
    Runs w (x.fetchRows s tables rows) cs (some result) ↔
      cs = 0 ∧ ∃ p : Poll, p.rows = rows ∧ Polls w x s tables p ∧ result = p.result := by
  refine ⟨exists_polls_of_runs_fetchRows, ?_⟩
  rintro ⟨rfl, p, rfl, hp, rfl⟩
  exact hp.runs_fetchRows

/-- The runs of a source with a loop over a table that is there. -/
theorem runs_executeFilled_iff_of_loop {loop : EntryLoop} (hloop : s.entries = some loop)
    {entries : Table} (hentries : Table.lookup loop.source tables = some entries)
    {answer : Except EngineError Table} :
    Runs w (x.executeFilled s tables) cs (some answer) ↔ cs = 0 ∧ ∃ p : Poll,
      p.rows = entries.rows ∧ Polls w x s tables p ∧
        answer = p.result.map fun results => x.finish s tables (loop.merge.merge results) := by
  rw [executeFilled, hloop]
  dsimp only
  rw [hentries]
  dsimp only
  rw [runs_bind_some_iff]
  constructor
  · rintro ⟨result, cs₁, cs₂, rfl, hrows, hend⟩
    obtain ⟨rfl, p, hp, hpolls, rfl⟩ := runs_fetchRows_iff.1 hrows
    obtain ⟨rfl, rfl⟩ := runs_pure_some_iff.1 hend
    exact ⟨add_zero 0, p, hp, hpolls, rfl⟩
  · rintro ⟨rfl, p, hp, hpolls, rfl⟩
    exact ⟨_, 0, 0, (add_zero 0).symm, runs_fetchRows_iff.2 ⟨rfl, p, hp, hpolls, rfl⟩,
      runs_pure_some_iff.2 ⟨rfl, rfl⟩⟩

/-! ## The last attempt -/

theorem execute_of_ready {attributes : Option (NameMap String)} {ready : Source}
    (h : s.ready? attributes = some ready) :
    x.execute s tables attributes = x.executeFilled ready tables := by
  cases attributes with
  | none =>
    obtain rfl : s = ready := Option.some.inj h
    rfl
  | some attributes =>
    have hready : s.forMonitor? attributes = some ready := h
    unfold execute
    dsimp only
    rw [hready]

/-- The attempt that counts is an execution of the source. -/
theorem Attempts.exists_last {attributes : Option (NameMap String)} {hadData : Prop}
    {answers : List (Except EngineError Table)} {t : Option Table}
    (h : Attempts w x attributes tables s hadData answers t) :
    ∃ answer, Runs w (x.execute s tables attributes) 0 (some answer) ∧ t = answer.toOption := by
  cases h with
  | @once answer h => exact ⟨answer, h, rfl⟩
  | @twice _ second _ _ _ h =>
    obtain ⟨_, _, cs, -, -, h⟩ := runs_bind_some_iff.1 h
    obtain rfl : cs = 0 := (x.quiet_execute s tables attributes).eq_zero h
    exact ⟨second, h, rfl⟩

/-- The poll of the last attempt at a source that runs wave by wave. -/
theorem Gathers.exists_poll (hw : ¬w.mayBeCancelled) {attributes : Option (NameMap String)}
    {waves : List (List Source)} {before after : List SourceOutcome} {ready : Source}
    {loop : EntryLoop} {t : Option Table}
    (hg : Gathers w x attributes ⟨tables, .empty⟩ waves (before ++ (s, t) :: after))
    (hready : s.ready? attributes = some ready) (hloop : ready.entries = some loop) :
    ∃ earlier, earlier <+: before ∧ ∀ entries,
      Table.lookup loop.source (harvest tables earlier).tables = some entries → ∃ p : Poll,
        p.rows = entries.rows ∧ Polls w x ready (harvest tables earlier).tables p ∧
        t = (p.result.map fun results =>
          x.finish ready (harvest tables earlier).tables (loop.merge.merge results)).toOption := by
  obtain ⟨earlier, hearlier, hruns⟩ := hg.exists_earlier
  refine ⟨earlier, hearlier, fun entries hentries => ?_⟩
  obtain ⟨-, answers, hattempts⟩ := (runs_obtain_iff hw).1 hruns
  obtain ⟨answer, hlast, rfl⟩ := hattempts.exists_last
  rw [execute_of_ready hready] at hlast
  obtain ⟨-, p, hp, hpolls, rfl⟩ := (runs_executeFilled_iff_of_loop hloop hentries).1 hlast
  exact ⟨p, hp, hpolls, rfl⟩

end SourceRun

end HardwareWatch
