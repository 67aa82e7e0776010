import HardwareWatch.Table.Basic

/-!
# Written tables are read back

Rows are written with the separator behind every cell and a line feed between rows. Blank lines are
passed over when lines are read, a carriage return at the end of a line is dropped, and so is one
separator. None of this touches what was written, since a written line ends with its separator.

* `Row.Fits` says which rows can be told from their lines.
* `Row.ofLine_toLine` is the round trip of a line, `Table.rowsOf_linesOf` that of all lines.
* `Row.fits_of_mem_rowsOf` says that only such rows are read.
* `Table.reads_back_iff` says which tables come back, and that all tables that were read do.
-/

namespace HardwareWatch

/-! ## Characters -/

namespace Chars

theorem flatMap_append_singleton (c : Char) {xs : List Chars} (h : xs ≠ []) :
    xs.flatMap (· ++ [c]) = join [c] xs ++ [c] := by
  induction xs with
  | nil => exact absurd rfl h
  | cons x xs ih =>
    cases xs with
    | nil => simp [join]
    | cons y ys =>
      rw [List.flatMap_cons, ih (List.cons_ne_nil y ys),
        join_cons_of_ne_nil _ _ (List.cons_ne_nil y ys)]
      simp only [List.append_assoc]

end Chars

namespace Text

theorem toList_join (sep : String) (pieces : List String) :
    (join sep pieces).toList = Chars.join sep.toList (pieces.map String.toList) :=
  String.toList_ofList

theorem map_ofList_map_toList (texts : List String) :
    (texts.map String.toList).map String.ofList = texts := by
  rw [List.map_map]
  exact List.map_id'' (fun _ => String.ofList_toList) texts

/-- Lines that are neither empty nor ended by a carriage return are read as they were joined. -/
theorem lines_join {ls : List String} (hfeed : ∀ l ∈ ls, '\n' ∉ l.toList)
    (h : ∀ l ∈ ls, l.toList ≠ [] ∧ ¬['\r'] <:+ l.toList) : lines (join "\n" ls) = ls := by
  have hsep : "\n".toList = ['\n'] := by decide +kernel
  rw [lines, toList_join, hsep, Chars.lines_join (List.forall_mem_map.2 hfeed)
    (List.forall_mem_map.2 h), map_ofList_map_toList]

theorem feed_notMem_of_mem_lines {s l : String} (h : l ∈ lines s) : '\n' ∉ l.toList := by
  obtain ⟨cs, hcs, rfl⟩ := List.mem_map.1 h
  rw [String.toList_ofList]
  exact Chars.feed_notMem_of_mem_lines hcs

end Text

/-! ## Lines -/

namespace Row

variable {c : Char} {row : Row}

/-- The row has a cell, and in no cell is there a separator or a line feed. -/
def Fits (c : Char) (row : Row) : Prop :=
  row ≠ [] ∧ ∀ cell ∈ row, c ∉ cell.toList ∧ '\n' ∉ cell.toList

instance (c : Char) (row : Row) : Decidable (row.Fits c) := inferInstanceAs (Decidable (_ ∧ _))

theorem toList_toLine (c : Char) (row : Row) :
    (row.toLine (.singleton c)).toList = row.flatMap fun cell => cell.toList ++ [c] := by
  rw [toLine, String.toList_join, List.flatMap_map]
  simp

/-- The line of a row is its cells with the separator between them, and another one at the end. -/
theorem toList_toLine_of_ne_nil (c : Char) (h : row ≠ []) :
    (row.toLine (.singleton c)).toList = Chars.join [c] (row.map String.toList) ++ [c] := by
  rw [toList_toLine, ← Chars.flatMap_append_singleton c (by simpa using h), List.flatMap_map]

theorem ofLine_singleton (c : Char) (line : String) :
    ofLine (.singleton c) line =
      (Chars.splitBy (· == c) ((Chars.dropSuffix? [c] line.toList).getD line.toList)).map
        String.ofList := by
  have hsep : String.singleton c ≠ "" := by simp
  rw [ofLine, if_neg hsep, Text.splitOn, Text.dropSuffix?, String.toList_singleton,
    Chars.splitOn_singleton]
  cases Chars.dropSuffix? [c] line.toList with
  | none => rfl
  | some rest => rw [Option.map_some, Option.getD_some, Option.getD_some, String.toList_ofList]

/-- A row is read from its line. -/
theorem ofLine_toLine (h : row.Fits c) : ofLine (.singleton c) (row.toLine (.singleton c)) = row := by
  have hcells : ∀ cs ∈ row.map String.toList, c ∉ cs :=
    List.forall_mem_map.2 fun cell hcell => (h.2 cell hcell).1
  have hline := toList_toLine_of_ne_nil c h.1
  rw [ofLine_singleton, Chars.dropSuffix?_eq_some_iff.2 hline, Option.getD_some,
    Chars.splitBy_join_of_forall (by simpa using h.1) hcells, Text.map_ofList_map_toList]

theorem feed_notMem_toLine (hc : c ≠ '\n') (h : row.Fits c) :
    '\n' ∉ (row.toLine (.singleton c)).toList := by
  rw [toList_toLine, List.mem_flatMap]
  rintro ⟨cell, hcell, hfeed⟩
  rcases List.mem_append.1 hfeed with hfeed | hfeed
  · exact (h.2 cell hcell).2 hfeed
  · exact hc (List.mem_singleton.1 hfeed).symm

/-- A line that was written is not empty, does not end with a carriage return and is not blank. -/
theorem toLine_ends (hc : Chars.isBlank c = false) (h : row ≠ []) :
    (row.toLine (.singleton c)).toList ≠ [] ∧ ¬['\r'] <:+ (row.toLine (.singleton c)).toList ∧
      Text.isBlank (row.toLine (.singleton c)) = false := by
  rw [Text.isBlank, toList_toLine_of_ne_nil c h]
  refine ⟨by simp, fun hsuffix => ?_, ?_⟩
  · have hlast : '\r' = c := by simpa using hsuffix.getLast (by simp)
    rw [← hlast] at hc
    exact absurd hc (by decide)
  · simp [Chars.allBlank, hc]

/-- The rows that are read from lines can be told from their lines. -/
theorem fits_of_mem_rowsOf {text : String} (h : row ∈ Table.rowsOf (.singleton c) text) :
    row.Fits c := by
  obtain ⟨line, hline, rfl⟩ := List.mem_map.1 h
  have hfeed : '\n' ∉ line.toList := Text.feed_notMem_of_mem_lines (List.mem_filter.1 hline).1
  rw [ofLine_singleton]
  -- What is cut into cells is the line or a part at its start.
  have hpart : ∀ d ∈ (Chars.dropSuffix? [c] line.toList).getD line.toList, d ∈ line.toList := by
    cases hrest : Chars.dropSuffix? [c] line.toList with
    | none => exact fun d hd => hd
    | some rest =>
      rw [Chars.dropSuffix?_eq_some_iff.1 hrest]
      exact fun d hd => List.mem_append_left _ hd
  refine ⟨by simpa using Chars.splitBy_ne_nil _ _, fun cell hcell => ?_⟩
  obtain ⟨cs, hcs, rfl⟩ := List.mem_map.1 hcell
  rw [String.toList_ofList]
  have hpiece := Chars.of_mem_splitBy hcs
  exact ⟨fun hsep => by simpa using (hpiece c hsep).2, fun hd => hfeed (hpart _ (hpiece _ hd).1)⟩

end Row

/-! ## Tables -/

namespace Table

variable {c : Char}

@[simp] theorem rows_ofCsv (separator text : String) :
    (ofCsv separator text).rows = rowsOf separator text := rfl

/-- Rows are read from their lines. -/
theorem rowsOf_linesOf (hc : Chars.isBlank c = false) {rows : List Row}
    (h : ∀ row ∈ rows, row.Fits c) :
    rowsOf (.singleton c) (linesOf (.singleton c) rows) = rows := by
  have hne : c ≠ '\n' := by
    rintro rfl
    exact absurd hc (by decide)
  have hends := fun row hrow => Row.toLine_ends hc (h row hrow).1
  have hlines : Text.lines (linesOf (.singleton c) rows) = rows.map (Row.toLine (.singleton c)) := by
    refine Text.lines_join (List.forall_mem_map.2 fun row hrow => ?_)
      (List.forall_mem_map.2 fun row hrow => ?_)
    · exact Row.feed_notMem_toLine hne (h row hrow)
    · exact ⟨(hends row hrow).1, (hends row hrow).2.1⟩
  have hfilled : ∀ line ∈ rows.map (Row.toLine (.singleton c)), (!Text.isBlank line) = true :=
    List.forall_mem_map.2 fun row hrow => by rw [(hends row hrow).2.2, Bool.not_false]
  rw [rowsOf, hlines, List.filter_eq_self.2 hfilled, List.map_map]
  calc
    _ = rows.map id := List.map_congr_left fun row hrow => Row.ofLine_toLine (h row hrow)
    _ = rows := List.map_id rows

/-- **The tables that come back.** Let the separator be a character that is not blank. The rows of a
table are read from what is written of it exactly if all of them can be told from their lines. So
rows that were read from any text come back when they are written and read again. -/
theorem reads_back_iff (hc : Chars.isBlank c = false) :
    (∀ t : Table, (ofCsv (.singleton c) (t.toCsv (.singleton c))).rows = t.rows ↔
      ∀ row ∈ t.rows, row.Fits c) ∧
    ∀ text, (ofCsv (.singleton c) ((ofCsv (.singleton c) text).toCsv (.singleton c))).rows =
      (ofCsv (.singleton c) text).rows := by
  refine ⟨fun t => ?_, fun text => ?_⟩
  · rw [rows_ofCsv, toCsv]
    refine ⟨fun hback row hrow => ?_, rowsOf_linesOf hc⟩
    rw [← hback] at hrow
    exact Row.fits_of_mem_rowsOf hrow
  · rw [rows_ofCsv, rows_ofCsv, toCsv, rows_ofCsv]
    exact rowsOf_linesOf hc fun row => Row.fits_of_mem_rowsOf

end Table

/-! ## A table with empty cells -/

namespace EmptyCells

/-- Cells that are empty or blank, and one that ends with a carriage return. -/
def rows : List Row := [["", " "], [""], ["a\r", "", ""]]

/-- The rows come back, each with its empty cells. -/
theorem reads_back_rows : Chars.isBlank ';' = false ∧ (∀ row ∈ rows, row.Fits ';') ∧
    Table.linesOf ";" rows = "; ;\n;\na\r;;;" ∧ Table.rowsOf ";" "; ;\n;\na\r;;;" = rows := by
  have hc : Chars.isBlank ';' = false := by decide
  have hfits : ∀ row ∈ rows, row.Fits ';' := by decide +kernel
  have hlines : Table.linesOf ";" rows = "; ;\n;\na\r;;;" := by decide +kernel
  have hback := ((Table.reads_back_iff hc).1 (.ofRows rows)).2 hfits
  exact ⟨hc, hfits, hlines, hlines ▸ hback⟩

end EmptyCells

end HardwareWatch
