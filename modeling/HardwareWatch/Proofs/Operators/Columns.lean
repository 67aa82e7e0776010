import HardwareWatch.Operator.Apply
import Mathlib.Data.List.Forall2

/-!
# Operators on rows and on one column

Most operators work on the cell in one column and may read the other cells of the row. The cell may
become several, since a text that is put in is cut at its separators, or since a copy is put behind
it. The cells before the column and behind it stay.

* `Operator.column?` is the column that an operator works on.
* `Row.Rewritten` says that one or more cells stand in the place of one, `Row.AlteredAt` what an
  operator on a column may make of a row.
* `Table.OnColumn` says that a change of tables is an idle one or alters every row at the column.
  `Operator.onColumn_apply` has one case for each operator.
* `Operator.alters_column` says what this means for the rows of a table.

Most operators also look at one row at a time: what becomes of a row does not depend on the rows
around it, and the rows stay in their order. Only the operators that read the table as one text look
at the table as a whole.

* `Table.RowByRow` says that a change of tables comes to a function of rows, which may drop a row.
  `Table.RowByRow.rows_eq` finds the function: it is what becomes of the table of that row alone.
* `Operator.isRowwise` is false of the operators that read the table as one text.
* `Operator.takes_row_by_row` says what follows for operators and chains of them.
-/

namespace HardwareWatch

namespace Row

/-- Some cells, one at least, stand in the place of the cell with a position. -/
def Rewritten (position : Nat) (row row' : Row) : Prop :=
  ∃ cells, cells ≠ [] ∧ row' = row.take position ++ cells ++ row.drop (position + 1)

/-- What an operator on column `n` may make of a row. In a row that has the column, cells stand in
the place of its cell. Any other row stays, except that cells may be added at its end if the column
is the one behind the last and the operator `grows` rows. -/
def AlteredAt (n : Nat) (grows : Bool) (row row' : Row) : Prop :=
  if n ≤ row.length then ∃ cells, cells ≠ [] ∧ row' = row.take (n - 1) ++ cells ++ row.drop n
  else row' = row ∨ grows ∧ n = row.length + 1 ∧ ∃ cells, row' = row ++ cells

variable {row row' : Row} {position n : Nat} {grows : Bool} {cell text : String}

theorem ofLine_ne_nil (separator line : String) : ofLine separator line ≠ [] := by
  unfold ofLine
  split
  · simp
  · rw [Text.splitOn, ne_eq, List.map_eq_nil_iff]
    exact Chars.splitFrom_ne_nil _ _ _

theorem set_of_getElem? (h : row[position]? = some cell) : row.set position cell = row := by
  obtain ⟨hlt, rfl⟩ := List.getElem?_eq_some_iff.1 h
  exact List.set_getElem_self hlt

theorem rewritten_self (h : row[position]? = some cell) : Rewritten position row row := by
  obtain ⟨hlt, hcell⟩ := List.getElem?_eq_some_iff.1 h
  exact ⟨[cell], by simp, by simp [← hcell]⟩

theorem rewritten_set (h : row[position]? = some cell) :
    Rewritten position row (row.set position text) := by
  obtain ⟨hlt, -⟩ := List.getElem?_eq_some_iff.1 h
  exact ⟨[text], by simp, by simp [List.set_eq_take_append_cons_drop, hlt]⟩

theorem rewritten_put (h : row[position]? = some cell) :
    Rewritten position row (row.put position text) := by
  unfold put
  split
  · exact ⟨_, ofLine_ne_nil _ _, rfl⟩
  · exact rewritten_set h

theorem rewritten_copy (h : row[position]? = some cell) :
    Rewritten position row (row.take position ++ cell :: row.drop position) := by
  obtain ⟨hlt, hcell⟩ := List.getElem?_eq_some_iff.1 h
  exact ⟨[cell, cell], by simp, by rw [List.drop_eq_getElem_cons hlt, hcell]; simp⟩

/-- The row that is made longer by an empty cell, with a text put there. -/
theorem put_behind (row : Row) (text : String) :
    ∃ cells, put (row ++ [""]) row.length text = row ++ cells := by
  unfold put
  split
  · exact ⟨ofLine cellSeparator text, by simp⟩
  · exact ⟨[text], by simp⟩

theorem alteredAt_of_rewritten (hn : 0 < n) (h : row[n - 1]? = some cell)
    (hr : Rewritten (n - 1) row row') : AlteredAt n grows row row' := by
  obtain ⟨hlt, -⟩ := List.getElem?_eq_some_iff.1 h
  obtain ⟨cells, hne, rfl⟩ := hr
  rw [AlteredAt, if_pos (by omega)]
  exact ⟨cells, hne, by rw [show n - 1 + 1 = n by omega]⟩

theorem alteredAt_self_of_none (hn : 0 < n) (h : row[n - 1]? = none) :
    AlteredAt n grows row row := by
  rw [List.getElem?_eq_none_iff] at h
  rw [AlteredAt, if_neg (by omega)]
  exact .inl rfl

theorem alteredAt_self (hn : 0 < n) (row : Row) : AlteredAt n grows row row := by
  cases h : row[n - 1]? with
  | none => exact alteredAt_self_of_none hn h
  | some cell => exact alteredAt_of_rewritten hn h (rewritten_self h)

/-- A value at an end of the cell in a column, or behind the last cell. -/
theorem alteredAt_attachValue (hn : 0 < n) (side : Side) (value : String) (row : Row) :
    AlteredAt n true row (attachValue side (n - 1) value row) := by
  unfold attachValue
  cases h : row[n - 1]? with
  | some cell => exact alteredAt_of_rewritten hn h (rewritten_put h)
  | none =>
    dsimp only
    split
    · rename_i hlast
      obtain ⟨cells, hcells⟩ := put_behind row value
      rw [AlteredAt, if_neg (by omega), hlast, hcells]
      exact .inr ⟨rfl, by omega, cells, rfl⟩
    · exact alteredAt_self_of_none hn h

end Row

namespace Table

open Row

/-- The change of tables is an idle one, or it makes of every row what an operator on column `n`
may make of it. -/
def OnColumn (n : Nat) (grows : Bool) (g : Table → Table) : Prop :=
  (∀ t, g t = t) ∨
    0 < n ∧ ∃ f : Row → Row, (∀ t, g t = t.mapRows f) ∧ ∀ row, AlteredAt n grows row (f row)

variable {n : Nat} {grows : Bool} {f : Nat → Row → String → Row} {g : Table → Table}

theorem onColumn_ite {c : Prop} [Decidable c] (h : OnColumn n grows g) :
    OnColumn n grows fun t => if c then t else g t := by
  by_cases hc : c
  · exact .inl fun t => if_pos hc
  · simpa only [if_neg hc] using h

theorem onColumn_mapColumn (hf : ∀ position row cell, row[position]? = some cell →
    Rewritten position row (f position row cell)) : OnColumn n grows (mapColumn n f) := by
  by_cases hn : n = 0
  · exact .inl fun t => by rw [mapColumn, if_pos hn]
  · refine .inr ⟨by omega, _, fun t => by rw [mapColumn, if_neg hn], fun row => ?_⟩
    cases h : row[n - 1]? with
    | none => exact alteredAt_self_of_none (by omega) h
    | some cell => exact alteredAt_of_rewritten (by omega) h (hf _ _ _ h)

/-- Where every cell of a column becomes one cell, the rows are changed at that cell. -/
theorem rows_mapColumn {f : Nat → Row → String → Row} {g : String → String}
    (hf : ∀ position row cell, row[position]? = some cell →
      f position row cell = row.set position (g cell)) (position : Nat) (t : Table) :
    (mapColumn (position + 1) f t).rows = t.rows.map (·.modify position g) := by
  rw [mapColumn, if_neg (Nat.succ_ne_zero position)]
  refine List.map_congr_left fun row _ => ?_
  rw [List.modify_eq_set_getElem?, Nat.add_sub_cancel]
  cases h : row[position]? with
  | none => rfl
  | some cell => exact hf position row cell h

end Table

/-! ## The operators -/

namespace Operator

open Row Table

/-- The column that the operator works on, if it works on one. -/
def column? : Operator → Option Nat
  | arithmetic _ column _ | bitwise _ column _ | substring column _ _ | translate column _
  | arrayTranslate column _ _ _ | duplicateColumn column | concat _ column _ | replace column _ _
  | extract column _ _ | pathProperty column _ | convert column _ | perBitTranslation column _ _ =>
    some column
  | lines .. | keepColumns .. | fromJson .. | fromXml .. | awk .. => none

/-- Whether the operator may put cells behind the last one of a row. -/
def growsRows : Operator → Bool
  | concat .. => true
  | _ => false

variable {ctx : OperatorContext} {n : Nat} {grows : Bool}

theorem onColumn_arithmetic (op : Arithmetic) (value : String) :
    OnColumn n grows (op.onColumn n value) := by
  unfold Arithmetic.onColumn
  cases Arithmetic.operand? value with
  | none => exact .inl fun _ => rfl
  | some operand =>
    refine onColumn_mapColumn fun position row cell h => ?_
    extract_lets result
    cases result with
    | some x => exact rewritten_set h
    | none => exact rewritten_self h

theorem onColumn_bitwise (op : Bitwise) (value : String) :
    OnColumn n grows (op.onColumn n value) := by
  unfold Bitwise.onColumn
  dsimp only
  refine onColumn_mapColumn fun position row cell h => ?_
  split
  · exact rewritten_set h
  · exact rewritten_self h

theorem onColumn_substring (start length : String) :
    OnColumn n grows (substringColumn n start length) := by
  unfold substringColumn
  dsimp only
  refine onColumn_mapColumn fun position row cell h => ?_
  split
  · exact rewritten_set h
  · exact rewritten_self h

theorem onColumn_translate (ref : TranslationRef) :
    OnColumn n grows (translateColumn ctx n ref) := by
  unfold translateColumn
  cases ctx.translation? ref with
  | none => exact .inl fun _ => rfl
  | some table =>
    refine onColumn_mapColumn fun position row cell h => ?_
    split
    · exact rewritten_put h
    · exact rewritten_self h

theorem onColumn_arrayTranslate (ref : TranslationRef) (separator joiner : String) :
    OnColumn n grows (translateArrayColumn ctx n ref separator joiner) := by
  unfold translateArrayColumn
  cases ctx.translation? ref with
  | none => exact .inl fun _ => rfl
  | some table =>
    exact onColumn_ite (onColumn_mapColumn fun _ _ _ h => rewritten_set h)

theorem onColumn_duplicateColumn : OnColumn n grows (HardwareWatch.duplicateColumn n) :=
  onColumn_mapColumn fun _ _ _ h => rewritten_copy h

theorem onColumn_concat (tables : Namespace) (side : Side) (value : String) :
    OnColumn n true (concatColumn tables side n value) := by
  unfold concatColumn
  by_cases hn : n = 0
  · exact .inl fun t => if_pos hn
  · refine .inr ⟨by omega, _, fun t => if_neg hn, fun row => ?_⟩
    split
    · exact alteredAt_attachValue (by omega) side _ row
    · exact alteredAt_self (by omega) row

theorem onColumn_replace (old new : String) : OnColumn n grows (replaceInColumn n old new) := by
  unfold replaceInColumn
  dsimp only
  refine onColumn_mapColumn fun position row cell h => ?_
  split
  · split
    · exact rewritten_self h
    · exact rewritten_put h
  · exact rewritten_self h

theorem onColumn_extract (field : Nat) (separators : String) :
    OnColumn n grows (extractColumn n field separators) := by
  unfold extractColumn
  exact onColumn_ite (onColumn_mapColumn fun _ _ _ h => rewritten_set h)

theorem onColumn_pathProperty (property : String) :
    OnColumn n grows (pathPropertyColumn n property) := by
  unfold pathPropertyColumn
  refine onColumn_ite (onColumn_mapColumn fun position row cell h => ?_)
  split
  · exact rewritten_set h
  · exact rewritten_self h

theorem onColumn_convert (conversion : Conversion) :
    OnColumn n grows (convertColumn n conversion) := by
  refine onColumn_mapColumn fun position row cell h => ?_
  split
  · exact rewritten_set h
  · exact rewritten_self h

theorem onColumn_perBitTranslation (bits : String) (ref : TranslationRef) :
    OnColumn n grows (translateBitsColumn ctx n bits ref) := by
  unfold translateBitsColumn
  cases bitList? bits with
  | none => exact .inl fun _ => rfl
  | some bits =>
    cases ctx.translation? ref with
    | none => exact .inl fun _ => rfl
    | some table =>
      refine onColumn_mapColumn fun position row cell h => ?_
      split
      · exact rewritten_set h
      · exact rewritten_self h

theorem onColumn_apply (ctx : OperatorContext) {op : Operator} (h : op.column? = some n) :
    OnColumn n op.growsRows (op.apply ctx) := by
  cases op <;> cases h
  case arithmetic op value => exact onColumn_arithmetic op value
  case bitwise op value => exact onColumn_bitwise op value
  case substring start length => exact onColumn_substring start length
  case translate ref => exact onColumn_translate ref
  case arrayTranslate ref separator joiner => exact onColumn_arrayTranslate ref _ _
  case duplicateColumn => exact onColumn_duplicateColumn
  case concat side value => exact onColumn_concat ctx.tables side value
  case replace old new => exact onColumn_replace old new
  case extract field separators => exact onColumn_extract field separators
  case pathProperty property => exact onColumn_pathProperty property
  case convert conversion => exact onColumn_convert conversion
  case perBitTranslation bits ref => exact onColumn_perBitTranslation bits ref

/-- **An operator on a column leaves the other cells alone.** The table keeps its number of rows.
In a row that has the column, the cells before and behind it stay and one or more cells stand in
its place. A row that is too short stays, except that a value can be put behind its last cell. There
is no column zero: an operator on it gives the table back. -/
theorem alters_column (ctx : OperatorContext) (op : Operator) (n : Nat) (h : op.column? = some n)
    (t : Table) :
    (op.apply ctx t).rows.length = t.rows.length ∧ (n = 0 → op.apply ctx t = t) ∧
      (0 < n → List.Forall₂ (AlteredAt n op.growsRows) t.rows (op.apply ctx t).rows) := by
  obtain hidle | ⟨hn, f, hf, halt⟩ := onColumn_apply ctx h
  · rw [hidle]
    exact ⟨rfl, fun _ => rfl, fun hn => List.forall₂_same.2 fun row _ => alteredAt_self hn row⟩
  · rw [hf]
    refine ⟨List.length_map .., fun hzero => absurd hn (by omega), fun _ => ?_⟩
    exact List.forall₂_map_right_iff.2 (List.forall₂_same.2 fun row _ => halt row)

end Operator

/-! ## A column that becomes two -/

namespace SizeWithUnit

/-- A row with the column, and a row without it. -/
def table : Table := .ofRows [["disk", "20 GB", "ok"], ["fan"]]

/-- The blank in the second column becomes a separator. -/
def operator : Operator := .replace 2 " " ";"

/-- What an operator may read where there is nothing. -/
def context : OperatorContext := ⟨.empty, .empty, none⟩

theorem alters_second_column :
    operator.column? = some 2 ∧
      (operator.apply context table).rows = [["disk", "20", "GB", "ok"], ["fan"]] ∧
      List.Forall₂ (Row.AlteredAt 2 false) table.rows (operator.apply context table).rows :=
  ⟨rfl, by decide, (Operator.alters_column context operator 2 rfl table).2.2 (by decide)⟩

end SizeWithUnit

/-! ## Row by row -/

namespace Table

/-- The change of tables takes row by row: every row comes to at most one row, whatever the others
are and whatever the raw text is. -/
def RowByRow (g : Table → Table) : Prop :=
  ∃ f : Row → Option Row, ∀ t, (g t).rows = t.rows.filterMap f

/-- What a change of tables makes of a row alone. -/
def rowImage? (g : Table → Table) (row : Row) : Option Row := (g (.ofRows [row])).rows.head?

variable {g g' : Table → Table}

/-- What becomes of a row is what becomes of it alone. -/
theorem RowByRow.rows_eq (h : RowByRow g) (t : Table) :
    (g t).rows = t.rows.filterMap (rowImage? g) := by
  obtain ⟨f, hf⟩ := h
  have himage : rowImage? g = f := by
    funext row
    rw [rowImage?, hf]
    cases hrow : f row <;> simp [ofRows, hrow]
  rw [himage, hf]

theorem RowByRow.append (h : RowByRow g) (a b : List Row) (raw raw₁ raw₂ : Option String) :
    (g ⟨a ++ b, raw⟩).rows = (g ⟨a, raw₁⟩).rows ++ (g ⟨b, raw₂⟩).rows := by
  simp only [h.rows_eq, List.filterMap_append]

theorem rowByRow_self : RowByRow fun t => t := ⟨some, fun t => by simp⟩

theorem rowByRow_mapRows (f : Row → Row) : RowByRow (mapRows f) :=
  ⟨fun row => some (f row), fun t => by simp [mapRows, ofRows, List.filterMap_eq_map']⟩

theorem rowByRow_filter (p : Row → Bool) : RowByRow fun t => .ofRows (t.rows.filter p) :=
  ⟨Option.guard p, fun t => by simp [ofRows, List.filterMap_eq_filter]⟩

theorem RowByRow.comp (h' : RowByRow g') (h : RowByRow g) : RowByRow fun t => g' (g t) := by
  obtain ⟨f, hf⟩ := h
  obtain ⟨f', hf'⟩ := h'
  exact ⟨fun row => (f row).bind f', fun t => by rw [hf', hf, List.filterMap_filterMap]⟩

theorem OnColumn.rowByRow {n : Nat} {grows : Bool} (h : OnColumn n grows g) : RowByRow g := by
  obtain hidle | ⟨-, f, hf, -⟩ := h
  · rw [show g = fun t => t from funext hidle]
    exact rowByRow_self
  · rw [show g = mapRows f from funext hf]
    exact rowByRow_mapRows f

end Table

namespace Operator

open Table

/-- Whether the operator looks at one row at a time. The others read the table as one text. -/
def isRowwise : Operator → Bool
  | fromJson .. | fromXml .. | awk .. => false
  | _ => true

/-- What the operator makes of a row. -/
def onRow? (ctx : OperatorContext) (op : Operator) (row : Row) : Option Row :=
  rowImage? (op.apply ctx) row

variable {ctx : OperatorContext}

theorem rowByRow_filterLines (filter : LineFilter) (column : Option Nat)
    (pattern values : Option String) : RowByRow (filterLines filter column pattern values) := by
  unfold filterLines
  cases LineTest.of? pattern values with
  | none => exact rowByRow_self
  | some test =>
    by_cases hc : column = some 0
    · simp only [if_pos hc]
      exact rowByRow_self
    · simp only [if_neg hc]
      exact rowByRow_filter _

theorem rowByRow_selectColumns (columns : String) : RowByRow (selectColumns columns) := by
  unfold selectColumns
  cases columnList? columns with
  | none => exact rowByRow_self
  | some ns => exact (rowByRow_mapRows _).comp (rowByRow_filter _)

theorem rowByRow_apply (ctx : OperatorContext) {op : Operator} (h : op.isRowwise) :
    RowByRow (op.apply ctx) := by
  cases op
  case lines filter column pattern values => exact rowByRow_filterLines filter column pattern values
  case keepColumns columns => exact rowByRow_selectColumns columns
  case fromJson | fromXml | awk => cases h
  all_goals exact (onColumn_apply ctx rfl).rowByRow

/-- A chain makes of a row what its operators make of it one after the other, as long as one does
not drop it. -/
theorem applyAll_rows (ctx : OperatorContext) {ops : List Operator} (h : ∀ op ∈ ops, op.isRowwise)
    (t : Table) :
    (applyAll ctx ops t).rows =
      t.rows.filterMap fun row => ops.foldlM (fun row op => op.onRow? ctx row) row := by
  induction ops generalizing t with
  | nil => exact (List.filterMap_some ..).symm
  | cons op ops ih =>
    rw [List.forall_mem_cons] at h
    calc (applyAll ctx (op :: ops) t).rows
        = (applyAll ctx ops (op.apply ctx t)).rows := rfl
      _ = _ := by
        rw [ih h.2, (rowByRow_apply ctx h.1).rows_eq, List.filterMap_filterMap]
        rfl

theorem rowByRow_applyAll (ctx : OperatorContext) {ops : List Operator}
    (h : ∀ op ∈ ops, op.isRowwise) : RowByRow (applyAll ctx ops) :=
  ⟨_, applyAll_rows ctx h⟩

/-- **Operators take row by row.** Of all operators but those that read the table as one text: the
rows that an operator makes of some rows followed by others are what it makes of the first followed
by what it makes of the others, and the same holds for a chain of such operators. Every row comes
to at most one row, in the same order, by what the operators make of that row alone one after the
other. -/
theorem takes_row_by_row (ctx : OperatorContext) (ops : List Operator)
    (h : ∀ op ∈ ops, op.isRowwise) :
    (∀ op ∈ ops, ∀ (a b : List Row) (raw raw₁ raw₂ : Option String),
      (op.apply ctx ⟨a ++ b, raw⟩).rows =
        (op.apply ctx ⟨a, raw₁⟩).rows ++ (op.apply ctx ⟨b, raw₂⟩).rows) ∧
      (∀ (a b : List Row) (raw raw₁ raw₂ : Option String),
        (applyAll ctx ops ⟨a ++ b, raw⟩).rows =
          (applyAll ctx ops ⟨a, raw₁⟩).rows ++ (applyAll ctx ops ⟨b, raw₂⟩).rows) ∧
      ∀ t, (applyAll ctx ops t).rows =
        t.rows.filterMap fun row => ops.foldlM (fun row op => op.onRow? ctx row) row :=
  ⟨fun _ hop => (rowByRow_apply ctx (h _ hop)).append, (rowByRow_applyAll ctx h).append,
    applyAll_rows ctx h⟩

end Operator

/-! ## A chain of three operators -/

namespace DiskPaths

/-- The rows for disks, with a path for a name and without the unit of the size. -/
def chain : List Operator :=
  [.lines .keepOnly (some 1) none (some "disk"), .replace 3 "GB" "", .concat .prepend 2 "/dev/"]

/-- What an operator may read where there is nothing. -/
def context : OperatorContext := ⟨.empty, .empty, none⟩

theorem takes_disks_row_by_row :
    (∀ op ∈ chain, op.isRowwise) ∧
      (Operator.applyAll context chain
        (.ofRows [["disk", "sda", "20GB"], ["fan", "1"], ["disk", "sdb", "8GB"]])).rows =
          [["disk", "/dev/sda", "20"], ["disk", "/dev/sdb", "8"]] ∧
      ∀ (a b : List Row) (raw raw₁ raw₂ : Option String),
        (Operator.applyAll context chain ⟨a ++ b, raw⟩).rows =
          (Operator.applyAll context chain ⟨a, raw₁⟩).rows ++
            (Operator.applyAll context chain ⟨b, raw₂⟩).rows :=
  ⟨by decide, by decide +kernel, (Operator.takes_row_by_row context chain (by decide)).2.1⟩

end DiskPaths

end HardwareWatch
