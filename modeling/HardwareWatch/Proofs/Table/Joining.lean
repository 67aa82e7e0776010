import HardwareWatch.Connector.Derived
import Mathlib.Data.List.Induction

/-!
# Joined tables

A join finds the right rows of a key in an index. The plain way to join two tables goes through all
right rows for every left row. Both give the same rows in the same order, however often a key occurs
on either side, and whatever rows are too narrow to have one.

* `TableJoin.nestedLoop` is the plain way.
* `TableJoin.get?_indexRow` says what a row does to the index, `TableJoin.get?_index` what the index
  of all rows has under a key: the rows with it, in their order.
* `TableJoin.joins_by_nestedLoop` says that a join gives the rows of the plain way.
-/

namespace HardwareWatch

namespace TableJoin

variable (j : TableJoin)

/-! ## Nested loops -/

/-- Whether two keys are the same. For keys of the caseless type they are so in lower case. -/
def sameKey (key key' : String) : Bool :=
  if j.keyType.any (Text.sameIgnoringCase · caselessKeyType) then
    Text.lowercase key == Text.lowercase key'
  else key == key'

/-- Whether a left and a right row have the same key. A row that is too narrow for its key column
meets no other. -/
def meets (row other : Row) : Bool :=
  row[j.leftKeyColumn - 1]?.any fun key => other[j.rightKeyColumn - 1]?.any (j.sameKey key)

/-- A left row with each right row that it meets behind it, in order, or else with the cells of the
default line, where there is one. A left row without the key column is left out. -/
def nestedRow (right : List Row) (row : Row) : List Row :=
  if row.length < j.leftKeyColumn then []
  else if right.any (j.meets row) then (right.filter (j.meets row)).map (row ++ ·)
  else (j.defaultRightLine.map fun line => row ++ Row.ofLine cellSeparator line).toList

/-- The rows of all left rows, in order. -/
def nestedLoop (left right : List Row) : List Row := left.flatMap (j.nestedRow right)

/-! ## The index -/

/-- Whether a right row has a key. -/
def hasKey (key : String) (row : Row) : Bool := j.key? j.rightKeyColumn row == some key

theorem index_concat (right : List Row) (row : Row) :
    j.index (right ++ [row]) = j.indexRow (j.index right) row := List.foldl_append

/-- A row is put behind those of its key, and all else in the index stays as it is. -/
theorem get?_indexRow (index : NameMap (List Row)) (row : Row) (key : String) :
    (j.indexRow index row).get? key =
      if j.hasKey key row then some ((index.get? key).getD [] ++ [row]) else index.get? key := by
  rw [indexRow, hasKey]
  cases j.key? j.rightKeyColumn row with
  | none => rfl
  | some key' =>
    rw [NameMap.get?_insert]
    by_cases h : key' = key
    · simp [h]
    · simp [h]

/-- The index has the right rows of a key in their order, and no entry without rows. -/
theorem get?_index (right : List Row) (key : String) :
    (j.index right).get? key =
      if right.any (j.hasKey key) then some (right.filter (j.hasKey key)) else none := by
  induction right using List.reverseRecOn with
  | nil => rfl
  | append_singleton right row ih =>
    rw [index_concat, get?_indexRow, ih]
    by_cases hrow : j.hasKey key row = true
    · by_cases hany : right.any (j.hasKey key) = true
      · simp [hrow, hany]
      · have hnone : right.filter (j.hasKey key) = [] := by simpa using hany
        simp [hrow, hany, hnone]
    · simp [hrow]

/-! ## Row by row -/

variable {j}

theorem sameKey_eq (key key' : String) :
    j.sameKey key key' = (some (j.keyForm key') == some (j.keyForm key)) := by
  rw [sameKey, keyForm, keyForm]
  split
  · exact Bool.beq_comm
  · exact Bool.beq_comm

/-- A right row meets a left row if it has its key. -/
theorem meets_eq {row : Row} {key : String} (h : row[j.leftKeyColumn - 1]? = some key) :
    j.meets row = j.hasKey (j.keyForm key) := by
  funext other
  rw [meets, h, hasKey, key?, Option.any_some]
  cases other[j.rightKeyColumn - 1]? with
  | none => rfl
  | some key' => exact sameKey_eq key key'

/-- A left row that is looked up in the index becomes the rows of the loop over the right rows. -/
theorem joinRow_index (hleft : 1 ≤ j.leftKeyColumn) (right : List Row) (row : Row) :
    j.joinRow (j.index right) row = j.nestedRow right row := by
  rw [joinRow, key?, nestedRow]
  cases hkey : row[j.leftKeyColumn - 1]? with
  | none =>
    have hnarrow : row.length ≤ j.leftKeyColumn - 1 := List.getElem?_eq_none_iff.1 hkey
    rw [if_pos (by omega)]
    rfl
  | some key =>
    obtain ⟨hwide, -⟩ := List.getElem?_eq_some_iff.1 hkey
    rw [if_neg (by omega), meets_eq hkey, Option.map_some]
    dsimp only
    rw [partners, get?_index]
    by_cases hany : right.any (j.hasKey (j.keyForm key)) = true
    · rw [if_pos hany, if_pos hany]
    · rw [if_neg hany, if_neg hany]
      cases j.defaultRightLine with
      | none => rfl
      | some line => rfl

/-- **A join gives the rows of the nested loops**, if its columns count from one. So does the source
whose tables are there. -/
theorem joins_by_nestedLoop (hleft : 1 ≤ j.leftKeyColumn) (hright : 1 ≤ j.rightKeyColumn)
    (left right : Table) :
    j.join left right = .ofRows (j.nestedLoop left.rows right.rows) ∧
    ∀ ns, Table.lookup j.leftTable ns = some left → Table.lookup j.rightTable ns = some right →
      (SourceKind.tableJoin j).derive ns = .ofRows (j.nestedLoop left.rows right.rows) := by
  have hjoin : j.join left right = .ofRows (j.nestedLoop left.rows right.rows) := by
    rw [join, if_neg (by omega)]
    dsimp only
    rw [funext (joinRow_index hleft right.rows), nestedLoop]
  refine ⟨hjoin, fun ns hl hr => ?_⟩
  rw [SourceKind.derive, hl, hr]
  exact hjoin

end TableJoin

/-! ## Disks and their states -/

namespace DiskStates

/-- Disks, one of them twice, and one without a name. -/
def disks : Table := .ofRows [["HGST", "Disk0"], ["WD", "disk1"], ["WD"], ["HGST", "disk2"]]

/-- States of disks by their names, two of one disk, and one of none. -/
def states : Table := .ofRows [["disk0", "ok"], ["disk1", "ok"], [], ["DISK0", "failed"]]

/-- The disks with their states. -/
def join : TableJoin :=
  ⟨"$\x7bsource::disks\x7d", "$\x7bsource::states\x7d", 2, 1, some "none;unknown", some "WBEM"⟩

/-- The tables by source. -/
def tables : Namespace := .ofList [("disks", disks), ("states", states)]

/-- The disks are joined with their states by the nested loops. -/
theorem joins_disks_by_nestedLoop : 1 ≤ join.leftKeyColumn ∧ 1 ≤ join.rightKeyColumn ∧
    Table.lookup join.leftTable tables = some disks ∧
    Table.lookup join.rightTable tables = some states ∧
    (SourceKind.tableJoin join).derive tables = .ofRows
      [["HGST", "Disk0", "disk0", "ok"], ["HGST", "Disk0", "DISK0", "failed"],
        ["WD", "disk1", "disk1", "ok"], ["HGST", "disk2", "none", "unknown"]] := by
  have hleft : Table.lookup join.leftTable tables = some disks := by decide +kernel
  have hright : Table.lookup join.rightTable tables = some states := by decide +kernel
  have hrows : join.nestedLoop disks.rows states.rows =
      [["HGST", "Disk0", "disk0", "ok"], ["HGST", "Disk0", "DISK0", "failed"],
        ["WD", "disk1", "disk1", "ok"], ["HGST", "disk2", "none", "unknown"]] := by
    decide +kernel
  have hcolumns : 1 ≤ join.leftKeyColumn ∧ 1 ≤ join.rightKeyColumn := by decide
  have hjoin := (TableJoin.joins_by_nestedLoop hcolumns.1 hcolumns.2 disks states).2 tables hleft
    hright
  exact ⟨hcolumns.1, hcolumns.2, hleft, hright, hrows ▸ hjoin⟩

end DiskStates

end HardwareWatch
