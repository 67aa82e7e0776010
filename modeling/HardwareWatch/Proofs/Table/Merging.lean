import HardwareWatch.Connector.Template
import HardwareWatch.Connector.Derived
import HardwareWatch.Proofs.Table.RoundTrip
import Mathlib.Data.List.Basic
import Mathlib.Data.List.Flatten
import Mathlib.Tactic.Tauto

/-!
# The text of merged tables

Tables that are merged keep all their rows, and the raw texts of those that have one. The text of
the merged table is the raw text where there is any. So the rows of a table without raw text are not
told any more once they are merged with a raw text.

* `Table.texts` is the texts of tables, as far as they have one.
* `Table.told` is the tables whose texts are in that of the merged table (`Table.text_union`).
* `Table.text_union_eq_iff` says when these are all texts.
* `merged_text_iff` brings this to the two ways of merging, the union of tables and the list of the
  tables of all rows.
-/

namespace HardwareWatch

/-! ## Joined texts -/

namespace Chars

theorem join_append (sep : Chars) {xs ys : List Chars} (hxs : xs ≠ []) (hys : ys ≠ []) :
    join sep (xs ++ ys) = join sep xs ++ sep ++ join sep ys := by
  induction xs with
  | nil => exact absurd rfl hxs
  | cons x xs ih =>
    by_cases hxs : xs = []
    · subst hxs
      rw [List.singleton_append, join_cons_of_ne_nil _ _ hys]
      simp [join]
    · rw [List.cons_append, join_cons_of_ne_nil _ _ (List.append_ne_nil_of_left_ne_nil hxs ys),
        ih hxs, join_cons_of_ne_nil _ _ hxs]
      simp only [List.append_assoc]

/-- Joining joined lists is joining all that is in them, if none of them is empty. -/
theorem join_map_join (sep : Chars) {xss : List (List Chars)} (h : [] ∉ xss) :
    join sep (xss.map (join sep)) = join sep xss.flatten := by
  induction xss with
  | nil => rfl
  | cons xs xss ih =>
    have hxs : xs ≠ [] := fun he => h (he ▸ List.mem_cons_self)
    have hrest : [] ∉ xss := fun hmem => h (List.mem_cons_of_mem _ hmem)
    by_cases hxss : xss = []
    · simp [hxss, join]
    · have hflat : xss.flatten ≠ [] := by
        obtain ⟨ys, yss, rfl⟩ := List.exists_cons_of_ne_nil hxss
        rw [List.flatten_cons]
        exact List.append_ne_nil_of_left_ne_nil (fun he => hrest (he ▸ List.mem_cons_self)) _
      rw [List.map_cons, join_cons_of_ne_nil _ _ (by simpa using hxss), ih hrest,
        List.flatten_cons, join_append sep hxs hflat]

/-- What is left out of a list is missing from its texts when they are joined. -/
theorem eq_of_sublist_of_join_eq {c : Char} {xs ys : List Chars} (h : xs.Sublist ys) (hxs : xs ≠ [])
    (he : join [c] xs = join [c] ys) : xs = ys := by
  have hys : ys ≠ [] := fun hnil => hxs (List.sublist_nil.1 (hnil ▸ h))
  -- With a separator behind each text too, an empty one that is left out is missing as well.
  replace he : xs.flatMap (· ++ [c]) = ys.flatMap (· ++ [c]) := by
    rw [flatMap_append_singleton c hxs, flatMap_append_singleton c hys, he]
  clear hxs hys
  induction h with
  | slnil => rfl
  | cons y h ih =>
    have hle := (h.flatMap (· ++ [c])).length_le
    rw [he, List.flatMap_cons] at hle
    simp only [List.length_append, List.length_singleton] at hle
    omega
  | cons_cons y h ih =>
    rw [List.flatMap_cons, List.flatMap_cons] at he
    rw [ih (List.append_cancel_left he)]

end Chars

namespace Text

theorem join_inj_of_sublist {xs ys : List String} (h : xs.Sublist ys) (hxs : xs ≠ [])
    (he : join "\n" xs = join "\n" ys) : xs = ys := by
  have hsep : "\n".toList = ['\n'] := by decide +kernel
  rw [join, join, String.ofList_inj, hsep] at he
  have hchars := Chars.eq_of_sublist_of_join_eq (h.map _) (by simpa using hxs) he
  exact List.map_injective_iff.2 (fun _ _ => String.toList_inj.1) hchars

theorem join_cons_ne_empty (sep : String) {x : String} (h : x ≠ "") (xs : List String) :
    join sep (x :: xs) ≠ "" := by
  rw [Ne, ← String.toList_inj, toList_join, List.map_cons]
  have hx : x.toList ≠ [] := by simpa using h
  by_cases hxs : xs = []
  · simpa [hxs, Chars.join] using hx
  · rw [Chars.join_cons_of_ne_nil _ _ (by simpa using hxs)]
    simp [h]

theorem join_map_join (sep : String) {xss : List (List String)} (h : [] ∉ xss) :
    join sep (xss.map (join sep)) = join sep xss.flatten := by
  have hnil : [] ∉ xss.map (List.map String.toList) := by simpa using h
  rw [join, join, String.ofList_inj, List.map_flatten, ← Chars.join_map_join _ hnil, List.map_map,
    List.map_map]
  congr 1
  exact List.map_congr_left fun xs _ => toList_join sep xs

end Text

/-! ## Texts of tables -/

namespace Table

variable {t : Table} {tables : List Table}

/-- The texts of the tables that have one. -/
def texts (tables : List Table) : List String := (tables.map text).filter (· ≠ "")

/-- The tables with raw text. -/
def withRaw (tables : List Table) : List Table := tables.filter (·.rawText?.isSome)

/-- The tables that the text of a merged table tells: those with raw text, if there are any. -/
def told (tables : List Table) : List Table :=
  if withRaw tables = [] then tables else withRaw tables

theorem text_eq_of_rawText? {raw : String} (h : t.rawText? = some raw) :
    t.text = raw ∧ raw ≠ "" := by
  refine ⟨by rw [text, h, Option.getD_some], ?_⟩
  rw [rawText?, Option.filter_eq_some_iff] at h
  simpa using h.2

theorem text_eq_of_rawText?_eq_none (h : t.rawText? = none) :
    t.text = Text.join "\n" (t.rows.map (Row.toLine cellSeparator)) := by
  rw [text, h, Option.getD_none, toCsv, linesOf]

theorem toLine_ne_empty {row : Row} (h : row ≠ []) : row.toLine cellSeparator ≠ "" := by
  have hsep : cellSeparator = .singleton ';' := by decide +kernel
  rw [hsep, Ne, ← String.toList_inj, Row.toList_toLine_of_ne_nil ';' h]
  simp

theorem text_eq_empty_iff (h : [] ∉ t.rows) : t.text = "" ↔ t.rawText? = none ∧ t.rows = [] := by
  cases hraw : t.rawText? with
  | some raw =>
    obtain ⟨htext, hne⟩ := text_eq_of_rawText? hraw
    simp [htext, hne]
  | none =>
    rw [text_eq_of_rawText?_eq_none hraw]
    cases hrows : t.rows with
    | nil => simp [Text.join, Chars.join]
    | cons row rows =>
      have hrow : row ≠ [] := fun he => h (by rw [hrows, he]; exact List.mem_cons_self)
      simpa using Text.join_cons_ne_empty "\n" (toLine_ne_empty hrow) _

/-! ## Tables with raw text -/

theorem withRaw_eq_nil_iff : withRaw tables = [] ↔ ∀ t ∈ tables, t.rawText? = none := by
  simp [withRaw, List.filter_eq_nil_iff]

/-- The texts of the tables with raw text are their raw texts. -/
theorem texts_withRaw (tables : List Table) :
    texts (withRaw tables) = tables.filterMap rawText? := by
  induction tables with
  | nil => rfl
  | cons t tables ih =>
    rw [texts, withRaw] at ih ⊢
    cases hraw : t.rawText? with
    | none => simpa [hraw] using ih
    | some raw =>
      obtain ⟨htext, hne⟩ := text_eq_of_rawText? hraw
      simpa [hraw, htext, hne] using ih

theorem texts_withRaw_sublist (tables : List Table) :
    (texts (withRaw tables)).Sublist (texts tables) := (List.filter_sublist.map text).filter _

theorem texts_withRaw_eq_iff (tables : List Table) :
    texts (withRaw tables) = texts tables ↔ ∀ t ∈ tables, t.text ≠ "" → t.rawText?.isSome := by
  rw [← (texts_withRaw_sublist tables).length_eq, texts, texts, withRaw, List.filter_map,
    List.filter_map, List.length_map, List.length_map, List.filter_comm,
    List.length_filter_eq_length_iff]
  simp

theorem texts_withRaw_ne_nil (h : withRaw tables ≠ []) : texts (withRaw tables) ≠ [] := by
  rw [texts_withRaw, Ne, List.filterMap_eq_nil_iff, ← withRaw_eq_nil_iff]
  exact h

/-! ## Merged tables -/

/-- With raw texts, the text of merged tables is the raw texts. -/
theorem text_union_of_raw (h : withRaw tables ≠ []) :
    (union tables).text = Text.join "\n" (texts (withRaw tables)) := by
  obtain ⟨first, rest, hraws⟩ := List.exists_cons_of_ne_nil (texts_withRaw_ne_nil h)
  have hfirst : first ≠ "" := by
    have hmem : first ∈ texts (withRaw tables) := hraws ▸ List.mem_cons_self
    simpa using (List.mem_filter.1 hmem).2
  have hjoined : (union tables).rawText? = some (Text.join "\n" (first :: rest)) := by
    simp [union, rawText?, ← texts_withRaw, hraws, Text.join_cons_ne_empty "\n" hfirst rest]
  rw [hraws, (text_eq_of_rawText? hjoined).1]

/-- The lines of the rows. -/
def rowLines (t : Table) : List String := t.rows.map (Row.toLine cellSeparator)

theorem texts_eq_of_rows (hnone : ∀ t ∈ tables, t.rawText? = none)
    (h : ∀ t ∈ tables, [] ∉ t.rows) :
    texts tables = ((tables.map rowLines).filter (· ≠ [])).map (Text.join "\n") := by
  rw [texts, List.filter_map, List.filter_map, List.map_map]
  have hfilled : ∀ t ∈ tables, decide (t.text ≠ "") = decide (t.rowLines ≠ []) := by
    intro t ht
    rw [decide_eq_decide, Ne, text_eq_empty_iff (h t ht), rowLines, Ne, List.map_eq_nil_iff]
    simp [hnone t ht]
  calc
    _ = (tables.filter fun t => t.rowLines ≠ []).map text :=
      congrArg _ (List.filter_congr hfilled)
    _ = _ := List.map_congr_left fun t ht =>
      text_eq_of_rawText?_eq_none (hnone t (List.mem_filter.1 ht).1)

/-- Without raw texts, the text of merged tables is the texts of all of them. -/
theorem text_union_of_rows (hnone : ∀ t ∈ tables, t.rawText? = none)
    (h : ∀ t ∈ tables, [] ∉ t.rows) : (union tables).text = Text.join "\n" (texts tables) := by
  have hnil : tables.filterMap rawText? = [] := List.filterMap_eq_nil_iff.2 hnone
  have hraw : (union tables).rawText? = none := by simp [union, rawText?, hnil]
  have hempty : [] ∉ (tables.map rowLines).filter (· ≠ []) := by simp
  rw [texts_eq_of_rows hnone h, Text.join_map_join _ hempty, text_eq_of_rawText?_eq_none hraw]
  congr 1
  rw [List.flatten_filter_ne_nil, ← List.flatMap_def]
  exact List.map_flatMap ..

/-- **The text of merged tables** is the texts of those that are told in it. -/
theorem text_union (h : ∀ t ∈ tables, [] ∉ t.rows) :
    (union tables).text = Text.join "\n" (texts (told tables)) := by
  rw [told]
  by_cases hraw : withRaw tables = []
  · rw [if_pos hraw]
    exact text_union_of_rows (withRaw_eq_nil_iff.1 hraw) h
  · rw [if_neg hraw]
    exact text_union_of_raw hraw

/-- The text of merged tables is the texts of all of them exactly if none has raw text, or all that
have rows do. -/
theorem text_union_eq_iff (h : ∀ t ∈ tables, [] ∉ t.rows) :
    (union tables).text = Text.join "\n" (texts tables) ↔
      (∀ t ∈ tables, t.rawText? = none) ∨ ∀ t ∈ tables, t.rows ≠ [] → t.rawText?.isSome := by
  by_cases hraw : withRaw tables = []
  · have hnone := withRaw_eq_nil_iff.1 hraw
    exact iff_of_true (text_union_of_rows hnone h) (.inl hnone)
  · have hjoin : Text.join "\n" (texts (withRaw tables)) = Text.join "\n" (texts tables) ↔
        texts (withRaw tables) = texts tables :=
      ⟨Text.join_inj_of_sublist (texts_withRaw_sublist tables) (texts_withRaw_ne_nil hraw),
        congrArg _⟩
    rw [text_union_of_raw hraw, hjoin, texts_withRaw_eq_iff, ← withRaw_eq_nil_iff,
      or_iff_right hraw]
    refine forall₂_congr fun t ht => ?_
    rw [Ne, text_eq_empty_iff (h t ht), ← Option.not_isSome_iff_eq_none]
    tauto

/-- Every table with rows is told exactly if none has raw text, or all that have rows do. -/
theorem forall_mem_told_iff : (∀ t ∈ tables, t.rows ≠ [] → t ∈ told tables) ↔
    (∀ t ∈ tables, t.rawText? = none) ∨ ∀ t ∈ tables, t.rows ≠ [] → t.rawText?.isSome := by
  rw [told]
  by_cases hraw : withRaw tables = []
  · rw [if_pos hraw]
    exact iff_of_true (fun t ht _ => ht) (.inl (withRaw_eq_nil_iff.1 hraw))
  · rw [if_neg hraw, ← withRaw_eq_nil_iff, or_iff_right hraw]
    refine forall₂_congr fun t ht => imp_congr_right fun _ => ?_
    rw [withRaw, List.mem_filter, and_iff_right ht]

end Table

/-! ## Two ways of merging -/

/-- How tables are merged: as a union of those that can be looked up, or as the list of the tables
of all rows that a source runs over. -/
inductive Merges : List Table → Table → Prop
  | union (operands : List String) (ns : Namespace) :
    Merges (operands.filterMap (Table.lookup · ns)) ((SourceKind.tableUnion operands).derive ns)
  | list (entries : List (Row × Table)) :
    Merges (entries.map Prod.snd) (EntryMerge.list.merge entries)

theorem Merges.eq_union {tables : List Table} {merged : Table} (h : Merges tables merged) :
    merged = .union tables := by
  cases h with
  | union operands ns => rfl
  | list entries => rfl

/-- **The text of a merged table.** Let no table that is merged have an empty row. All their rows
are in the merged table, and its text is the texts of those that are told in it. It is the texts of
all of them exactly if none has raw text or all that have rows do, and then alone every table with
rows is told. -/
theorem merged_text_iff {tables : List Table} {merged : Table} (hm : Merges tables merged)
    (h : ∀ t ∈ tables, [] ∉ t.rows) :
    merged.rows = tables.flatMap Table.rows ∧
    merged.text = Text.join "\n" (Table.texts (Table.told tables)) ∧
    (merged.text = Text.join "\n" (Table.texts tables) ↔
      (∀ t ∈ tables, t.rawText? = none) ∨ ∀ t ∈ tables, t.rows ≠ [] → t.rawText?.isSome) ∧
    (merged.text = Text.join "\n" (Table.texts tables) ↔
      ∀ t ∈ tables, t.rows ≠ [] → t ∈ Table.told tables) := by
  rw [hm.eq_union, Table.forall_mem_told_iff]
  exact ⟨rfl, Table.text_union h, Table.text_union_eq_iff h, Table.text_union_eq_iff h⟩

/-! ## Disks with and without raw text -/

namespace MergedDisks

/-- Two disks, each read from a line, and a row without a result. -/
def entries : List (Row × Table) :=
  [(["b0"], .ofCsv ";" "d0;1"), (["b1"], .empty), (["b2"], .ofCsv ";" "d1;2")]

/-- The disks that were read from lines are all told. -/
theorem text_of_read_disks : Merges (entries.map Prod.snd) (EntryMerge.list.merge entries) ∧
    (∀ t ∈ entries.map Prod.snd, [] ∉ t.rows) ∧
    (EntryMerge.list.merge entries).text = Text.join "\n" (Table.texts (entries.map Prod.snd)) := by
  have hrows : ∀ t ∈ entries.map Prod.snd, [] ∉ t.rows := by decide +kernel
  have hraw : ∀ t ∈ entries.map Prod.snd, t.rows ≠ [] → t.rawText?.isSome := by decide +kernel
  exact ⟨.list entries, hrows, (merged_text_iff (.list entries) hrows).2.2.1.2 (.inr hraw)⟩

/-- The first disk without raw text, as it is after an operator. -/
def tables : Namespace := .ofList [("first", .ofRows [["d0"]]), ("second", .ofCsv ";" "d1;2")]

/-- The operands of the union of both. -/
def operands : List String := ["$\x7bsource::first\x7d", "$\x7bsource::second\x7d"]

/-- The row of the first disk is in the union, but not in its text. -/
theorem text_of_union_misses_disk :
    operands.filterMap (Table.lookup · tables) = [.ofRows [["d0"]], .ofCsv ";" "d1;2"] ∧
    (∀ t ∈ [Table.ofRows [["d0"]], .ofCsv ";" "d1;2"], [] ∉ t.rows) ∧
    ((SourceKind.tableUnion operands).derive tables).rows = [["d0"], ["d1", "2"]] ∧
    ((SourceKind.tableUnion operands).derive tables).text = "d1;2" ∧
    Text.join "\n" (Table.texts [.ofRows [["d0"]], .ofCsv ";" "d1;2"]) = "d0;\nd1;2" := by
  decide +kernel

end MergedDisks

end HardwareWatch
