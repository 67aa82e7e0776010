import HardwareWatch.Proofs.Json.Quoted
import HardwareWatch.Proofs.Sources.Filling
import Mathlib.Data.List.Basic

/-!
# The tables that a source looks up

The operands of a source are the texts that it resolves when it runs: those of its kind, for every
row again where it runs over a table, the table it runs over, and the values that its operators put
at the ends of cells. An operand that is a reference names a table that is looked up.

* `Source.operands` are the operands of a source over tables, `Source.lookups` the keys of the
  tables that it looks up.
* `SourceRun.execute_congr`: tables with other keys make no difference to what a source comes to.
* `Source.declaredOperands` are the operands before anything is filled in, all of them texts of the
  document of the source. `Source.mem_declaredOperands_of_mem_operands`: there are no others where
  they have no gaps.
-/

namespace HardwareWatch

open Json

/-! ## Operands -/

/-- The tables are the same for all that the operands refer to. -/
def AgreeOn (operands : List String) (tables tables' : Namespace) : Prop :=
  ∀ o ∈ operands, ∀ k, Reference.key? o = some k → tables'.get? k = tables.get? k

section AgreeOn

variable {operands : List String} {tables tables' : Namespace} {o : String}

theorem AgreeOn.lookup (h : AgreeOn operands tables tables') (ho : o ∈ operands) :
    Table.lookup o tables' = Table.lookup o tables := by
  unfold Table.lookup
  split
  · exact h o ho _ (by assumption)
  · rfl

theorem AgreeOn.mono {fewer : List String} (h : AgreeOn operands tables tables')
    (hfewer : ∀ o ∈ fewer, o ∈ operands) : AgreeOn fewer tables tables' :=
  fun o ho => h o (hfewer o ho)

end AgreeOn

namespace SourceKind

/-- The texts of a kind that may refer to tables. -/
def operands : SourceKind → List String
  | copy origin => [origin]
  | static value => [value]
  | tableUnion tables => tables
  | tableJoin j => [j.leftTable, j.rightTable]
  | http _ | snmpGet _ | snmpTable .. | wmi _ | wbem _ | commandLine _ | ipmi | sql _ => []

theorem operands_mapTexts {f : String → String} (kind : SourceKind) :
    (kind.mapTexts f).operands = kind.operands.map f := by
  cases kind <;> rfl

theorem derive_congr {kind : SourceKind} {tables tables' : Namespace}
    (h : AgreeOn kind.operands tables tables') : kind.derive tables' = kind.derive tables := by
  cases kind with
  | copy origin => rw [derive, derive, h.lookup List.mem_cons_self]
  | static value => rw [derive, derive, h.lookup List.mem_cons_self]
  | tableUnion origins =>
    exact congrArg Table.union (List.filterMap_congr fun o ho => h.lookup ho)
  | tableJoin j =>
    rw [derive, derive, h.lookup List.mem_cons_self,
      h.lookup (List.mem_cons_of_mem _ List.mem_cons_self)]
  | _ => rfl

/-- An operand stands in the document. -/
theorem exists_content_of_mem_operands {kind : SourceKind} {o : String} (h : o ∈ kind.operands) :
    ∃ f ∈ kind.content, o ∈ f.2.quotedTexts := by
  cases kind with
  | copy origin => exact ⟨_, List.mem_cons_self, h⟩
  | static value => exact ⟨_, List.mem_cons_self, h⟩
  | tableUnion tables =>
    exact ⟨_, List.mem_cons_self, mem_quotedItemTexts.2 ⟨_, List.mem_map_of_mem h,
      List.mem_cons_self⟩⟩
  | tableJoin j =>
    simp only [operands, List.mem_cons, List.not_mem_nil, or_false] at h
    rcases h with rfl | rfl
    · exact ⟨_, List.mem_cons_self, List.mem_cons_self⟩
    · exact ⟨_, List.mem_cons_of_mem _ List.mem_cons_self, List.mem_cons_self⟩
  | _ => cases h

end SourceKind

namespace Operator

/-- The texts of an operator that may refer to tables. -/
def operands : Operator → List String
  | concat _ _ value => [value]
  | arithmetic .. | bitwise .. | substring .. | translate .. | arrayTranslate .. | lines ..
  | duplicateColumn _ | replace .. | extract .. | pathProperty .. | keepColumns _ | convert ..
  | perBitTranslation .. | fromJson .. | fromXml .. | awk _ => []

theorem operands_mapTexts {f : String → String} (op : Operator) :
    (op.mapTexts f).operands = op.operands.map f := by
  cases op <;> rfl

theorem concatValue?_congr {value : String} {tables tables' : Namespace}
    (h : AgreeOn [value] tables tables') (row : Row) :
    concatValue? tables' row value = concatValue? tables row value := by
  unfold concatValue?
  split
  · rw [h value List.mem_cons_self _ (by assumption)]
  · rfl

theorem apply_congr {op : Operator} {tables tables' : Namespace}
    (h : AgreeOn op.operands tables tables') (translations : NameMap Translation)
    (awk : Option AwkExecutor) (t : Table) :
    op.apply ⟨translations, tables', awk⟩ t = op.apply ⟨translations, tables, awk⟩ t := by
  cases op with
  | concat side column value =>
    have hvalue := concatValue?_congr h
    simp only [apply, concatColumn, hvalue]
  | _ => rfl

theorem applyAll_congr {operators : List Operator} {tables tables' : Namespace}
    (h : AgreeOn (operators.flatMap operands) tables tables')
    (translations : NameMap Translation) (awk : Option AwkExecutor) (t : Table) :
    applyAll ⟨translations, tables', awk⟩ operators t =
      applyAll ⟨translations, tables, awk⟩ operators t := by
  induction operators generalizing t with
  | nil => rfl
  | cons op rest ih =>
    have hop := apply_congr (h.mono fun o => List.mem_append_left _) translations awk t
    have hrest := ih (h.mono fun o => List.mem_append_right _)
    simp only [applyAll, List.foldl_cons] at hrest ⊢
    rw [hop, hrest]

theorem exists_content_of_mem_operands {op : Operator} {o : String} (h : o ∈ op.operands) :
    ∃ f ∈ op.content, o ∈ f.2.quotedTexts := by
  cases op with
  | concat side column value =>
    exact ⟨_, List.mem_cons_of_mem _ List.mem_cons_self, h⟩
  | _ => cases h

end Operator

namespace Source

/-- The operands that are resolved before the operators of the source are applied. -/
def fetchOperands (s : Source) (tables : Namespace) : List String :=
  match s.entries with
  | none => s.kind.operands
  | some loop =>
    loop.source :: ((Table.lookup loop.source tables).elim [] Table.rows).flatMap fun row =>
      (s.forEntry row).kind.operands

/-- The operands of a source without gaps that runs over tables. -/
def operands (s : Source) (tables : Namespace) : List String :=
  s.fetchOperands tables ++ s.computes.flatMap Operator.operands

/-- The operands of a source as they were declared. -/
def declaredOperands (s : Source) : List String :=
  (s.entries.map EntryLoop.source).toList ++ s.kind.operands ++
    s.computes.flatMap Operator.operands

/-- The keys of the tables that the source looks up. -/
def lookups (s : Source) (attributes : Option (NameMap String)) (tables : Namespace) :
    List String :=
  ((s.filled attributes).operands tables).filterMap Reference.key?

end Source

/-! ## Tables that are not looked up -/

namespace SourceRun

variable {x : SourceRun} {s : Source} {tables tables' : Namespace}

theorem fetch_congr (h : AgreeOn s.kind.operands tables tables') :
    x.fetch s tables' = x.fetch s tables := by
  rw [fetch, fetch, SourceKind.derive_congr h]

theorem fetchRows_congr (hwords : s.InWords) {rows : List Row}
    (h : ∀ row ∈ rows, AgreeOn (s.forEntry row).kind.operands tables tables') :
    x.fetchRows s tables' rows = x.fetchRows s tables rows := by
  induction rows with
  | nil => rfl
  | cons row rest ih =>
    have hrow := fetch_congr (x := x) (h row List.mem_cons_self)
    have hrest := ih fun row hr => h row (List.mem_cons_of_mem _ hr)
    rw [fetchRows, fetchRows, Source.forRow?_eq hwords]
    simp only [hrow, hrest]

theorem finish_congr (h : AgreeOn (s.computes.flatMap Operator.operands) tables tables')
    (t : Table) : x.finish s tables' t = x.finish s tables t :=
  Operator.applyAll_congr h x.connector.translations x.visit.registry.awk t

theorem executeFilled_congr (hwords : s.InWords) (h : AgreeOn (s.operands tables) tables tables') :
    x.executeFilled s tables' = x.executeFilled s tables := by
  have hfetch : AgreeOn (s.fetchOperands tables) tables tables' :=
    h.mono fun o => List.mem_append_left _
  have hfinish : x.finish s tables' = x.finish s tables :=
    funext (finish_congr (h.mono fun o => List.mem_append_right _))
  unfold executeFilled
  rw [Source.fetchOperands] at hfetch
  split
  · rename_i hentries
    rw [hentries] at hfetch
    rw [fetch_congr hfetch, hfinish]
  · rename_i loop hentries
    rw [hentries] at hfetch
    rw [hfetch.lookup List.mem_cons_self]
    split
    · rfl
    · rename_i entries hlookup
      simp only [hlookup, Option.elim_some] at hfetch
      have hrows : x.fetchRows s tables' entries.rows = x.fetchRows s tables entries.rows :=
        fetchRows_congr hwords fun row hrow => hfetch.mono fun o ho =>
          List.mem_cons_of_mem _ (List.mem_flatMap.2 ⟨row, hrow, ho⟩)
      rw [hrows, hfinish]

/-- **What a source comes to** depends on no other tables than those that it looks up. -/
theorem execute_congr (hwords : s.InWords) {attributes : Option (NameMap String)}
    (h : ∀ k ∈ s.lookups attributes tables, tables'.get? k = tables.get? k) :
    x.execute s tables' attributes = x.execute s tables attributes := by
  rw [execute_eq x hwords, execute_eq x hwords]
  exact executeFilled_congr (hwords.filled attributes) fun o ho k hk =>
    h k (List.mem_filterMap.2 ⟨o, ho, hk⟩)

end SourceRun

/-! ## Operands in the document -/

namespace Source

/-- The texts in the document of the source, names of fields included. -/
def texts (s : Source) : List String := s.toJson.quotedTexts

variable {s : Source} {o : String}

theorem mem_texts_of_mem_field {f : String × Json}
    (hf : f ∈ s.commonContent ++ s.kindContent) (ho : o ∈ f.2.quotedTexts) : o ∈ s.texts := by
  rw [texts, toJson_eq]
  exact mem_quotedFieldTexts.2 ⟨f, hf, .inr ho⟩

theorem mem_texts_of_mem_kind (h : o ∈ s.kind.operands) : o ∈ s.texts := by
  obtain ⟨f, hf, ho⟩ := SourceKind.exists_content_of_mem_operands h
  exact mem_texts_of_mem_field (List.mem_append_right _ (List.mem_cons_of_mem _ hf)) ho

theorem mem_texts_of_mem_computes (h : o ∈ s.computes.flatMap Operator.operands) : o ∈ s.texts := by
  obtain ⟨op, hop, ho⟩ := List.mem_flatMap.1 h
  obtain ⟨f, hf, ho⟩ := Operator.exists_content_of_mem_operands ho
  have hdocument : o ∈ op.toJson.quotedTexts :=
    mem_quotedFieldTexts.2 ⟨f, List.mem_cons_of_mem _ hf, .inr ho⟩
  refine mem_texts_of_mem_field (f := ("computes", .array (s.computes.map Operator.toJson)))
    (by simp [commonContent]) ?_
  exact mem_quotedItemTexts.2 ⟨_, List.mem_map_of_mem hop, hdocument⟩

theorem mem_texts_of_entries {loop : EntryLoop} (h : s.entries = some loop) :
    loop.source ∈ s.texts := by
  refine mem_texts_of_mem_field (f := ("executeForEachEntryOf", loop.toJson))
    (by simp [commonContent, h, ofOption]) ?_
  exact mem_quotedFieldTexts.2 ⟨_, List.mem_cons_self, .inr List.mem_cons_self⟩

theorem mem_texts_of_mem_declaredOperands (h : o ∈ s.declaredOperands) : o ∈ s.texts := by
  simp only [declaredOperands, List.mem_append, Option.mem_toList,
    Option.map_eq_some_iff] at h
  rcases h with (⟨loop, hentries, rfl⟩ | h) | h
  · exact mem_texts_of_entries hentries
  · exact mem_texts_of_mem_kind h
  · exact mem_texts_of_mem_computes h

/-! ## Operands without gaps -/

theorem declaredOperands_mapTexts {f : String → String} (s : Source) :
    (s.mapTexts f).declaredOperands = s.declaredOperands.map f := by
  have hcomputes : (s.computes.map (Operator.mapTexts f)).flatMap Operator.operands =
      (s.computes.flatMap Operator.operands).map f := by
    rw [List.flatMap_map, List.map_flatMap]
    exact congrArg (List.flatMap · s.computes) (funext Operator.operands_mapTexts)
  have hentries : ((s.entries.map (EntryLoop.mapTexts f)).map EntryLoop.source).toList =
      (s.entries.map EntryLoop.source).toList.map f := by
    cases s.entries <;> rfl
  simp only [declaredOperands, mapTexts, List.map_append, hcomputes, hentries,
    SourceKind.operands_mapTexts]

theorem map_eq_self_of_gapless {f : String → String} (hf : KeepsGapless f) {operands : List String}
    (h : ∀ o ∈ operands, Gapless o) : operands.map f = operands := by
  rw [List.map_congr_left fun o ho => hf o (h o ho), List.map_id']

theorem declaredOperands_filled (h : ∀ o ∈ s.declaredOperands, Gapless o)
    (attributes : Option (NameMap String)) :
    (s.filled attributes).declaredOperands = s.declaredOperands := by
  cases attributes with
  | none => rfl
  | some attributes =>
    rw [filled]
    split
    · rw [declaredOperands_mapTexts]
      exact map_eq_self_of_gapless (AttributeGap.keepsGapless_fill attributes) h
    · rfl

/-- Operands without gaps are resolved as they were declared. -/
theorem mem_declaredOperands_of_mem_operands (h : ∀ o ∈ s.declaredOperands, Gapless o)
    {tables : Namespace} (ho : o ∈ s.operands tables) : o ∈ s.declaredOperands := by
  have hkind : ∀ o ∈ s.kind.operands, o ∈ s.declaredOperands := fun o ho =>
    List.mem_append_left _ (List.mem_append_right _ ho)
  rcases List.mem_append.1 ho with ho | ho
  · rw [fetchOperands] at ho
    split at ho
    · exact hkind o ho
    · rename_i loop hentries
      rcases List.mem_cons.1 ho with rfl | ho
      · refine List.mem_append_left _ (List.mem_append_left _ ?_)
        simp [hentries]
      · obtain ⟨row, -, ho⟩ := List.mem_flatMap.1 ho
        have hsame := map_eq_self_of_gapless (Column.keepsGapless_substitute row) fun o ho =>
          h o (hkind o ho)
        rw [forEntry, mapTexts, SourceKind.operands_mapTexts, hsame] at ho
        exact hkind o ho
  · exact List.mem_append_right _ ho

end Source

end HardwareWatch
