import HardwareWatch.Connector.Template
import HardwareWatch.Proofs.Documents.Sources
import HardwareWatch.Proofs.Table.Naming
import HardwareWatch.Visit.Sources

/-!
# Filled sources

A source whose gaps are filled is read anew from its document. What is read is the source with the
filling applied to each of its texts, as long as texts without gaps are left alone: the words for
kinds, operators and merges are such texts, so that they stay.

* `KeepsGapless` says so of what fills in texts. It holds of cells and of attributes
  (`Column.keepsGapless_substitute`, `AttributeGap.keepsGapless_fill`).
* `Source.mapTexts` replaces the texts of a source, `Source.mapTexts?_eq` says that it is what is
  read from the document.
* `Source.filled` is the source that runs where a monitor may have attributes, and `Source.forEntry`
  the source that runs for a row.
-/

namespace HardwareWatch

open Json

/-! ## Texts without gaps -/

/-- There is nothing to fill in: the text has no dollar, or it is one reference to a table and has no
other dollar than the one in front. -/
def Gapless (t : String) : Prop :=
  '$' ∉ t.toList ∨ ∃ k, Reference.key? t = some k ∧ '$' ∉ k.toList

/-- Texts without gaps are left as they are. -/
def KeepsGapless (f : String → String) : Prop := ∀ t, Gapless t → f t = t

/-- What fills in texts leaves those without gaps as they are if it passes over characters that are
no dollars, and over openings of references. -/
theorem keepsGapless_of_passes {f : Chars → Chars} (hnil : f [] = [])
    (hcons : ∀ c s, c ≠ '$' → f (c :: s) = c :: f s)
    (hopening : ∀ s, f ('$' :: (Reference.opening.tail ++ s)) =
      '$' :: f (Reference.opening.tail ++ s)) :
    KeepsGapless fun t => .ofList (f t.toList) := by
  have pass {a : Chars} (ha : '$' ∉ a) (s : Chars) : f (a ++ s) = a ++ f s := by
    induction a with
    | nil => rfl
    | cons c a ih =>
      have hne : c ≠ '$' := fun he => ha (he ▸ List.mem_cons_self)
      rw [List.cons_append, hcons c _ hne, ih fun hm => ha (List.mem_cons_of_mem _ hm)]
      rfl
  have keep {a : Chars} (ha : '$' ∉ a) : f a = a := by
    have h := pass ha []
    rwa [hnil, List.append_nil] at h
  rintro t (ht | ⟨k, hk, hdollar⟩)
  · simp only [keep ht, String.ofList_toList]
  · obtain ⟨key, hkey, rfl⟩ := Option.map_eq_some_iff.1 hk
    rw [String.toList_ofList] at hdollar
    obtain ⟨a, b, ht, ha, hb⟩ := Reference.exists_eq_opening_of_keyOf? hkey hdollar
    have hfilled : f t.toList = t.toList := by
      calc f t.toList = a ++ f ('$' :: (Reference.opening.tail ++ b)) := by
            rw [ht, pass ha]
            rfl
        _ = a ++ '$' :: f (Reference.opening.tail ++ b) := by rw [hopening]
        _ = a ++ '$' :: (Reference.opening.tail ++ b) := by rw [pass (by decide), keep hb]
        _ = t.toList := ht.symm
    simp only [hfilled, String.ofList_toList]

theorem Column.keepsGapless_substitute (row : Row) : KeepsGapless (substitute row) := by
  refine keepsGapless_of_passes (f := substituteFrom row 0) rfl (fun c s hc => ?_) fun s => ?_
  · rw [substituteFrom, if_pos (bne_iff_ne.2 hc)]
  · rfl

theorem AttributeGap.keepsGapless_fill (attributes : NameMap String) :
    KeepsGapless (fill attributes) := by
  refine keepsGapless_of_passes (f := fillFrom attributes 0) rfl (fun c s hc => ?_) fun s => ?_
  · rw [fillFrom, Chars.dropPrefix?_cons_of_ne (by decide) hc]
  · rfl

/-! ## Documents -/

section Documents

variable {α : Type} {f : String → String}

theorem Json.mapItemTexts_eq (items : List Json) : mapItemTexts f items = items.map (mapTexts f) := by
  induction items with
  | nil => rfl
  | cons v rest ih => rw [mapItemTexts, ih, List.map_cons]

theorem Json.mapFieldTexts_eq (fields : List (String × Json)) :
    mapFieldTexts f fields = fields.map fun e => (e.1, e.2.mapTexts f) := by
  induction fields with
  | nil => rfl
  | cons e rest ih => rw [mapFieldTexts, ih, List.map_cons]

theorem Json.mapItemTexts_map {write : α → Json} {change : α → α} (l : List α)
    (h : ∀ a, (write a).mapTexts f = write (change a)) :
    mapItemTexts f (l.map write) = (l.map change).map write := by
  rw [mapItemTexts_eq, List.map_map, List.map_map]
  exact List.map_congr_left fun a _ => h a

theorem Json.mapTexts_ofOption {write : α → Json} {change : α → α} (a : Option α)
    (h : ∀ x, (write x).mapTexts f = write (change x)) :
    (ofOption write a).mapTexts f = ofOption write (a.map change) := by
  cases a with
  | none => rfl
  | some x => exact h x

theorem Json.mapTexts_ofText? (s : Option String) :
    (ofText? s).mapTexts f = ofText? (s.map f) :=
  mapTexts_ofOption s fun _ => rfl

theorem Json.mapTexts_ofNat? (n : Option Nat) : (ofNat? n).mapTexts f = ofNat? n := by
  cases n <;> rfl

theorem Json.mapTexts_ofTexts (texts : List String) :
    (ofTexts texts).mapTexts f = ofTexts (texts.map f) :=
  congrArg Json.array (mapItemTexts_map texts fun _ => rfl)

theorem Json.mapTexts_ofMap_text (m : NameMap String) :
    (ofMap .text m).mapTexts f = ofMap .text (m.mapEntries fun _ => f) := by
  simp [ofMap, mapTexts, mapFieldTexts_eq, NameMap.mapEntries, Function.comp_def]

end Documents

variable {f : String → String}

/-! ## Operators -/

/-- The translation with its texts replaced. -/
def TranslationRef.mapTexts (f : String → String) : TranslationRef → TranslationRef
  | named name => .named (f name)
  | inline table => .inline (table.mapEntries fun _ => f)

theorem TranslationRef.toJson_mapTexts (t : TranslationRef) :
    (t.mapTexts f).toJson = t.toJson.mapTexts f := by
  cases t with
  | named name => rfl
  | inline table => exact (mapTexts_ofMap_text table).symm

namespace Operator

/-- The operator with its texts replaced. -/
def mapTexts (f : String → String) : Operator → Operator
  | arithmetic op column operand => arithmetic op column (f operand)
  | bitwise op column operand => bitwise op column (f operand)
  | substring column start length => substring column (f start) (f length)
  | translate column table => translate column (table.mapTexts f)
  | arrayTranslate column table separator joiner =>
    arrayTranslate column (table.mapTexts f) (separator.map f) (joiner.map f)
  | lines filter column pattern values => lines filter column (pattern.map f) (values.map f)
  | duplicateColumn column => duplicateColumn column
  | concat side column value => concat side column (f value)
  | replace column old new => replace column (f old) (f new)
  | extract column field separators => extract column field (f separators)
  | pathProperty column property => pathProperty column (f property)
  | keepColumns columns => keepColumns (f columns)
  | convert column conversion => convert column conversion
  | perBitTranslation column bits table => perBitTranslation column (f bits) (table.mapTexts f)
  | fromJson entryKey properties separator =>
    fromJson (f entryKey) (properties.map f) (separator.map f)
  | fromXml recordTag properties => fromXml (f recordTag) (f properties)
  | awk call =>
    awk ⟨f call.script, call.exclude.map f, call.keep.map f, call.separators.map f,
      call.selectColumns.map f⟩

theorem numbers_mapTexts (op : Operator) : (op.mapTexts f).numbers = op.numbers := by
  cases op <;> rfl

theorem name_mapTexts (op : Operator) : (op.mapTexts f).name = op.name := by
  cases op with
  | arithmetic op => cases op <;> rfl
  | bitwise op => cases op <;> rfl
  | lines filter => cases filter <;> rfl
  | concat side => cases side <;> rfl
  | _ => rfl

theorem dollar_notMem_name (op : Operator) : '$' ∉ op.name.toList := by
  unfold name
  split <;> decide

theorem content_mapTexts (hf : KeepsGapless f) (op : Operator) :
    (op.mapTexts f).content = op.content.map fun e => (e.1, e.2.mapTexts f) := by
  cases op with
  | convert column conversion =>
    have hword : f conversion.word = conversion.word := hf _ (.inl (by cases conversion <;> decide))
    simp [mapTexts, content, Json.mapTexts, Json.ofNat, hword]
  | _ =>
    simp [mapTexts, content, Json.mapTexts, Json.ofNat, TranslationRef.toJson_mapTexts,
      mapTexts_ofText?, mapTexts_ofNat?]

theorem toJson_mapTexts (hf : KeepsGapless f) (op : Operator) :
    (op.mapTexts f).toJson = op.toJson.mapTexts f := by
  rw [toJson, toJson, Json.mapTexts, mapFieldTexts_eq, List.map_cons, ← content_mapTexts hf,
    Json.mapTexts, name_mapTexts, hf _ (.inl op.dollar_notMem_name)]

end Operator

/-! ## Loops and kinds -/

/-- The merge with the texts around it replaced. -/
def EntryMerge.mapTexts (f : String → String) : EntryMerge → EntryMerge
  | custom start finish => custom (f start) (f finish)
  | merge => merge

theorem EntryMerge.toJson_mapTexts (hf : KeepsGapless f) (m : EntryMerge) :
    (m.mapTexts f).toJson = m.toJson.mapTexts f := by
  cases m with
  | custom start finish => rfl
  | _ => exact congrArg Json.text (hf _ (.inl (by decide))).symm

/-- The loop with its texts replaced. -/
def EntryLoop.mapTexts (f : String → String) (e : EntryLoop) : EntryLoop :=
  ⟨f e.source, e.merge.mapTexts f⟩

theorem EntryLoop.toJson_mapTexts (hf : KeepsGapless f) (e : EntryLoop) :
    (e.mapTexts f).toJson = e.toJson.mapTexts f := by
  simp [mapTexts, toJson, Json.mapTexts, mapFieldTexts_eq, EntryMerge.toJson_mapTexts hf]

namespace SourceKind

/-- The query with its texts replaced. -/
def mapQueryTexts (f : String → String) (q : QuerySource) : QuerySource :=
  ⟨f q.query, q.nameSpace.map f⟩

/-- The kind with the texts of its details replaced. -/
def mapTexts (f : String → String) : SourceKind → SourceKind
  | http r =>
    http ⟨f r.method, r.url.map f, r.path.map f, r.header.map f, r.body.map f, r.resultContent⟩
  | snmpGet oid => snmpGet (f oid)
  | snmpTable oid selectColumns => snmpTable (f oid) (f selectColumns)
  | wmi q => wmi (mapQueryTexts f q)
  | wbem q => wbem (mapQueryTexts f q)
  | commandLine c =>
    commandLine ⟨f c.commandLine, c.executeLocally, c.timeout, c.exclude.map f, c.keep.map f,
      c.beginAtLineNumber, c.endAtLineNumber, c.separators.map f, c.selectColumns.map f⟩
  | ipmi => ipmi
  | sql query => sql (f query)
  | copy origin => copy (f origin)
  | static value => static (f value)
  | tableUnion tables => tableUnion (tables.map f)
  | tableJoin j =>
    tableJoin ⟨f j.leftTable, f j.rightTable, j.leftKeyColumn, j.rightKeyColumn,
      j.defaultRightLine.map f, j.keyType.map f⟩

theorem numbers_mapTexts (kind : SourceKind) : (kind.mapTexts f).numbers = kind.numbers := by
  cases kind <;> rfl

theorem type_mapTexts (kind : SourceKind) : (kind.mapTexts f).type = kind.type := by
  cases kind <;> rfl

theorem dollar_notMem_word (type : SourceType) : '$' ∉ type.word.toList := by
  cases type <;> decide

theorem content_mapTexts (hf : KeepsGapless f) (kind : SourceKind) :
    (kind.mapTexts f).content = kind.content.map fun e => (e.1, e.2.mapTexts f) := by
  cases kind with
  | http r =>
    have hword : f r.resultContent.word = r.resultContent.word :=
      hf _ (.inl (by cases r.resultContent <;> decide))
    simp [mapTexts, content, Json.mapTexts, mapTexts_ofText?, hword]
  | _ =>
    simp [mapTexts, mapQueryTexts, content, queryContent, Json.mapTexts, Json.ofNat,
      mapTexts_ofText?, mapTexts_ofNat?, mapTexts_ofTexts]

end SourceKind

/-! ## Sources -/

namespace Source

/-- The source with its texts replaced. -/
def mapTexts (f : String → String) (s : Source) : Source :=
  { s with
    key := f s.key
    computes := s.computes.map (Operator.mapTexts f)
    entries := s.entries.map (EntryLoop.mapTexts f)
    kind := s.kind.mapTexts f }

theorem numbers_mapTexts (s : Source) : (s.mapTexts f).numbers = s.numbers := by
  simp [numbers, mapTexts, List.flatMap_map, Operator.numbers_mapTexts, SourceKind.numbers_mapTexts]

theorem InWords.mapTexts {s : Source} (h : s.InWords) : (s.mapTexts f).InWords := by
  rwa [InWords, numbers_mapTexts]

theorem toJson_mapTexts (hf : KeepsGapless f) (s : Source) :
    (s.mapTexts f).toJson = s.toJson.mapTexts f := by
  have htype : (s.mapTexts f).type = s.type := s.kind.type_mapTexts
  have hword : f s.type.word = s.type.word := hf _ (.inl (SourceKind.dollar_notMem_word _))
  have hcomputes := mapItemTexts_map s.computes fun op => (Operator.toJson_mapTexts hf op).symm
  have hentries := mapTexts_ofOption s.entries fun e => (EntryLoop.toJson_mapTexts hf e).symm
  rw [toJson, toJson, htype, Json.mapTexts, mapFieldTexts_eq, List.map_append,
    ← SourceKind.content_mapTexts hf]
  simp only [List.map_cons, List.map_nil, hcomputes, hentries, Json.mapTexts, hword]
  rfl

/-- **What is read from the filled document** is the source with its texts replaced. -/
theorem mapTexts?_eq (hf : KeepsGapless f) {s : Source} (h : s.InWords) :
    s.mapTexts? f = some (s.mapTexts f) := by
  rw [mapTexts?, ← toJson_mapTexts hf, ofJson?_toJson .atHand h.mapTexts]
  rfl

/-- The source that runs for a row. -/
def forEntry (s : Source) (row : Row) : Source :=
  { s with computes := [], entries := none }.mapTexts (Column.substitute row)

theorem forRow?_eq {s : Source} (h : s.InWords) (row : Row) : s.forRow? row = some (s.forEntry row) :=
  mapTexts?_eq (Column.keepsGapless_substitute row)
    (forall_numbers_iff.2 ⟨List.forall_mem_nil _, (forall_numbers_iff.1 h).2⟩)

/-- The source that runs, its gaps filled by the attributes of a monitor if there is one. -/
def filled (s : Source) : Option (NameMap String) → Source
  | none => s
  | some attributes =>
    if s.hasAttributeGap then s.mapTexts (AttributeGap.fill attributes) else s

theorem InWords.filled {s : Source} (h : s.InWords) (attributes : Option (NameMap String)) :
    (s.filled attributes).InWords := by
  cases attributes with
  | none => exact h
  | some attributes =>
    rw [Source.filled]
    split
    · exact h.mapTexts
    · exact h

theorem withAttributes?_eq {s : Source} (h : s.InWords) (attributes : NameMap String) :
    s.withAttributes? attributes =
      some (if s.hasAttributeGap then some (s.mapTexts (AttributeGap.fill attributes)) else none) := by
  rw [withAttributes?]
  split
  · rw [mapTexts?_eq (AttributeGap.keepsGapless_fill attributes) h]
    rfl
  · rfl

theorem forMonitor?_eq {s : Source} (h : s.InWords) (attributes : NameMap String) :
    s.forMonitor? attributes = some (s.filled (some attributes)) := by
  rw [forMonitor?, withAttributes?_eq h, filled]
  split <;> rfl

end Source

/-- A source runs with its gaps filled. -/
theorem SourceRun.execute_eq (x : SourceRun) {s : Source} (h : s.InWords) (tables : Namespace)
    (attributes : Option (NameMap String)) :
    x.execute s tables attributes = x.executeFilled (s.filled attributes) tables := by
  cases attributes with
  | none => rfl
  | some attributes =>
    unfold execute
    simp only [Source.forMonitor?_eq h]

end HardwareWatch
