import HardwareWatch.Connector.SourceDocument
import HardwareWatch.Proofs.Documents.Operators

/-!
# Sources are read back

A source is read back from its document as it was written, however the document is come by, as long
as its numbers fit in 64-bit words. Its position is not written. The fields that all sources have
and those of the kind stand side by side in one object, and no name is among both.

* `Source.numbers` are the numbers in a source; `Source.InWords` says that they fit.
* `Source.ofJson?_toJson` and `Source.inWords_of_ofJson?` are the two statements.
-/

namespace HardwareWatch

open Json FieldReader

variable {P : Nat → Prop} {room : Nat}

/-! ## Loops -/

namespace EntryMerge

theorem ofJson?_toJson (standing : Standing) (m : EntryMerge) :
    ofJson? standing m.toJson = some m := by
  cases m with
  | list | jsonArray | jsonArrayExtended => rfl
  | custom start finish =>
    have hfields : Takes [("concatStart", .text start), ("concatEnd", .text finish)] customFields
        (.custom start finish) :=
      .bind (takes_required rfl rfl) <| .bind (takes_required rfl rfl) takes_pure
    exact hfields.record?

theorem plain_toJson (m : EntryMerge) : Plain P (room + 2) m.toJson := by
  cases m <;> simp [toJson, Plain, PlainFields]

end EntryMerge

namespace EntryLoop

theorem ofJson?_toJson (standing : Standing) (e : EntryLoop) :
    ofJson? standing e.toJson = some e :=
  Takes.record? <| .bind (takes_required rfl rfl) <|
    .bind (takes_withDefault rfl (e.merge.ofJson?_toJson standing)) takes_pure

theorem plain_toJson (e : EntryLoop) : Plain P (room + 3) e.toJson :=
  plain_object (by simp [Plain, EntryMerge.plain_toJson])

end EntryLoop

/-! ## Kinds -/

namespace SourceKind

/-- The numbers in the details of a kind. -/
def numbers : SourceKind → List Nat
  | commandLine c => c.timeout.toList ++ c.beginAtLineNumber.toList ++ c.endAtLineNumber.toList
  | tableJoin j => [j.leftKeyColumn, j.rightKeyColumn]
  | http _ | snmpGet _ | snmpTable .. | wmi _ | wbem _ | ipmi | sql _ | copy _ | static _
  | tableUnion _ => []

/-- The numbers of the kind fit in 64-bit words. -/
def InWords (kind : SourceKind) : Prop := ∀ n ∈ kind.numbers, n < word64

theorem takes_queryFields (make : QuerySource → SourceKind) (q : QuerySource) :
    Takes (queryContent q) (queryFields make) (make q) :=
  .bind (takes_required rfl rfl) <|
    .bind (takes_optional rfl (nullable?_ofText? q.nameSpace)) takes_pure

theorem takes_content (kind : SourceKind) (h : kind.InWords) :
    Takes kind.content (fields kind.type.word) kind := by
  cases kind with
  | http r =>
    have hcontent : word? ResultContent.words true (.text r.resultContent.word) =
        some r.resultContent := by
      cases r.resultContent <;> rfl
    exact .bind (takes_withDefault rfl rfl) <|
      .bind (takes_optional rfl (nullable?_ofText? r.url)) <|
        .bind (takes_optional rfl (nullable?_ofText? r.path)) <|
          .bind (takes_optional rfl (nullable?_ofText? r.header)) <|
            .bind (takes_optional rfl (nullable?_ofText? r.body)) <|
              .bind (takes_withDefault rfl hcontent) takes_pure
  | snmpGet oid => exact .bind (takes_required rfl rfl) takes_pure
  | snmpTable oid selectColumns =>
    exact .bind (takes_required rfl rfl) <| .bind (takes_required rfl rfl) takes_pure
  | wmi q => exact takes_queryFields .wmi q
  | wbem q => exact takes_queryFields .wbem q
  | commandLine c =>
    simp only [InWords, numbers, List.mem_append, or_imp, forall_and, Option.mem_toList] at h
    obtain ⟨⟨htimeout, hbegin⟩, hend⟩ := h
    exact .bind (takes_required rfl rfl) <| .bind (takes_withDefault rfl rfl) <|
      .bind (takes_optional rfl (nullable?_ofNat? htimeout)) <|
        .bind (takes_optional rfl (nullable?_ofText? c.exclude)) <|
          .bind (takes_optional rfl (nullable?_ofText? c.keep)) <|
            .bind (takes_optional rfl (nullable?_ofNat? hbegin)) <|
              .bind (takes_optional rfl (nullable?_ofNat? hend)) <|
                .bind (takes_optional rfl (nullable?_ofText? c.separators)) <|
                  .bind (takes_optional rfl (nullable?_ofText? c.selectColumns)) takes_pure
  | ipmi => exact takes_pure
  | sql query => exact .bind (takes_required rfl rfl) takes_pure
  | copy origin => exact .bind (takes_required rfl rfl) takes_pure
  | static value => exact .bind (takes_required rfl rfl) takes_pure
  | tableUnion tables => exact .bind (takes_required rfl (list?_ofTexts tables)) takes_pure
  | tableJoin j =>
    have hleft : j.leftKeyColumn < word64 := h _ List.mem_cons_self
    have hright : j.rightKeyColumn < word64 := h _ (List.mem_cons_of_mem _ List.mem_cons_self)
    exact .bind (takes_required rfl rfl) <| .bind (takes_required rfl rfl) <|
      .bind (takes_required rfl (nat?_ofNat hleft)) <|
        .bind (takes_required rfl (nat?_ofNat hright)) <|
          .bind (takes_optional rfl (nullable?_ofText? j.defaultRightLine)) <|
            .bind (takes_optional rfl (nullable?_ofText? j.keyType)) takes_pure

theorem plain_content (kind : SourceKind) (h : ∀ n ∈ kind.numbers, P n) :
    ∀ f ∈ kind.content, Plain P (room + 1) f.2 := by
  cases kind <;>
    simp_all [numbers, content, queryContent, Plain, plain_ofNat, plain_ofText?, plain_ofNat?,
      plain_ofTexts]

/-- No field of a kind has a name that all sources have. -/
theorem notMem_content {kind : SourceKind} {name : String}
    (h : name ∈ tagName :: Source.commonNames) : name ∉ kind.content.map Prod.fst := by
  simp only [Source.commonNames, tagName, List.mem_cons, List.not_mem_nil, or_false] at h
  rcases h with rfl | rfl | rfl | rfl | rfl <;> cases kind <;> simp [content, queryContent]

theorem yields_queryFields {make : QuerySource → SourceKind} (h : ∀ q, (make q).numbers = []) :
    Yields InWords (queryFields make) :=
  yields_step fun _ => yields_step fun _ => yields_pure (by simp [InWords, h])

theorem yields_fields (kind : String) : Yields InWords (fields kind) := by
  have none {kind : SourceKind} (h : kind.numbers = []) : Yields InWords (pure kind) :=
    yields_pure (by simp [InWords, h])
  unfold fields
  split
  any_goals exact yields_queryFields fun _ => rfl
  any_goals exact yields_step fun _ => none rfl
  · exact yields_step fun _ => yields_step fun _ => yields_step fun _ => yields_step fun _ =>
      yields_step fun _ => yields_step fun _ => none rfl
  · exact yields_step fun _ => yields_step fun _ => none rfl
  · refine yields_step fun _ => yields_step fun _ =>
      .bind (yields_optional fun _ _ => lt_of_nat?) fun timeout htimeout =>
        yields_step fun _ => yields_step fun _ =>
          .bind (yields_optional fun _ _ => lt_of_nat?) fun first hfirst =>
            .bind (yields_optional fun _ _ => lt_of_nat?) fun last hlast =>
              yields_step fun _ => yields_step fun _ => yields_pure ?_
    simp only [InWords, numbers, List.mem_append, Option.mem_toList, or_imp, forall_and]
    exact ⟨⟨htimeout, hfirst⟩, hlast⟩
  · exact none rfl
  · refine yields_step fun _ => yields_step fun _ =>
      .bind (yields_required fun _ _ => lt_of_nat?) fun left hleft =>
        .bind (yields_required fun _ _ => lt_of_nat?) fun right hright =>
          yields_step fun _ => yields_step fun _ => yields_pure ?_
    simp [InWords, numbers, hleft, hright]
  · exact yields_failure

end SourceKind

/-! ## Sources -/

namespace Source

/-- The numbers in a source. -/
def numbers (s : Source) : List Nat := s.computes.flatMap Operator.numbers ++ s.kind.numbers

/-- The numbers of the source fit in 64-bit words. -/
def InWords (s : Source) : Prop := ∀ n ∈ s.numbers, n < word64

instance (s : Source) : Decidable s.InWords :=
  inferInstanceAs (Decidable (∀ n ∈ s.numbers, n < word64))

theorem forall_numbers_iff {s : Source} :
    (∀ n ∈ s.numbers, P n) ↔
      (∀ op ∈ s.computes, ∀ n ∈ op.numbers, P n) ∧ ∀ n ∈ s.kind.numbers, P n := by
  simp only [numbers, List.mem_append, List.mem_flatMap]
  exact ⟨fun h => ⟨fun op hop n hn => h n (.inl ⟨op, hop, hn⟩), fun n hn => h n (.inr hn)⟩,
    fun h n hn => hn.elim (fun ⟨op, hop, hn⟩ => h.1 op hop n hn) (h.2 n)⟩

/-- The fields that all sources have as they are written. -/
def commonContent (s : Source) : List (String × Json) :=
  [("key", .text s.key), ("forceSerialization", .bool s.forceSerialization),
    ("computes", .array (s.computes.map Operator.toJson)),
    ("executeForEachEntryOf", ofOption EntryLoop.toJson s.entries)]

/-- The kind and its fields as they are written. -/
def kindContent (s : Source) : List (String × Json) :=
  (tagName, .text s.type.word) :: s.kind.content

theorem toJson_eq (s : Source) : s.toJson = .object (s.commonContent ++ s.kindContent) := rfl

theorem plain_kindContent {s : Source} (h : ∀ n ∈ s.kind.numbers, P n) :
    ∀ f ∈ s.kindContent, Plain P (room + 1) f.2 := by
  intro f hf
  rcases List.mem_cons.1 hf with rfl | hf
  · trivial
  · exact s.kind.plain_content h f hf

theorem plain_toJson {s : Source} (h : ∀ n ∈ s.numbers, P n) : Plain P (room + 4) s.toJson := by
  obtain ⟨hcomputes, hkind⟩ := forall_numbers_iff.1 h
  have harray : Plain P (room + 3) (.array (s.computes.map Operator.toJson)) :=
    plain_map fun op hop => Operator.plain_toJson (hcomputes op hop)
  have hentries : Plain P (room + 3) (ofOption EntryLoop.toJson s.entries) :=
    plain_ofOption fun e _ => e.plain_toJson
  rw [toJson_eq]
  refine plain_object fun f hf => ?_
  rcases List.mem_append.1 hf with hf | hf
  · simp only [commonContent, List.mem_cons, List.not_mem_nil, or_false] at hf
    rcases hf with rfl | rfl | rfl | rfl
    · trivial
    · trivial
    · exact harray
    · exact hentries
  · exact plain_kindContent hkind f hf

/-- No field of the kind has a name that all sources have. -/
theorem notMem_kindContent {s : Source} {name : String} (h : name ∈ commonNames) :
    name ∉ s.kindContent.map Prod.fst := by
  rw [kindContent, List.map_cons, List.mem_cons, not_or]
  refine ⟨?_, SourceKind.notMem_content (List.mem_cons_of_mem _ h)⟩
  rintro rfl
  exact absurd (show tagName ∈ commonNames from h) (by decide)

theorem filter_name_common {s : Source} {name : String} (h : name ∈ commonNames) :
    (s.commonContent ++ s.kindContent).filter (·.1 = name) = s.commonContent.filter (·.1 = name) :=
  filter_name_append (notMem_kindContent h)

theorem takes_commonFields {s : Source} (standing : Standing) (h : s.InWords) :
    Takes (s.commonContent ++ s.kindContent) (commonFields standing)
      (⟨s.key, 0, s.forceSerialization, s.computes, s.entries, ·⟩) := by
  have hcomputes : list? (Operator.ofJson? standing.isHeld)
      (.array (s.computes.map Operator.toJson)) = some s.computes :=
    list?_map fun op hop => Operator.ofJson?_toJson ((forall_numbers_iff.1 h).1 op hop) _
  have hentries : nullable? (EntryLoop.ofJson? standing) (ofOption EntryLoop.toJson s.entries) =
      some s.entries :=
    nullable?_ofOption (fun _ => nofun) fun e _ => e.ofJson?_toJson standing
  have common {name : String} (h : name ∈ commonNames) := filter_name_common (s := s) h
  exact .bind (takes_required (common (by decide)) rfl) <|
    .bind (takes_withDefault (common (by decide)) rfl) <|
      .bind (takes_withDefault (common (by decide)) hcomputes) <|
        .bind (takes_withDefault (common (by decide)) hentries) takes_pure

/-- A source is read back as it was written, but for its position. -/
theorem ofJson?_toJson {s : Source} (standing : Standing) (h : s.InWords) :
    ofJson? standing s.toJson = some { s with position := 0 } := by
  have hkind : s.kind.InWords := (forall_numbers_iff.1 h).2
  have hheld : heldBack? commonNames (s.commonContent ++ s.kindContent) = some s.kindContent := by
    refine heldBack?_append s.commonContent (by simp [commonContent, commonNames])
      (fun f hf hname => ?_) (areFieldsReadable_of_plain 1 (plain_kindContent hkind))
    exact notMem_kindContent hname (List.mem_map_of_mem hf)
  have htagged : taggedFields? SourceKind.names true s.kindContent =
      some (s.type.word, .named s.kind.content) :=
    taggedFields?_cons (SourceKind.notMem_content List.mem_cons_self)
  have hfields : Record.read? (SourceKind.fields s.type.word) (.named s.kind.content) =
      some s.kind :=
    (s.kind.takes_content hkind).read?
  rw [toJson_eq, ofJson?, object?]
  simp [(takes_commonFields standing h).read?, hheld, htagged, hfields]

/-! ## Bounds of what is read -/

/-- What all sources have in common is read within the bounds, whatever the kind. -/
theorem yields_commonFields (standing : Standing) :
    Yields (fun make => ∀ kind : SourceKind, (make kind).position = 0 ∧ (make kind).kind = kind ∧
      ∀ op ∈ (make kind).computes, op.InWords) (commonFields standing) :=
  yields_step fun _ => yields_step fun _ =>
    .bind (yields_withDefault (Q := fun computes => ∀ op ∈ computes, Operator.InWords op)
      (List.forall_mem_nil _) fun _ _ => forall_of_list? fun _ _ =>
        Operator.inWords_of_ofJson?) fun _ hcomputes =>
        yields_step fun _ => yields_pure fun _ => ⟨rfl, rfl, hcomputes⟩

/-- The numbers of a source that was read fit in 64-bit words, and it is the first of its job as
far as its document says. -/
theorem inWords_of_ofJson? {standing : Standing} {v : Json} {s : Source}
    (h : ofJson? standing v = some s) : s.position = 0 ∧ s.InWords := by
  cases v with
  | object fields =>
    obtain ⟨make, hmake, h⟩ := Option.bind_eq_some_iff.1 h
    obtain ⟨rest, -, h⟩ := Option.bind_eq_some_iff.1 h
    obtain ⟨⟨kind, record⟩, -, h⟩ := Option.bind_eq_some_iff.1 h
    obtain ⟨details, hdetails, rfl⟩ := Option.map_eq_some_iff.1 h
    obtain ⟨hposition, hkind, hcomputes⟩ := (yields_commonFields standing).of_read? hmake details
    refine ⟨hposition, forall_numbers_iff.2 ⟨hcomputes, ?_⟩⟩
    rw [hkind]
    exact (SourceKind.yields_fields kind).of_read? hdetails
  | _ => cases h

end Source

end HardwareWatch
