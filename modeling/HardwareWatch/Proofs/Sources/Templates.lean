import HardwareWatch.Proofs.Sources.Filling

/-!
# What filling changes in a source

The source for a row and the source for a monitor go through a document and back, with one function
applied to all texts of the document, words for kinds included. Neither ever fails, and both are the
source with the function applied to the texts that a connector can write there.

* `Source.SameForm` says that two sources differ in their texts only; `Source.sameForm_mapTexts` says
  so of a source and the one with its texts replaced.
* `Source.templates_filled` is the main statement.
-/

namespace HardwareWatch

/-! ## Occurrences -/

theorem Chars.hasInfix_iff {p s : Chars} : hasInfix p s = true ↔ p <:+: s := by
  induction s with
  | nil =>
    cases p with
    | nil => exact iff_of_true rfl List.infix_rfl
    | cons d p => exact iff_of_false Bool.false_ne_true (by simp)
  | cons c s ih =>
    rw [List.infix_cons_iff, ← ih, hasInfix, hasInfix, breakOn?]
    cases hprefix : dropPrefix? p (c :: s) with
    | some rest => exact iff_of_true rfl (.inl ⟨rest, (eq_append_of_dropPrefix? hprefix).symm⟩)
    | none =>
      have hnot : ¬p <+: c :: s := by
        rintro ⟨rest, hrest⟩
        rw [← hrest, dropPrefix?_append] at hprefix
        cases hprefix
      simp [hnot]

/-! ## Texts replaced twice -/

section Twice

variable (f g : String → String)

theorem TranslationRef.mapTexts_mapTexts (t : TranslationRef) :
    (t.mapTexts f).mapTexts g = t.mapTexts fun text => g (f text) := by
  cases t with
  | named name => rfl
  | inline table => exact congrArg inline (NameMap.mapEntries_mapEntries table _ _)

theorem Operator.mapTexts_mapTexts (op : Operator) :
    (op.mapTexts f).mapTexts g = op.mapTexts fun text => g (f text) := by
  cases op <;>
    simp [mapTexts, TranslationRef.mapTexts_mapTexts, Function.comp_def]

theorem EntryMerge.mapTexts_mapTexts (m : EntryMerge) :
    (m.mapTexts f).mapTexts g = m.mapTexts fun text => g (f text) := by
  cases m <;> rfl

theorem SourceKind.mapTexts_mapTexts (kind : SourceKind) :
    (kind.mapTexts f).mapTexts g = kind.mapTexts fun text => g (f text) := by
  cases kind <;> simp [mapTexts, mapQueryTexts, Function.comp_def]

theorem Source.mapTexts_mapTexts (s : Source) :
    (s.mapTexts f).mapTexts g = s.mapTexts fun text => g (f text) := by
  have hentries (e : EntryLoop) : (e.mapTexts f).mapTexts g = e.mapTexts fun text => g (f text) :=
    congrArg (EntryLoop.mk _) (EntryMerge.mapTexts_mapTexts f g e.merge)
  simp [mapTexts, SourceKind.mapTexts_mapTexts, Operator.mapTexts_mapTexts, Function.comp_def,
    hentries]

end Twice

/-! ## What is kept -/

/-- The values that a translation written out has translations of. -/
def TranslationRef.keys : TranslationRef → List String
  | named _ => []
  | inline table => table.keys

/-- The values that are translated by a translation in the operator itself. -/
def Operator.translationKeys : Operator → List String
  | translate _ table | arrayTranslate _ table .. | perBitTranslation _ _ table => table.keys
  | arithmetic .. | bitwise .. | substring .. | lines .. | duplicateColumn _ | concat .. | replace ..
  | extract .. | pathProperty .. | keepColumns _ | convert .. | fromJson .. | fromXml .. | awk _ => []

/-- The details of a kind that are on or off. -/
def SourceKind.flags : SourceKind → List Bool
  | commandLine c => [c.executeLocally]
  | http _ | snmpGet _ | snmpTable .. | wmi _ | wbem _ | ipmi | sql _ | copy _ | static _
  | tableUnion _ | tableJoin _ => []

namespace Source

/-- All that is on or off in a source. -/
def flags (s : Source) : List Bool := s.forceSerialization :: s.kind.flags

/-- The values that are translated by the translations in the operators themselves. -/
def translationKeys (s : Source) : List (List String) := s.computes.map Operator.translationKeys

/-- The sources differ in their texts only. -/
structure SameForm (s t : Source) : Prop where
  position : s.position = t.position
  type : s.type = t.type
  flags : s.flags = t.flags
  numbers : s.numbers = t.numbers
  translationKeys : s.translationKeys = t.translationKeys
  /-- With all texts left empty they are equal. -/
  blanked : (s.mapTexts fun _ => "") = t.mapTexts fun _ => ""

variable {f : String → String}

theorem sameForm_mapTexts (f : String → String) (s : Source) : s.SameForm (s.mapTexts f) where
  position := rfl
  type := s.kind.type_mapTexts.symm
  flags := by
    have hkind : (s.kind.mapTexts f).flags = s.kind.flags := by cases s.kind <;> rfl
    rw [flags, flags, mapTexts, hkind]
  numbers := s.numbers_mapTexts.symm
  translationKeys := by
    have htable (t : TranslationRef) : (t.mapTexts f).keys = t.keys := by
      cases t with
      | named name => rfl
      | inline table => simp [TranslationRef.mapTexts, TranslationRef.keys, NameMap.keys,
          NameMap.mapEntries]
    have hoperator (op : Operator) : (op.mapTexts f).translationKeys = op.translationKeys := by
      cases op <;> first | exact htable _ | rfl
    simp [translationKeys, mapTexts, hoperator]
  blanked := (mapTexts_mapTexts f (fun _ => "") s).symm

/-- The source has its texts replaced by their images, field by field and in its document, and is
otherwise as it was. -/
structure Rewritten (f : String → String) (s t : Source) : Prop where
  eq : t = s.mapTexts f
  document : t.toJson = s.toJson.mapTexts f
  form : s.SameForm t

theorem rewritten_mapTexts (hf : KeepsGapless f) (s : Source) : Rewritten f s (s.mapTexts f) :=
  ⟨rfl, toJson_mapTexts hf s, sameForm_mapTexts f s⟩

theorem hasAttributeGap_iff {s : Source} :
    s.hasAttributeGap ↔ AttributeGap.opening <:+: s.toJson.print.toList := by
  rw [hasAttributeGap, Chars.hasInfix_iff, Json.print, String.toList_ofList]

/-- **Filling a source never fails and replaces its texts alone.** The source for a row is the one
without operators and loop, each of its texts with the columns of the row in it. The source for a
monitor is missing exactly where no gap for an attribute opens in its document; else it is the source
with the attributes in each of its texts, those of its operators, of the translations in them and of
its loop included. Kind, numbers, flags, translated values and position stay. -/
theorem templates_filled {s : Source} (h : s.InWords) :
    (∀ row, ∃ t, s.forRow? row = some t ∧
      Rewritten (Column.substitute row) { s with computes := [], entries := none } t) ∧
    ∀ attributes, ∃ filled, s.withAttributes? attributes = some filled ∧
      (filled = none ↔ ¬AttributeGap.opening <:+: s.toJson.print.toList) ∧
      ∀ t ∈ filled, Rewritten (AttributeGap.fill attributes) s t := by
  refine ⟨fun row => ⟨_, forRow?_eq h row, rewritten_mapTexts ?_ _⟩, fun attributes =>
    ⟨_, withAttributes?_eq h attributes, ?_, fun t ht => ?_⟩⟩
  · exact Column.keepsGapless_substitute row
  · simp [hasAttributeGap_iff]
  · obtain ⟨-, rfl⟩ : s.hasAttributeGap ∧ s.mapTexts (AttributeGap.fill attributes) = t := by
      simpa using ht
    exact rewritten_mapTexts (AttributeGap.keepsGapless_fill attributes) s

end Source

/-! ## A source with gaps everywhere -/

namespace GapsEverywhere

/-- A command for each disk, whose output is translated. -/
def template : Source :=
  ⟨"$1", 3, true,
    [.translate 2 (.inline (.ofList [("$1", "$1"), ("on", "$\x7battribute::id\x7d")]))],
    some ⟨"$\x7bsource::ids\x7d", .custom "<$1>" "$\x7battribute::id\x7d"⟩,
    .commandLine ⟨"state $1 $\x7battribute::id\x7d", true, some 5, none, none, some 2, none, none,
      none⟩⟩

/-- The attributes of a monitor. -/
def attributes : NameMap String := .ofList [("id", "d0")]

theorem inWords : template.InWords := by
  have hnumbers : template.numbers = [2, 5, 2] := rfl
  simp [Source.InWords, hnumbers, word64]

/-- The source for a row, and the source for the monitor. -/
theorem template_filled :
    template.InWords ∧
      template.forRow? ["a", "b"] = some ⟨"a", 3, true, [], none,
        .commandLine ⟨"state a $\x7battribute::id\x7d", true, some 5, none, none, some 2, none, none,
          none⟩⟩ ∧
      template.withAttributes? attributes = some (some ⟨"$1", 3, true,
        [.translate 2 (.inline (.ofList [("$1", "$1"), ("on", "d0")]))],
        some ⟨"$\x7bsource::ids\x7d", .custom "<$1>" "d0"⟩,
        .commandLine ⟨"state $1 d0", true, some 5, none, none, some 2, none, none, none⟩⟩) := by
  obtain ⟨hrow, hmonitor⟩ := Source.templates_filled inWords
  obtain ⟨entry, hentry, hfilledRow⟩ := hrow ["a", "b"]
  obtain ⟨filled, hfilled, hnone, hsome⟩ := hmonitor attributes
  have hgap := Source.hasAttributeGap_iff.1 (show template.hasAttributeGap by decide +kernel)
  refine ⟨inWords, hentry.trans ?_, hfilled.trans ?_⟩
  · rw [hfilledRow.eq]
    decide +kernel
  · obtain ⟨t, rfl⟩ := Option.ne_none_iff_exists'.1 fun he => hnone.1 he hgap
    rw [(hsome t rfl).eq]
    decide +kernel

end GapsEverywhere

end HardwareWatch
