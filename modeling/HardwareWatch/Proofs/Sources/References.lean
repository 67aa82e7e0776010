import HardwareWatch.Proofs.Sources.Lookups
import HardwareWatch.Proofs.Sources.InOrder

/-!
# References and the tables that are looked up

What a source refers to is found in its document, what it looks up follows from its operands when it
runs. The two can differ in three ways: characters of a key are escaped in the document, a text that
leaves a reference open hides what is written behind it, and a reference can be made up of what is
filled in. Otherwise every key that a source looks up is among its references, and the sources with
these keys run in earlier waves.

* `Source.Closed` says that no text of a source leaves a reference open, `Source.SpellsOut` that one
  of them names a key.
* `Source.mem_references_iff_of_mem_lookups` says for every key that a source looks up when it is
  among the references.
* `Source.readsOnlyReferences`: a source that spells out all that it looks up reads no other table.
-/

namespace HardwareWatch

open Json

namespace Source

/-- No text of the document leaves a reference open. -/
def Closed (s : Source) : Prop := ∀ t ∈ s.texts, Reference.Closed t.toList

/-- A text of the document names the key. -/
def SpellsOut (s : Source) (k : String) : Prop := ∃ t ∈ s.texts, Reference.Names t.toList k.toList

variable {s : Source} {k : String}

/-! ## What is found in the document -/

theorem mem_references_iff :
    k ∈ s.references ↔ k ≠ s.key ∧ k.toList ∈ Reference.keysFrom 0 s.toJson.printChars := by
  have hkeys : k ∈ (Reference.keysFrom 0 s.toJson.printChars).map String.ofList ↔
      k.toList ∈ Reference.keysFrom 0 s.toJson.printChars := by
    rw [List.mem_map]
    constructor
    · rintro ⟨key, hkey, rfl⟩
      rwa [String.toList_ofList]
    · exact fun h => ⟨k.toList, h, String.ofList_toList⟩
  rw [references_eq, List.mem_eraseDups, List.mem_filter, hkeys, and_comm, decide_eq_true_eq]

theorem mem_references_iff_names (hkey : Reference.isKey k.toList) :
    k ∈ s.references ↔ k ≠ s.key ∧ Reference.Names s.toJson.printChars k.toList := by
  rw [mem_references_iff, Reference.mem_keysFrom_iff, and_iff_left hkey]

/-- Where no reference is left open, the references are found text by text. -/
theorem mem_references_iff_of_closed (h : s.Closed) :
    k ∈ s.references ↔ k ≠ s.key ∧ Reference.isKey k.toList ∧
      ∃ t ∈ s.texts, ∃ name, Reference.Names t.toList name ∧ k.toList = inQuotes name := by
  have hplain : Plain (fun _ => True) (0 + 4) s.toJson := plain_toJson fun _ _ => trivial
  rw [mem_references_iff, mem_keysFrom_printChars hplain h]
  rfl

theorem mem_references_iff_spellsOut (h : s.Closed) (hkey : Reference.isKey k.toList)
    (hescape : Unescaped k.toList) : k ∈ s.references ↔ k ≠ s.key ∧ s.SpellsOut k := by
  rw [mem_references_iff_of_closed h]
  refine and_congr_right fun _ => ⟨?_, ?_⟩
  · rintro ⟨-, t, ht, name, hname, he⟩
    exact ⟨t, ht, eq_of_inQuotes_eq hescape he ▸ hname⟩
  · rintro ⟨t, ht, hname⟩
    exact ⟨hkey, t, ht, k.toList, hname, (inQuotes_of_unescaped hescape).symm⟩

/-- Texts without dollars leave no reference open, nor do texts that are one reference. -/
theorem closed_of_forall (h : ∀ t ∈ s.texts, '$' ∉ t.toList ∨ (Reference.key? t).isSome) :
    s.Closed := by
  intro t ht
  rcases h t ht with hdollar | hkey
  · exact Reference.closed_of_notMem hdollar
  · obtain ⟨key, hkey⟩ := Option.isSome_iff_exists.1 (Option.isSome_map.symm.trans hkey)
    exact Reference.closed_of_keyOf? hkey

/-! ## What is looked up -/

theorem names_of_key? {t : String} (h : Reference.key? t = some k) :
    Reference.Names t.toList k.toList ∧ Reference.isKey k.toList := by
  obtain ⟨key, hkey, rfl⟩ := Option.map_eq_some_iff.1 h
  rw [String.toList_ofList]
  exact Reference.names_of_keyOf? hkey

theorem isKey_of_mem_lookups {attributes : Option (NameMap String)} {tables : Namespace}
    (h : k ∈ s.lookups attributes tables) : Reference.isKey k.toList := by
  obtain ⟨o, -, hk⟩ := List.mem_filterMap.1 h
  exact (names_of_key? hk).2

/-- Operands without gaps spell out what is looked up. -/
theorem spellsOut_of_mem_lookups (hgaps : ∀ o ∈ s.declaredOperands, Gapless o)
    {attributes : Option (NameMap String)} {tables : Namespace}
    (h : k ∈ s.lookups attributes tables) : s.SpellsOut k := by
  obtain ⟨o, ho, hk⟩ := List.mem_filterMap.1 h
  have hsame := declaredOperands_filled hgaps attributes
  have hdeclared := mem_declaredOperands_of_mem_operands (hsame ▸ hgaps) ho
  rw [hsame] at hdeclared
  exact ⟨o, mem_texts_of_mem_declaredOperands hdeclared, (names_of_key? hk).1⟩

/-- **The keys that a source looks up and its references.** What a source comes to depends on no
tables but those with the keys that it looks up. A key that it looks up, not its own, is among its
references exactly if its document names it: if no text leaves a reference open, exactly if a text
names a key that is written like it in quotes, and for a key without escapes exactly if a text names
it, as is the case where nothing can be filled in. The last source with the key that is declared
before is then in an earlier wave. -/
theorem mem_references_iff_of_mem_lookups {s : Source} (hwords : s.InWords) (x : SourceRun)
    (attributes : Option (NameMap String)) (tables : Namespace) :
    (∀ tables', (∀ k ∈ s.lookups attributes tables, tables'.get? k = tables.get? k) →
      x.execute s tables' attributes = x.execute s tables attributes) ∧
    ∀ k ∈ s.lookups attributes tables, k ≠ s.key →
      (k ∈ s.references ↔ Reference.Names s.toJson.printChars k.toList) ∧
      (s.Closed → (k ∈ s.references ↔
        ∃ t ∈ s.texts, ∃ name, Reference.Names t.toList name ∧ k.toList = inQuotes name)) ∧
      (s.Closed → Unescaped k.toList → (k ∈ s.references ↔ s.SpellsOut k)) ∧
      ((∀ o ∈ s.declaredOperands, Gapless o) → s.SpellsOut k) ∧
      ∀ before s' between after, s'.key = k → (∀ v ∈ between, v.key ≠ k) → k ∈ s.references →
        InEarlierWave (dependencyWaves (before ++ s' :: (between ++ s :: after))) s' s := by
  refine ⟨fun tables' h => SourceRun.execute_congr hwords h, fun k hk hne => ?_⟩
  have hkey := isKey_of_mem_lookups hk
  refine ⟨?_, fun hclosed => ?_, fun hclosed hescape => ?_, fun hgaps => ?_, ?_⟩
  · rw [mem_references_iff_names hkey, and_iff_right hne]
  · rw [mem_references_iff_of_closed hclosed, and_iff_right hne, and_iff_right hkey]
  · rw [mem_references_iff_spellsOut hclosed hkey hescape, and_iff_right hne]
  · exact spellsOut_of_mem_lookups hgaps hk
  · rintro before s' between after rfl hbetween hr
    exact inEarlierWave_of_mem_references hr hbetween

end Source

/-! ### Copies of tables that another table lists -/

namespace ListedCopies

/-- For every row of a table, a copy of the table whose key is in the row. The first cell of a third
table is put behind the cells. -/
def copies : Source :=
  ⟨"c", 2, false, [.concat .append 1 "$\x7bsource::b\x7d"], some ⟨"$\x7bsource::a\x7d", .list⟩,
    .copy "$\x7bsource::$1\x7d"⟩

/-- A list of one table. -/
def list : Source := ⟨"a", 0, false, [], none, .static "d"⟩

/-- A text to put behind the cells. -/
def suffix : Source := ⟨"b", 1, false, [], none, .static "x"⟩

/-- The tables of both. -/
def tables : Namespace := .ofList [("a", .ofRows [["d"]]), ("b", .ofRows [["x"]])]

theorem closed_copies : copies.Closed := Source.closed_of_forall (by decide +kernel)

/-- Three tables are looked up. The two that are named in the document are referred to and come
first, the one that is named in the row is not. -/
theorem references_of_copies :
    copies.lookups none tables = ["a", "d", "b"] ∧
      (∀ tables' : Namespace, (∀ k ∈ ["a", "d", "b"], tables'.get? k = tables.get? k) →
        TextAndCopy.run.execute copies tables' none = TextAndCopy.run.execute copies tables none) ∧
      "a" ∈ copies.references ∧ "b" ∈ copies.references ∧ "d" ∉ copies.references ∧
      InEarlierWave (dependencyWaves [list, suffix, copies]) list copies := by
  have hwords : copies.InWords := by decide
  have hlookups : copies.lookups none tables = ["a", "d", "b"] := by decide +kernel
  obtain ⟨hframe, hlisted⟩ :=
    Source.mem_references_iff_of_mem_lookups hwords TextAndCopy.run none tables
  rw [hlookups] at hframe hlisted
  have spelled {k : String} (hk : k ∈ ["a", "d", "b"]) (hne : k ≠ copies.key)
      (hescape : Unescaped k.toList) : k ∈ copies.references ↔ copies.SpellsOut k :=
    (hlisted k hk hne).2.2.1 closed_copies hescape
  have ha : "a" ∈ copies.references := by
    refine (spelled (by decide) (by decide) (by decide)).2 ⟨"$\x7bsource::a\x7d", by decide, ?_⟩
    exact (Source.names_of_key? (by decide +kernel)).1
  have hb : "b" ∈ copies.references := by
    refine (spelled (by decide) (by decide) (by decide)).2 ⟨"$\x7bsource::b\x7d", by decide, ?_⟩
    exact (Source.names_of_key? (by decide +kernel)).1
  have hd : "d" ∉ copies.references := by
    rw [Source.references_eq]
    decide +kernel
  refine ⟨hlookups, hframe, ha, hb, hd, ?_⟩
  exact (hlisted "a" (by decide) (by decide)).2.2.2.2 [] list [suffix] [] rfl (by decide) ha

end ListedCopies

/-! ### A key with a quote -/

namespace QuotedKey

/-- The key of a source, with a quote. -/
def key : String := "a\x22b"

/-- A source that is a text. -/
def text : Source := ⟨key, 0, false, [], none, .static "x"⟩

/-- A copy of it. -/
def copied : Source := ⟨"c", 1, false, [], none, .copy "$\x7bsource::a\x22b\x7d"⟩

theorem references_text : text.references = [] := by
  rw [Source.references_eq]
  decide +kernel

theorem references_copied : copied.references = ["a\\\x22b"] := by
  rw [Source.references_eq]
  decide +kernel

theorem dependencyWaves_eq : dependencyWaves [text, copied] = [[text, copied]] := by
  simp only [dependencyWaves, levels, levelOf, references_text, references_copied]
  decide +kernel

/-- The copy looks the key up and comes to its table, but the key is not among its references, since
the quote is escaped in the document. Both sources are in one wave. -/
theorem not_listed :
    key ∈ copied.lookups none .empty ∧
      TextAndCopy.run.execute copied .empty none = pure (.ok .empty) ∧
      TextAndCopy.run.execute copied (.ofList [(key, .ofRaw "x")]) none = pure (.ok (.ofRaw "x")) ∧
      key ≠ copied.key ∧ key ∉ copied.references ∧
      dependencyWaves [text, copied] = [[text, copied]] := by
  have hkey : Reference.key? "$\x7bsource::a\x22b\x7d" = some key := by decide +kernel
  have hexecute (tables : Namespace) : TextAndCopy.run.execute copied tables none =
      pure (.ok ((tables.get? key).getD .empty)) := by
    have hlookup : Table.lookup "$\x7bsource::a\x22b\x7d" tables = tables.get? key := by
      rw [Table.lookup, hkey]
    rw [← hlookup]
    rfl
  have hthere : ((NameMap.ofList [(key, Table.ofRaw "x")]).get? key).getD .empty = .ofRaw "x" := by
    decide +kernel
  have hlisted : key ∉ copied.references := by
    rw [references_copied]
    decide
  refine ⟨by decide +kernel, hexecute _, ?_, by decide, hlisted, dependencyWaves_eq⟩
  rw [hexecute, hthere]

end QuotedKey

/-! ## Sources that read only what they refer to -/

namespace Source

variable {s : Source}

/-- A source whose operands have no gaps, that leaves no reference open and escapes nothing in its
keys, reads no table but those it refers to, unless it refers to itself. -/
theorem readsOnlyReferences (hwords : s.InWords) (hclosed : s.Closed)
    (hgaps : ∀ o ∈ s.declaredOperands, Gapless o)
    (hkeys : ∀ k, s.SpellsOut k → k ≠ s.key ∧ Unescaped k.toList) (x : SourceRun)
    (attributes : Option (NameMap String)) : x.ReadsOnlyReferences attributes s := by
  intro tables tables' h
  refine (SourceRun.execute_congr hwords fun k hk => (h k ?_).symm).symm
  have hspells := spellsOut_of_mem_lookups hgaps hk
  obtain ⟨hne, hescape⟩ := hkeys k hspells
  exact (mem_references_iff_spellsOut hclosed (isKey_of_mem_lookups hk) hescape).2 ⟨hne, hspells⟩

end Source

end HardwareWatch
