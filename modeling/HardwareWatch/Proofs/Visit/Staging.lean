import HardwareWatch.Proofs.Text.Numerals
import HardwareWatch.Proofs.Visit.Selection
import Mathlib.Data.List.DropRight

/-!
# Which connectors a host chooses

The directives of a host are texts. Each of them is the name of a connector or a tag behind some
marks, and together they say which connectors of a store are staged.

* `Directive.IsSaidBy` says what a text means without reading it from left to right, and
  `Directive.parse?_eq_some_iff` that it is read so.
* `HostSettings.Forces`, `HostSettings.Excludes`, `HostSettings.Includes` and `HostSettings.Admits`
  are what a host wants of a connector.
* `stageOne?_eq_some_iff` says how one connector is staged.
* `stage_chooses` says which connectors of a store are staged, and in which order.
-/

namespace HardwareWatch

/-! ## What a directive says -/

namespace Directive

/-- What stands in front of the name. -/
def marks : Directive → List Char
  | force _ => ['+']
  | includeId _ => []
  | includeTag _ => ['#']
  | excludeId _ => ['!']
  | excludeTag _ => ['!', '#']

/-- With what the name does not begin, since it would be a mark. -/
def furtherMarks : Directive → List Char
  | includeId _ => ['+', '!', '#']
  | excludeId _ => ['#']
  | _ => []

/-- The id or the tag. -/
def name : Directive → String
  | force id => id
  | includeId id => id
  | includeTag tag => tag
  | excludeId id => id
  | excludeTag tag => tag

/-- The text is a name behind some marks. Blanks around the marks and the name do not count. -/
def Spells : List Char → Chars → Chars → Prop
  | [], name, text => Chars.trim text = name
  | mark :: marks, name, text => ∃ rest, Chars.trim text = mark :: rest ∧ Spells marks name rest

/-- The text says the directive: behind the marks of the directive stands the name, in whatever
case. A blank text says nothing. -/
def IsSaidBy (d : Directive) (text : String) : Prop :=
  Text.isBlank text = false ∧ ∃ name : Chars, Spells d.marks name text.toList ∧
    (∀ c ∈ name.head?, c ∉ d.furtherMarks) ∧ Text.lowercase (.ofList name) = d.name

theorem parse?_of_trim_eq_cons_bang {text : String} {rest : Chars}
    (h : Chars.trim text.toList = '!' :: rest) : parse? text =
      match Chars.trim rest with
      | '#' :: tag => some (excludeTag (bare tag))
      | id => some (excludeId (bare id)) := by
  rw [parse?, h]
  rfl

theorem parse?_of_isSaidBy {text : String} {d : Directive} (h : d.IsSaidBy text) :
    parse? text = some d := by
  obtain ⟨hblank, name, hspells, hname, hd⟩ := h
  cases d with
  | force id =>
    obtain ⟨rest, htext, rfl⟩ := hspells
    rw [parse?, htext]
    exact congrArg (some ∘ force) hd
  | includeTag tag =>
    obtain ⟨rest, htext, rfl⟩ := hspells
    rw [parse?, htext]
    exact congrArg (some ∘ includeTag) hd
  | excludeTag tag =>
    obtain ⟨rest, htext, rest', hrest, rfl⟩ := hspells
    rw [parse?_of_trim_eq_cons_bang htext, hrest]
    exact congrArg (some ∘ excludeTag) hd
  | excludeId id =>
    obtain ⟨rest, htext, rfl⟩ := hspells
    rw [parse?_of_trim_eq_cons_bang htext]
    split
    · rename_i tag hrest
      exact absurd (hname '#' (by rw [hrest]; rfl)) (by simp [furtherMarks])
    · rw [bare, Chars.trim_trim]
      exact congrArg (some ∘ excludeId) hd
  | includeId id =>
    obtain rfl : Chars.trim text.toList = name := hspells
    rw [parse?]
    split
    · rename_i rest hrest
      exact absurd (hname '+' (by rw [hrest]; rfl)) (by simp [furtherMarks])
    · rename_i rest hrest
      exact absurd (hname '!' (by rw [hrest]; rfl)) (by simp [furtherMarks])
    · rename_i rest hrest
      exact absurd (hname '#' (by rw [hrest]; rfl)) (by simp [furtherMarks])
    · rename_i hnil
      exact absurd ((Chars.trim_eq_nil_iff _).1 hnil) (Bool.eq_false_iff.1 hblank)
    · rw [bare, Chars.trim_trim]
      exact congrArg (some ∘ includeId) hd

theorem isSaidBy_of_parse? {text : String} {d : Directive} (h : parse? text = some d) :
    d.IsSaidBy text := by
  have hblank : Chars.trim text.toList ≠ [] → Text.isBlank text = false := fun hne =>
    Bool.eq_false_iff.2 fun hb => hne ((Chars.trim_eq_nil_iff _).2 hb)
  rw [parse?] at h
  split at h
  · rename_i rest hrest
    cases h
    exact ⟨hblank (by simp [hrest]), _, ⟨rest, hrest, rfl⟩, by simp [furtherMarks], rfl⟩
  · rename_i rest hrest
    split at h
    · rename_i tag htag
      cases h
      exact ⟨hblank (by simp [hrest]), _, ⟨rest, hrest, tag, htag, rfl⟩, by simp [furtherMarks],
        rfl⟩
    · rename_i hnot
      cases h
      refine ⟨hblank (by simp [hrest]), _, ⟨rest, hrest, rfl⟩, fun c hc hmem => ?_, ?_⟩
      · obtain ⟨tag, htag⟩ := List.head?_eq_some_iff.1 (Option.mem_def.1 hc)
        rw [List.mem_singleton.1 hmem] at htag
        exact hnot tag htag
      · rw [name, bare, Chars.trim_trim]
  · rename_i rest hrest
    cases h
    exact ⟨hblank (by simp [hrest]), _, ⟨rest, hrest, rfl⟩, by simp [furtherMarks], rfl⟩
  · cases h
  · rename_i hplus hbang hhash hnil
    cases h
    refine ⟨hblank hnil, _, rfl, fun c hc hmem => ?_, ?_⟩
    · obtain ⟨rest, hrest⟩ := List.head?_eq_some_iff.1 (Option.mem_def.1 hc)
      simp only [furtherMarks, List.mem_cons, List.not_mem_nil, or_false] at hmem
      rcases hmem with rfl | rfl | rfl
      · exact hplus rest hrest
      · exact hbang rest hrest
      · exact hhash rest hrest
    · rw [name, bare, Chars.trim_trim]

/-- **How a directive is read**: as what its text says. -/
theorem parse?_eq_some_iff {text : String} {d : Directive} :
    parse? text = some d ↔ d.IsSaidBy text :=
  ⟨isSaidBy_of_parse?, parse?_of_isSaidBy⟩

/-- A text says one thing only. -/
theorem IsSaidBy.unique {text : String} {d d' : Directive} (h : d.IsSaidBy text)
    (h' : d'.IsSaidBy text) : d = d' := by
  rw [← parse?_eq_some_iff] at h h'
  exact Option.some.inj (h.symm.trans h')

end Directive

/-! ## What a host wants of a connector -/

namespace HostSettings

/-- One of the directives of the host says it. -/
def Wants (host : HostSettings) (d : Directive) : Prop :=
  ∃ text ∈ host.directives.keys, d.IsSaidBy text

/-- A directive forces the connector. -/
def Forces (host : HostSettings) (c : Connector) : Prop :=
  host.Wants (.force (Text.lowercase c.id))

/-- A directive includes the connector by its id. -/
def IncludesById (host : HostSettings) (c : Connector) : Prop :=
  host.Wants (.includeId (Text.lowercase c.id))

/-- A directive includes the connector by its id or one of its tags. -/
def Includes (host : HostSettings) (c : Connector) : Prop :=
  host.IncludesById c ∨ ∃ tag, host.Wants (.includeTag tag) ∧ c.hasTag tag = true

/-- A directive excludes the connector by its id or one of its tags. -/
def Excludes (host : HostSettings) (c : Connector) : Prop :=
  host.Wants (.excludeId (Text.lowercase c.id)) ∨
    ∃ tag, host.Wants (.excludeTag tag) ∧ c.hasTag tag = true

/-- The connector may be staged without being forced. -/
structure Admits (host : HostSettings) (c : Connector) : Prop where
  notExcluded : ¬host.Excludes c
  /-- Where directives include connectors, one includes this one. -/
  included : (∃ name, host.Wants (.includeId name) ∨ host.Wants (.includeTag name)) →
    host.Includes c
  /-- It allows automatic detection or is asked for. -/
  automatic : c.detection.disableAutoDetection = false ∨ host.IncludesById c
  applies : c.detection.appliesTo = [] ∨ host.kind ∈ c.detection.appliesTo

/-- The host with one more directive. -/
def withDirective (host : HostSettings) (text : String) : HostSettings :=
  { host with directives := host.directives.add text }

variable {host : HostSettings} {c : Connector} {d : Directive}

theorem mem_wishes_iff : d ∈ host.wishes ↔ host.Wants d := by
  simp only [wishes, List.mem_filterMap, Directive.parse?_eq_some_iff, Wants]

theorem any_wishes_iff {p : Directive → Bool} :
    host.wishes.any p = true ↔ ∃ d, host.Wants d ∧ p d = true := by
  simp only [List.any_eq_true, mem_wishes_iff]

theorem wants_withDirective_iff {text : String} :
    (host.withDirective text).Wants d ↔ d.IsSaidBy text ∨ host.Wants d := by
  have hkeys : ∀ name, name ∈ (host.withDirective text).directives.keys ↔
      name = text ∨ name ∈ host.directives.keys := fun name => by
    rw [NameMap.mem_keys_iff, NameMap.mem_keys_iff]
    change (host.directives.add text).has name = true ↔ _ ∨ host.directives.has name = true
    rw [NameSet.has_add, Bool.or_eq_true, decide_eq_true_eq, eq_comm]
  simp only [Wants, hkeys, or_and_right, exists_or, exists_eq_left]

end HostSettings

/-! ## What is staged -/

section

variable {host : HostSettings} {c : Connector}

theorem isExcluded_iff :
    isExcluded host.wishes (Text.lowercase c.id) c = true ↔ host.Excludes c := by
  rw [isExcluded, HostSettings.any_wishes_iff, HostSettings.Excludes]
  constructor
  · rintro ⟨d, hd, h⟩
    cases d with
    | excludeId id => exact .inl (beq_iff_eq.1 h ▸ hd)
    | excludeTag tag => exact .inr ⟨tag, hd, h⟩
    | _ => cases h
  · rintro (hd | ⟨tag, hd, h⟩)
    · exact ⟨_, hd, beq_self_eq_true _⟩
    · exact ⟨_, hd, h⟩

theorem any_isInclusion_iff : host.wishes.any Directive.isInclusion = true ↔
    ∃ name, host.Wants (.includeId name) ∨ host.Wants (.includeTag name) := by
  rw [HostSettings.any_wishes_iff]
  constructor
  · rintro ⟨d, hd, h⟩
    cases d with
    | includeId id => exact ⟨id, .inl hd⟩
    | includeTag tag => exact ⟨tag, .inr hd⟩
    | _ => cases h
  · rintro ⟨name, hd | hd⟩
    · exact ⟨_, hd, rfl⟩
    · exact ⟨_, hd, rfl⟩

theorem isIncluded_iff : isIncluded host.wishes (Text.lowercase c.id) c = true ↔
    ((∃ name, host.Wants (.includeId name) ∨ host.Wants (.includeTag name)) →
      host.Includes c) := by
  rw [isIncluded, Bool.or_eq_true, Bool.not_eq_true', ← any_isInclusion_iff, imp_iff_not_or,
    Bool.not_eq_true]
  refine or_congr_right (HostSettings.any_wishes_iff.trans ⟨?_, ?_⟩)
  · rintro ⟨d, hd, h⟩
    cases d with
    | includeId id =>
      obtain rfl : id = Text.lowercase c.id := beq_iff_eq.1 h
      exact .inl hd
    | includeTag tag => exact .inr ⟨tag, hd, h⟩
    | _ => cases h
  · rintro (hd | ⟨tag, hd, h⟩)
    · exact ⟨_, hd, beq_self_eq_true _⟩
    · exact ⟨_, hd, h⟩

theorem isEligible_iff : isEligible host (Text.lowercase c.id) c = true ↔ host.Admits c := by
  have hexcluded : (!isExcluded host.wishes (Text.lowercase c.id) c) = true ↔
      ¬host.Excludes c := by
    rw [Bool.not_eq_true', ← isExcluded_iff, Bool.not_eq_true]
  have hautomatic : (!c.detection.disableAutoDetection ||
      host.wishes.contains (.includeId (Text.lowercase c.id))) = true ↔
      c.detection.disableAutoDetection = false ∨ host.IncludesById c := by
    rw [Bool.or_eq_true, Bool.not_eq_true', List.contains_iff_mem, HostSettings.mem_wishes_iff,
      HostSettings.IncludesById]
  have happlies : (c.detection.appliesTo.isEmpty || c.detection.appliesTo.contains host.kind) =
      true ↔ c.detection.appliesTo = [] ∨ host.kind ∈ c.detection.appliesTo := by
    rw [Bool.or_eq_true, List.isEmpty_iff, List.contains_iff_mem]
  rw [isEligible, Bool.and_eq_true, Bool.and_eq_true, Bool.and_eq_true, hexcluded, isIncluded_iff,
    hautomatic, happlies]
  exact ⟨fun ⟨⟨⟨h₁, h₂⟩, h₃⟩, h₄⟩ => ⟨h₁, h₂, h₃, h₄⟩, fun ⟨h₁, h₂, h₃, h₄⟩ => ⟨⟨⟨h₁, h₂⟩, h₃⟩, h₄⟩⟩

theorem contains_force_iff :
    host.wishes.contains (.force (Text.lowercase c.id)) = true ↔ host.Forces c :=
  List.contains_iff_mem.trans HostSettings.mem_wishes_iff

theorem stageOne?_of_forces (h : host.Forces c) : stageOne? host c.id c = some ⟨c, true⟩ :=
  if_pos (contains_force_iff.2 h)

theorem stageOne?_of_admits (h : ¬host.Forces c) (hadmits : host.Admits c) :
    stageOne? host c.id c = some ⟨c, false⟩ :=
  (if_neg (mt contains_force_iff.1 h)).trans (if_pos (isEligible_iff.2 hadmits))

theorem stageOne?_eq_none (h : ¬host.Forces c) (hadmits : ¬host.Admits c) :
    stageOne? host c.id c = none :=
  (if_neg (mt contains_force_iff.1 h)).trans (if_neg (mt isEligible_iff.1 hadmits))

/-- How a connector is staged: forced, or else only if it is admitted. -/
theorem stageOne?_eq_some_iff {forced : Bool} :
    stageOne? host c.id c = some ⟨c, forced⟩ ↔
      if forced then host.Forces c else ¬host.Forces c ∧ host.Admits c := by
  by_cases hforces : host.Forces c
  · rw [stageOne?_of_forces hforces]
    cases forced <;> simp [hforces]
  · by_cases hadmits : host.Admits c
    · rw [stageOne?_of_admits hforces hadmits]
      cases forced <;> simp [hforces, hadmits]
    · rw [stageOne?_eq_none hforces hadmits]
      cases forced <;> simp [hforces, hadmits]

theorem isSome_stageOne?_iff :
    (stageOne? host c.id c).isSome = true ↔ host.Forces c ∨ host.Admits c := by
  by_cases hforces : host.Forces c
  · simp [stageOne?_of_forces hforces, hforces]
  · by_cases hadmits : host.Admits c
    · simp [stageOne?_of_admits hforces hadmits, hadmits]
    · simp [stageOne?_eq_none hforces hadmits, hforces, hadmits]

variable {connectors : List Connector}

theorem mem_values_ofConnectors_iff :
    c ∈ (ConnectorStore.ofConnectors connectors).values ↔
      (c.id, c) ∈ (ConnectorStore.ofConnectors connectors).toList := by
  simp only [NameMap.mem_values_iff, NameMap.get?_eq_some_iff]
  constructor
  · rintro ⟨id, hmem⟩
    exact ConnectorStore.id_of_mem_ofConnectors hmem ▸ hmem
  · exact fun hmem => ⟨c.id, hmem⟩

theorem mem_stage_iff {forced : Bool} : ⟨c, forced⟩ ∈ stagedOf connectors host ↔
    c ∈ (ConnectorStore.ofConnectors connectors).values ∧
      if forced then host.Forces c else ¬host.Forces c ∧ host.Admits c := by
  rw [stagedOf, stage, List.mem_filterMap, mem_values_ofConnectors_iff, ← stageOne?_eq_some_iff]
  constructor
  · rintro ⟨⟨id, c'⟩, hmem, hstaged⟩
    obtain rfl : c = c' := connector_of_stageOne? hstaged
    obtain rfl : c.id = id := ConnectorStore.id_of_mem_ofConnectors hmem
    exact ⟨hmem, hstaged⟩
  · rintro ⟨hmem, hstaged⟩
    exact ⟨_, hmem, hstaged⟩

/-- The staged connectors are those of the store that are staged, in its order. -/
theorem map_connector_stagedOf (connectors : List Connector) (host : HostSettings) :
    (stagedOf connectors host).map (·.connector) =
      (ConnectorStore.ofConnectors connectors).values.filter fun c =>
        (stageOne? host c.id c).isSome := by
  rw [stagedOf, stage, List.map_filterMap, NameMap.values, ← List.filterMap_eq_filter,
    List.filterMap_map]
  refine List.filterMap_congr fun entry hmem => ?_
  obtain ⟨id, c⟩ := entry
  obtain rfl : c.id = id := ConnectorStore.id_of_mem_ofConnectors hmem
  rw [Function.comp_apply]
  cases hstaged : stageOne? host c.id c with
  | none => simp [Option.guard, hstaged]
  | some s => simp [Option.guard, hstaged, connector_of_stageOne? hstaged]

theorem mem_map_connector_stagedOf_iff : c ∈ (stagedOf connectors host).map (·.connector) ↔
    c ∈ (ConnectorStore.ofConnectors connectors).values ∧ (host.Forces c ∨ host.Admits c) := by
  rw [map_connector_stagedOf, List.mem_filter, isSome_stageOne?_iff]

/-! ## One more directive -/

section

variable {text id : String}

theorem HostSettings.Forces.withDirective (h : host.Forces c) :
    (host.withDirective text).Forces c :=
  wants_withDirective_iff.2 (.inr h)

/-- A text that forces a connector says nothing else. -/
theorem HostSettings.wants_withDirective_iff_of_force {d : Directive}
    (h : (Directive.force id).IsSaidBy text) (hd : ∀ id, d ≠ .force id) :
    (host.withDirective text).Wants d ↔ host.Wants d :=
  wants_withDirective_iff.trans (or_iff_right fun hsaid => hd id (hsaid.unique h))

theorem HostSettings.Admits.withDirective (hadmits : host.Admits c)
    (h : (Directive.force id).IsSaidBy text) : (host.withDirective text).Admits c where
  notExcluded := by simpa [Excludes, wants_withDirective_iff_of_force h] using hadmits.notExcluded
  included := by
    simpa [Includes, IncludesById, wants_withDirective_iff_of_force h] using hadmits.included
  automatic := by
    simpa [IncludesById, wants_withDirective_iff_of_force h] using hadmits.automatic
  applies := hadmits.applies

end

/-- **Which connectors are staged** for a host. -/
theorem stage_chooses (connectors : List Connector) (host : HostSettings) :
    ((stagedOf connectors host).map (·.connector)).Sublist
        (ConnectorStore.ofConnectors connectors).values ∧
      ((stagedOf connectors host).map (·.connector.id)).Nodup ∧
      (∀ c, ⟨c, true⟩ ∈ stagedOf connectors host ↔
        c ∈ (ConnectorStore.ofConnectors connectors).values ∧ host.Forces c) ∧
      (∀ c, ⟨c, false⟩ ∈ stagedOf connectors host ↔
        c ∈ (ConnectorStore.ofConnectors connectors).values ∧ ¬host.Forces c ∧ host.Admits c) ∧
      (∀ c ∈ (ConnectorStore.ofConnectors connectors).values, host.Excludes c →
        (c ∈ (stagedOf connectors host).map (·.connector) ↔ host.Forces c)) ∧
      ∀ text id, (Directive.force id).IsSaidBy text →
        ((stagedOf connectors host).map (·.connector)).Sublist
          ((stagedOf connectors (host.withDirective text)).map (·.connector)) := by
  refine ⟨?_, nodup_ids_stage connectors host, fun c => mem_stage_iff, fun c => mem_stage_iff,
    fun c hc hexcluded => ?_, fun text id hforce => ?_⟩
  · rw [map_connector_stagedOf]
    exact List.filter_sublist
  · rw [mem_map_connector_stagedOf_iff, and_iff_right hc]
    exact or_iff_left fun hadmits => hadmits.notExcluded hexcluded
  · rw [map_connector_stagedOf, map_connector_stagedOf]
    refine List.monotone_filter_right _ fun c hstaged => ?_
    rw [isSome_stageOne?_iff] at hstaged ⊢
    exact hstaged.imp .withDirective (.withDirective · hforce)

end

end HardwareWatch
