import HardwareWatch.Proofs.Sources.Waves
import Mathlib.Data.List.Chain
import Mathlib.Data.List.Nodup
import Mathlib.Data.Nat.Init
import Mathlib.Order.Bounds.Defs

/-!
# Waves and chains of references

A source can run once all that it refers to has run, as far as that is declared before it. So it has
to wait for the longest chain of such references, and its wave is the earliest one after that.

* `RefersBack` says that a source refers to one that is declared before it, `chainLengths` are the
  lengths of the chains of such references.
* `Arranges` says that waves respect these references.
* `Arranges.le_of_mem_chainLengths` bounds the chains in whatever waves, and
  `mem_chainLengths_of_mem_levels` finds a chain for every number of a wave.
* `waves_by_longest_chains` is the main statement.
-/

namespace HardwareWatch

/-- A source refers to one that is declared before it. -/
def RefersBack (sources : List Source) (s s' : Source) : Prop :=
  s'.key ∈ s.references ∧ [s', s].Sublist sources

/-- The lengths of the chains of references from a source through sources that are declared earlier
and earlier. -/
def chainLengths (sources : List Source) (s : Source) : Set Nat :=
  {n | ∃ chain : List Source, (s :: chain).IsChain (RefersBack sources) ∧ chain.length = n}

/-- A source is in the wave with a number. -/
def InWave (waves : List (List Source)) (n : Nat) (s : Source) : Prop :=
  ∃ wave ∈ waves[n]?, s ∈ wave

/-- The waves hold all sources, and each one comes in a later wave than those that it refers back to.
-/
structure Arranges (waves : List (List Source)) (sources : List Source) : Prop where
  perm : waves.flatten.Perm sources
  inEarlierWave {s s' : Source} (h : RefersBack sources s s') : InEarlierWave waves s' s

variable {sources : List Source} {waves : List (List Source)} {s s' : Source} {k n : Nat}

/-! ## Sources in waves -/

theorem exists_inWave (h : s ∈ waves.flatten) : ∃ n, InWave waves n s := by
  obtain ⟨wave, hwave, hs⟩ := List.mem_flatten.1 h
  obtain ⟨n, hn⟩ := List.mem_iff_getElem?.1 hwave
  exact ⟨n, wave, hn, hs⟩

theorem InWave.lt_length (h : InWave waves n s) : n < waves.length := by
  obtain ⟨wave, hwave, -⟩ := h
  exact (List.getElem?_eq_some_iff.1 hwave).1

/-- Where every source is held once, it is in one wave only. -/
theorem InWave.unique (hwaves : waves.flatten.Nodup) {m : Nat} (hm : InWave waves m s)
    (hn : InWave waves n s) : m = n := by
  obtain ⟨wave, hwave, hs⟩ := hm
  obtain ⟨wave', hwave', hs'⟩ := hn
  obtain ⟨hlt, rfl⟩ := List.getElem?_eq_some_iff.1 hwave
  obtain ⟨hlt', rfl⟩ := List.getElem?_eq_some_iff.1 hwave'
  have hdisjoint := List.pairwise_iff_getElem.1 (List.nodup_flatten.1 hwaves).2
  rcases Nat.lt_trichotomy m n with h | h | h
  · exact (hdisjoint m n hlt hlt' h hs hs').elim
  · exact h
  · exact (hdisjoint n m hlt' hlt h hs' hs).elim

/-- **No chain is longer than the waves before a source**, in whatever waves that respect the
references. -/
theorem Arranges.le_of_mem_chainLengths (h : Arranges waves sources) (hsources : sources.Nodup)
    (hs : InWave waves n s) (hk : k ∈ chainLengths sources s) : k ≤ n := by
  obtain ⟨chain, hchain, rfl⟩ := hk
  induction chain generalizing s n with
  | nil => exact Nat.zero_le n
  | cons s' chain ih =>
    obtain ⟨hrefers, hrest⟩ := List.isChain_cons_cons.1 hchain
    obtain ⟨m, n', hlt, hs', hn'⟩ := h.inEarlierWave hrefers
    obtain rfl : n' = n := InWave.unique (h.perm.nodup_iff.2 hsources) hn' hs
    exact Nat.lt_of_le_of_lt (ih hs' hrest) hlt

/-! ## The numbers of the waves -/

theorem inWave_dependencyWaves_iff :
    InWave (dependencyWaves sources) n s ↔ (n, s) ∈ levels .empty sources := by
  refine ⟨fun ⟨wave, hwave, hs⟩ => ?_, exists_mem_getElem?_dependencyWaves⟩
  obtain ⟨m, hm, rfl⟩ := Option.map_eq_some_iff.1 ((List.getElem?_map ..).symm.trans hwave)
  obtain ⟨_, rfl⟩ := List.getElem?_eq_some_iff.1 hm
  obtain ⟨⟨m, s⟩, hp, rfl⟩ := List.mem_map.1 hs
  obtain ⟨hp, hm⟩ := List.mem_filter.1 hp
  rw [List.getElem_range, decide_eq_true_eq] at hm
  exact hm ▸ hp

theorem foldl_max_eq_or {α : Type} (f : α → Nat) (l : List α) (n : Nat) :
    l.foldl (fun n a => max n (f a)) n = n ∨
      ∃ a ∈ l, l.foldl (fun n a => max n (f a)) n = f a := by
  induction l generalizing n with
  | nil => exact .inl rfl
  | cons a l ih =>
    rw [List.foldl_cons]
    rcases ih (max n (f a)) with h | ⟨b, hb, h⟩
    · rw [h]
      rcases Nat.le_total (f a) n with hle | hle
      · exact .inl (Nat.max_eq_left hle)
      · exact .inr ⟨a, List.mem_cons_self, Nat.max_eq_right hle⟩
    · exact .inr ⟨b, List.mem_cons_of_mem a hb, h⟩

/-- A source that is not in the first wave refers to one of the wave before its own. -/
theorem exists_reference_of_levelOf {known : NameMap Nat} (h : levelOf known s = n + 1) :
    ∃ key ∈ s.references, known.get? key = some n := by
  rcases foldl_max_eq_or (· + 1) (s.references.filterMap known.get?) 0 with hzero | ⟨m, hm, hmax⟩
  · exact absurd (h.symm.trans hzero) (Nat.succ_ne_zero n)
  · obtain rfl : n = m := Nat.succ.inj (h.symm.trans hmax)
    exact List.mem_filterMap.1 hm

/-- The same where the sources run after others that are known by their keys. -/
theorem exists_before_of_mem_levels {known : NameMap Nat} (h : (n + 1, s) ∈ levels known sources) :
    (∃ key ∈ s.references, known.get? key = some n) ∨
      ∃ s', RefersBack sources s s' ∧ (n, s') ∈ levels known sources := by
  induction sources generalizing known with
  | nil => cases h
  | cons v rest ih =>
    rcases List.mem_cons.1 h with h | h
    · obtain ⟨hlevel, rfl⟩ := Prod.mk.inj h
      exact .inl (exists_reference_of_levelOf hlevel.symm)
    · rcases ih h with ⟨key, hkey, hget⟩ | ⟨s', ⟨hkey, hbefore⟩, hs'⟩
      · rw [NameMap.get?_insert] at hget
        split at hget
        · rename_i hv
          have hs : [s].Sublist rest := List.singleton_sublist.2 (snd_mem_of_mem_levels h)
          refine .inr ⟨v, ⟨hv ▸ hkey, hs.cons_cons v⟩, ?_⟩
          rw [levels, Option.some.inj hget]
          exact List.mem_cons_self
        · exact .inl ⟨key, hkey, hget⟩
      · exact .inr ⟨s', ⟨hkey, hbefore.cons v⟩, List.mem_cons_of_mem _ hs'⟩

theorem exists_refersBack_of_mem_levels (h : (n + 1, s) ∈ levels .empty sources) :
    ∃ s', RefersBack sources s s' ∧ (n, s') ∈ levels .empty sources := by
  rcases exists_before_of_mem_levels h with ⟨key, -, hget⟩ | hs'
  · cases hget
  · exact hs'

/-- **A source has a chain** as long as there are waves before its own. -/
theorem mem_chainLengths_of_mem_levels (h : (n, s) ∈ levels .empty sources) :
    n ∈ chainLengths sources s := by
  induction n generalizing s with
  | zero => exact ⟨[], List.isChain_singleton s, rfl⟩
  | succ n ih =>
    obtain ⟨s', hrefers, hs'⟩ := exists_refersBack_of_mem_levels h
    obtain ⟨chain, hchain, rfl⟩ := ih hs'
    exact ⟨s' :: chain, List.isChain_cons_cons.2 ⟨hrefers, hchain⟩, rfl⟩

theorem exists_mem_levels_of_le {m : Nat} (h : (m, s) ∈ levels .empty sources) (hn : n ≤ m) :
    ∃ s', (n, s') ∈ levels .empty sources := by
  induction hn using Nat.decreasingInduction with
  | self => exact ⟨s, h⟩
  | of_succ n _ ih =>
    obtain ⟨s', hs'⟩ := ih
    obtain ⟨s'', -, hs''⟩ := exists_refersBack_of_mem_levels hs'
    exact ⟨s'', hs''⟩

/-- Every wave has a source. -/
theorem exists_mem_levels (hn : n < waveCount sources) :
    ∃ s, (n, s) ∈ levels .empty sources := by
  rcases foldl_max_eq_or (fun p : Nat × Source => p.1 + 1) (levels .empty sources) 0 with
    hzero | ⟨⟨m, s⟩, hs, hmax⟩
  · exact absurd (hzero ▸ hn) (Nat.not_lt_zero n)
  · exact exists_mem_levels_of_le hs (Nat.le_of_lt_succ (Nat.lt_of_lt_of_eq hn hmax))

/-! ## The waves -/

theorem length_dependencyWaves (sources : List Source) :
    (dependencyWaves sources).length = waveCount sources :=
  (List.length_map ..).trans List.length_range

/-- A wave has sources, in the order in which they are declared. -/
theorem ne_nil_and_sublist_of_mem_dependencyWaves {wave : List Source}
    (h : wave ∈ dependencyWaves sources) : wave ≠ [] ∧ wave.Sublist sources := by
  obtain ⟨n, hn, rfl⟩ := List.mem_map.1 h
  constructor
  · obtain ⟨s, hs⟩ := exists_mem_levels (List.mem_range.1 hn)
    have hmem : (n, s) ∈ (levels .empty sources).filter (·.1 = n) :=
      List.mem_filter.2 ⟨hs, decide_eq_true rfl⟩
    exact List.ne_nil_of_mem (List.mem_map_of_mem hmem)
  · have hsublist : ((levels .empty sources).filter (·.1 = n)).Sublist (levels .empty sources) :=
      List.filter_sublist
    have hmap := hsublist.map Prod.snd
    rwa [map_snd_levels] at hmap

theorem arranges_dependencyWaves (h : (sources.map (·.key)).Nodup) :
    Arranges (dependencyWaves sources) sources where
  perm := perm_flatten_dependencyWaves sources
  inEarlierWave {s s'} := by
    rintro ⟨hkey, hbefore⟩
    obtain ⟨front, back, rfl, hs', hs⟩ := List.cons_sublist_iff.1 hbefore
    obtain ⟨before, x, rfl⟩ := List.append_of_mem hs'
    obtain ⟨y, after, rfl⟩ := List.append_of_mem (List.singleton_sublist.1 hs)
    have hsplit : before ++ s' :: x ++ (y ++ s :: after) =
        before ++ s' :: ((x ++ y) ++ s :: after) := by simp
    rw [hsplit] at h ⊢
    refine inEarlierWave_of_mem_references hkey fun v hv hvs => ?_
    rw [List.map_append, List.map_cons] at h
    refine (List.nodup_cons.1 (List.Nodup.of_append_right h)).1 (List.mem_map.2 ⟨v, ?_, hvs⟩)
    exact List.mem_append_left _ hv

/-- **The wave of a source is the longest chain of references** from it through earlier sources. The
waves hold every source once and none of them is empty, the sources of a wave stand in the order in
which they are declared, and there are no fewer waves in any other arrangement that respects the
references. -/
theorem waves_by_longest_chains (h : (sources.map (·.key)).Nodup) :
    Arranges (dependencyWaves sources) sources ∧
      (∀ s ∈ sources, ∃! n, InWave (dependencyWaves sources) n s) ∧
      (∀ wave ∈ dependencyWaves sources, wave ≠ [] ∧ wave.Sublist sources) ∧
      (∀ n s, InWave (dependencyWaves sources) n s → IsGreatest (chainLengths sources s) n) ∧
      ∀ waves, Arranges waves sources → (dependencyWaves sources).length ≤ waves.length := by
  have hsources : sources.Nodup := List.Nodup.of_map _ h
  have harranges := arranges_dependencyWaves h
  have hnodup : (dependencyWaves sources).flatten.Nodup := harranges.perm.nodup_iff.2 hsources
  refine ⟨harranges, fun s hs => ?_, fun wave => ne_nil_and_sublist_of_mem_dependencyWaves,
    fun n s hs => ⟨?_, fun k hk => ?_⟩, fun waves hwaves => ?_⟩
  · obtain ⟨n, hn⟩ := exists_inWave (harranges.perm.mem_iff.2 hs)
    exact ⟨n, hn, fun m hm => hm.unique hnodup hn⟩
  · exact mem_chainLengths_of_mem_levels (inWave_dependencyWaves_iff.1 hs)
  · exact harranges.le_of_mem_chainLengths hsources hs hk
  · -- The last wave has a source, and its chain is as long in the other arrangement.
    rw [length_dependencyWaves]
    by_contra hlt
    obtain ⟨s, hs⟩ := exists_mem_levels (Nat.lt_of_not_le hlt)
    have hmem : s ∈ waves.flatten := hwaves.perm.mem_iff.2 (snd_mem_of_mem_levels hs)
    obtain ⟨n, hn⟩ := exists_inWave hmem
    have hle := hwaves.le_of_mem_chainLengths hsources hn (mem_chainLengths_of_mem_levels hs)
    exact absurd hn.lt_length (Nat.not_lt_of_le hle)

/-! ## Sources in three waves -/

namespace ThreeWaves

/-- Two tables. -/
def first : Source := ⟨"a", 0, false, [], none, .static "x"⟩
def second : Source := ⟨"b", 1, false, [], none, .static "y"⟩

/-- A copy of the first table. -/
def copied : Source := ⟨"c", 2, false, [], none, .copy "$\x7bsource::a\x7d"⟩

/-- The copy and the second table. -/
def joined : Source :=
  ⟨"d", 3, false, [], none, .tableUnion ["$\x7bsource::c\x7d", "$\x7bsource::b\x7d"]⟩

/-- A copy of a table that is not among them. -/
def foreign : Source := ⟨"e", 4, false, [], none, .copy "$\x7bsource::pre\x7d"⟩

/-- All of them, as they are declared. -/
def tables : List Source := [first, second, copied, joined, foreign]

theorem references_copied : copied.references = ["a"] := by
  rw [Source.references_eq]
  decide +kernel

theorem references_joined : joined.references = ["c", "b"] := by
  rw [Source.references_eq]
  decide +kernel

theorem references_foreign : foreign.references = ["pre"] := by
  rw [Source.references_eq]
  decide +kernel

theorem references_tables : first.references = [] ∧ second.references = [] := by
  rw [Source.references_eq, Source.references_eq]
  decide +kernel

theorem dependencyWaves_tables :
    dependencyWaves tables = [[first, second, foreign], [copied], [joined]] := by
  obtain ⟨hfirst, hsecond⟩ := references_tables
  simp only [dependencyWaves, tables, levels, levelOf, hfirst, hsecond, references_copied,
    references_joined, references_foreign]
  decide +kernel

/-- The union waits for the copy, and the copy for the first table. -/
theorem union_in_third_wave :
    (tables.map (·.key)).Nodup ∧
      dependencyWaves tables = [[first, second, foreign], [copied], [joined]] ∧
      IsGreatest (chainLengths tables joined) 2 := by
  have hkeys : (tables.map (·.key)).Nodup := by decide
  refine ⟨hkeys, dependencyWaves_tables, (waves_by_longest_chains hkeys).2.2.2.1 2 joined ?_⟩
  exact ⟨[joined], dependencyWaves_tables ▸ rfl, List.mem_singleton_self joined⟩

end ThreeWaves

end HardwareWatch
