import HardwareWatch.Proofs.Sources.Failing

/-!
# Waves of sources

The waves of sources hold every source once, and a source comes in a later wave than all that it
refers to. This needs that the keys are distinct and that no source refers to a later one.

* `DeclaredInOrder` says so of a list of sources.
* `lt_of_mem_levels` compares the numbers of waves.
* `inEarlierWave_of_mem_references` compares the waves of two sources in whatever list.
* `perm_flatten_dependencyWaves` and `independent_dependencyWaves` are about the waves:
  `Independent` says that no source of a wave refers to one of its own wave or of a later one.
-/

namespace HardwareWatch

/-- The keys are distinct, and no source refers to a later one. -/
structure DeclaredInOrder (sources : List Source) : Prop where
  nodup : (sources.map (·.key)).Nodup
  references : sources.Pairwise fun s s' => s'.key ∉ s.references

theorem DeclaredInOrder.tail {s : Source} {rest : List Source} (h : DeclaredInOrder (s :: rest)) :
    DeclaredInOrder rest :=
  ⟨(List.nodup_cons.1 h.nodup).2, (List.pairwise_cons.1 h.references).2⟩

/-! ## Numbers of waves -/

theorem map_snd_levels (known : NameMap Nat) (sources : List Source) :
    (levels known sources).map Prod.snd = sources := by
  induction sources generalizing known with
  | nil => rfl
  | cons s rest ih => rw [levels, List.map_cons, ih]

theorem snd_mem_of_mem_levels {known : NameMap Nat} {sources : List Source} {p : Nat × Source}
    (hp : p ∈ levels known sources) : p.2 ∈ sources := by
  rw [← map_snd_levels known sources]
  exact List.mem_map_of_mem hp

theorem le_foldl_max {α : Type} (f : α → Nat) (l : List α) (n : Nat) :
    n ≤ l.foldl (fun n a => max n (f a)) n ∧ ∀ a ∈ l, f a ≤ l.foldl (fun n a => max n (f a)) n := by
  induction l generalizing n with
  | nil => simp
  | cons a l ih =>
    obtain ⟨h₁, h₂⟩ := ih (max n (f a))
    rw [List.foldl_cons]
    refine ⟨by omega, fun b hb => ?_⟩
    rcases List.mem_cons.1 hb with rfl | hb
    · omega
    · exact h₂ b hb

/-- A source comes after the wave of a source that is known by a key it refers to. -/
theorem lt_levelOf {known : NameMap Nat} {s : Source} {k : String} {n : Nat}
    (hk : k ∈ s.references) (hn : known.get? k = some n) : n < levelOf known s :=
  (le_foldl_max (· + 1) _ 0).2 n (List.mem_filterMap.2 ⟨k, hk, hn⟩)

theorem lt_of_get?_eq_some {known : NameMap Nat} {sources : List Source} {k : String} {n : Nat}
    (hn : known.get? k = some n) (hk : ∀ s ∈ sources, s.key ≠ k) {p : Nat × Source}
    (hp : p ∈ levels known sources) (hr : k ∈ p.2.references) : n < p.1 := by
  induction sources generalizing known with
  | nil => simp [levels] at hp
  | cons s rest ih =>
    rw [levels, List.mem_cons] at hp
    rcases hp with rfl | hp
    · dsimp only at hr ⊢
      exact lt_levelOf hr hn
    · refine ih ?_ (fun s' hs' => hk s' (List.mem_cons_of_mem _ hs')) hp
      rw [NameMap.get?_insert, if_neg (hk s List.mem_cons_self), hn]

/-- A source comes in a later wave than the sources that it refers to. -/
theorem lt_of_mem_levels {known : NameMap Nat} {sources : List Source}
    (h : DeclaredInOrder sources) {p q : Nat × Source} (hp : p ∈ levels known sources)
    (hq : q ∈ levels known sources) (hr : q.2.key ∈ p.2.references) : q.1 < p.1 := by
  induction sources generalizing known with
  | nil => simp [levels] at hp
  | cons s rest ih =>
    rw [levels, List.mem_cons] at hp hq
    rcases hp with rfl | hp <;> rcases hq with rfl | hq
    · exact absurd rfl (Source.ne_key_of_mem_references hr)
    · exact absurd hr ((List.pairwise_cons.1 h.references).1 q.2 (snd_mem_of_mem_levels hq))
    · have hne : ∀ s' ∈ rest, s'.key ≠ s.key := fun s' hs' he =>
        (List.nodup_cons.1 h.nodup).1 (List.mem_map.2 ⟨s', hs', he⟩)
      exact lt_of_get?_eq_some (by rw [NameMap.get?_insert, if_pos rfl]) hne hp hr
    · exact ih h.tail hp hq

/-! ## The waves -/

theorem perm_flatMap_filter {α : Type} (f : α → Nat) (l : List α) (n : Nat) :
    ((List.range n).flatMap fun i => l.filter (f · = i)).Perm (l.filter (f · < n)) := by
  induction n with
  | zero => simp
  | succ n ih =>
    rw [List.range_succ, List.flatMap_append, List.flatMap_singleton]
    refine (ih.append_right _).trans ?_
    have hlt : l.filter (f · < n) = (l.filter (f · < n + 1)).filter (f · < n) := by
      rw [List.filter_filter]
      refine List.filter_congr fun a _ => ?_
      simp only [← Bool.decide_and, decide_eq_decide]
      omega
    have heq :
        l.filter (f · = n) = (l.filter (f · < n + 1)).filter (fun a => !decide (f a < n)) := by
      rw [List.filter_filter]
      refine List.filter_congr fun a _ => ?_
      simp only [← decide_not, ← Bool.decide_and, decide_eq_decide]
      omega
    rw [hlt, heq]
    exact List.filter_append_perm _ _

/-- The number of waves. -/
def waveCount (sources : List Source) : Nat :=
  (levels .empty sources).foldl (fun n p => max n (p.1 + 1)) 0

theorem lt_waveCount {sources : List Source} {p : Nat × Source}
    (hp : p ∈ levels .empty sources) : p.1 < waveCount sources :=
  (le_foldl_max (fun p : Nat × Source => p.1 + 1) _ 0).2 p hp

/-- The waves hold every source once. -/
theorem perm_flatten_dependencyWaves (sources : List Source) :
    (dependencyWaves sources).flatten.Perm sources := by
  have hflatten : (dependencyWaves sources).flatten =
      ((List.range (waveCount sources)).flatMap fun n =>
        (levels .empty sources).filter (·.1 = n)).map Prod.snd := by
    rw [List.map_flatMap]
    exact (List.flatMap_def ..).symm
  have hall : (levels .empty sources).filter (·.1 < waveCount sources) = levels .empty sources :=
    List.filter_eq_self.2 fun p hp => decide_eq_true (lt_waveCount hp)
  have hperm :=
    (perm_flatMap_filter Prod.fst (levels .empty sources) (waveCount sources)).map Prod.snd
  rwa [hall, map_snd_levels, ← hflatten] at hperm

/-- One source is in an earlier wave than another one. -/
def InEarlierWave (waves : List (List Source)) (s s' : Source) : Prop :=
  ∃ m n : Nat, m < n ∧ (∃ wave ∈ waves[m]?, s ∈ wave) ∧ ∃ wave ∈ waves[n]?, s' ∈ wave

theorem exists_mem_getElem?_dependencyWaves {sources : List Source} {n : Nat} {s : Source}
    (h : (n, s) ∈ levels .empty sources) : ∃ wave ∈ (dependencyWaves sources)[n]?, s ∈ wave := by
  have hn : (List.range (waveCount sources))[n]? = some n := List.getElem?_range (lt_waveCount h)
  refine ⟨((levels .empty sources).filter (·.1 = n)).map Prod.snd, ?_, ?_⟩
  · exact (List.getElem?_map ..).trans (congrArg (Option.map _) hn)
  · exact List.mem_map.2 ⟨(n, s), List.mem_filter.2 ⟨h, decide_eq_true rfl⟩, rfl⟩

section Earlier

variable {known : NameMap Nat} {s s' : Source} {before between after : List Source}

theorem exists_lt_of_get?_eq_some {m : Nat} (hr : s.key ∈ s'.references)
    (hkey : ∀ v ∈ between, v.key ≠ s.key) (hm : known.get? s.key = some m) :
    ∃ n, m < n ∧ (n, s') ∈ levels known (between ++ s' :: after) := by
  induction between generalizing known with
  | nil => exact ⟨_, lt_levelOf hr hm, List.mem_cons_self⟩
  | cons v between ih =>
    have hv : (known.insert v.key (levelOf known v)).get? s.key = some m := by
      rw [NameMap.get?_insert, if_neg (hkey v List.mem_cons_self), hm]
    obtain ⟨n, hlt, hn⟩ := ih (fun w hw => hkey w (List.mem_cons_of_mem _ hw)) hv
    exact ⟨n, hlt, List.mem_cons_of_mem _ hn⟩

theorem exists_lt_of_mem_references (hr : s.key ∈ s'.references)
    (hkey : ∀ v ∈ between, v.key ≠ s.key) :
    ∃ m n, m < n ∧ (m, s) ∈ levels known (before ++ s :: (between ++ s' :: after)) ∧
      (n, s') ∈ levels known (before ++ s :: (between ++ s' :: after)) := by
  induction before generalizing known with
  | nil =>
    have hs : (known.insert s.key (levelOf known s)).get? s.key = some (levelOf known s) := by
      rw [NameMap.get?_insert, if_pos rfl]
    obtain ⟨n, hlt, hn⟩ := exists_lt_of_get?_eq_some hr hkey hs
    exact ⟨_, n, hlt, List.mem_cons_self, List.mem_cons_of_mem _ hn⟩
  | cons v before ih =>
    obtain ⟨m, n, hlt, hm, hn⟩ := @ih (known.insert v.key (levelOf known v))
    exact ⟨m, n, hlt, List.mem_cons_of_mem _ hm, List.mem_cons_of_mem _ hn⟩

/-- **A source that is referred to** by its key is in an earlier wave than a source behind it, unless
another source with the key stands between the two. -/
theorem inEarlierWave_of_mem_references (hr : s.key ∈ s'.references)
    (hkey : ∀ v ∈ between, v.key ≠ s.key) :
    InEarlierWave (dependencyWaves (before ++ s :: (between ++ s' :: after))) s s' := by
  obtain ⟨m, n, hlt, hm, hn⟩ := exists_lt_of_mem_references hr hkey
  exact ⟨m, n, hlt, exists_mem_getElem?_dependencyWaves hm, exists_mem_getElem?_dependencyWaves hn⟩

end Earlier

/-- No source refers to one of its own wave or of a later one. -/
def Independent : List (List Source) → Prop
  | [] => True
  | wave :: rest =>
    (∀ s ∈ wave, ∀ s' ∈ wave ++ rest.flatten, s'.key ∉ s.references) ∧ Independent rest

/-- The sources of the waves with some numbers. -/
theorem independent_map {placed : List (Nat × Source)}
    (h : ∀ p ∈ placed, ∀ q ∈ placed, q.2.key ∈ p.2.references → q.1 < p.1) {ns : List Nat}
    (hns : ns.Pairwise (· < ·)) :
    Independent (ns.map fun n => (placed.filter (·.1 = n)).map Prod.snd) := by
  induction ns with
  | nil => trivial
  | cons n ns ih =>
    obtain ⟨hn, hns⟩ := List.pairwise_cons.1 hns
    refine ⟨fun s hs s' hs' hr => ?_, ih hns⟩
    obtain ⟨p, hp, rfl⟩ := List.mem_map.1 hs
    obtain ⟨hp, hpn⟩ := List.mem_filter.1 hp
    have hlater : ∃ q ∈ placed, q.2 = s' ∧ n ≤ q.1 := by
      rcases List.mem_append.1 hs' with hs' | hs'
      · obtain ⟨q, hq, rfl⟩ := List.mem_map.1 hs'
        obtain ⟨hq, hqn⟩ := List.mem_filter.1 hq
        exact ⟨q, hq, rfl, Nat.le_of_eq (of_decide_eq_true hqn).symm⟩
      · obtain ⟨wave, hwave, hs'⟩ := List.mem_flatten.1 hs'
        obtain ⟨m, hm, rfl⟩ := List.mem_map.1 hwave
        obtain ⟨q, hq, rfl⟩ := List.mem_map.1 hs'
        obtain ⟨hq, hqm⟩ := List.mem_filter.1 hq
        have hqm := of_decide_eq_true hqm
        have hnm := hn m hm
        exact ⟨q, hq, rfl, by omega⟩
    obtain ⟨q, hq, rfl, hnq⟩ := hlater
    have hlt := h p hp q hq hr
    have hpn := of_decide_eq_true hpn
    omega

/-- **The waves are independent** where the sources are declared in order. -/
theorem independent_dependencyWaves {sources : List Source} (h : DeclaredInOrder sources) :
    Independent (dependencyWaves sources) :=
  independent_map (fun _ hp _ hq => lt_of_mem_levels h hp hq) List.pairwise_lt_range

/-- Sources one by one, in the order in which they are declared. -/
theorem independent_singletons {sources : List Source} (h : DeclaredInOrder sources) :
    Independent (sources.map ([·])) := by
  induction sources with
  | nil => trivial
  | cons s rest ih =>
    refine ⟨fun s₁ hs₁ s' hs' => ?_, ih h.tail⟩
    rw [List.mem_singleton.1 hs₁]
    rw [List.singleton_append, ← List.flatMap_def, List.flatMap_singleton'] at hs'
    rcases List.mem_cons.1 hs' with rfl | hs'
    · exact fun hr => Source.ne_key_of_mem_references hr rfl
    · exact (List.pairwise_cons.1 h.references).1 s' hs'

theorem Independent.pairwise_flatten {waves : List (List Source)} (h : Independent waves) :
    waves.flatten.Pairwise fun s s' => s'.key ∉ s.references := by
  induction waves with
  | nil => exact .nil
  | cons wave rest ih =>
    obtain ⟨hwave, hrest⟩ := h
    rw [List.flatten_cons, List.pairwise_append]
    refine ⟨List.pairwise_of_forall_mem_list fun s hs s' hs' =>
      hwave s hs s' (List.mem_append_left _ hs'), ih hrest, fun s hs s' hs' =>
      hwave s hs s' (List.mem_append_right _ hs')⟩

end HardwareWatch
