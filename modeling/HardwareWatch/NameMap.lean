/-!
# Finite maps and sets on names

A finite map from names to values, kept as the list of its entries in ascending order of names. The
order is that of code points. Since no two lists represent one map, maps with the same look-ups are
equal (`NameMap.ext`), and the order of `toList` is the order in which a map is written.

* `get?` is the view: `get?_insert`, `get?_erase`, `get?_mapEntries` and so on say what the operations
  do to it.
* `NameMap.ofList` inserts entries one by one, so that the last of two entries with one name stays.

A finite set of names is a finite map to the one-point type, so that it is listed in ascending order
and two sets with the same members are equal (`NameSet.ext`).
-/

namespace HardwareWatch

/-- A finite map on names. -/
structure NameMap (α : Type) where
  /-- The entries in ascending order of names. -/
  toList : List (String × α)
  /-- No name occurs twice and names ascend. -/
  ascending : toList.Pairwise fun a b => a.1 < b.1
  deriving DecidableEq

namespace NameMap

variable {α β γ : Type}

/-- The map without entries. -/
def empty : NameMap α := ⟨[], .nil⟩

instance : Inhabited (NameMap α) := ⟨empty⟩

instance : EmptyCollection (NameMap α) := ⟨empty⟩

/-- Look up a name in a list of entries. -/
def lookup (k : String) : List (String × α) → Option α
  | [] => none
  | (name, a) :: rest => if name = k then some a else lookup k rest

/-- Put an entry into an ascending list in place of the one with its name. -/
def insertEntry (k : String) (a : α) : List (String × α) → List (String × α)
  | [] => [(k, a)]
  | (name, b) :: rest =>
    if k < name then (k, a) :: (name, b) :: rest
    else if name = k then (k, a) :: rest
    else (name, b) :: insertEntry k a rest

theorem mem_insertEntry {k : String} {a : α} {l : List (String × α)} {e : String × α}
    (h : e ∈ insertEntry k a l) : e = (k, a) ∨ e ∈ l := by
  induction l with
  | nil => simpa [insertEntry] using h
  | cons b rest ih =>
    obtain ⟨name, b⟩ := b
    rw [insertEntry] at h
    split at h
    · simpa using h
    · split at h
      · rcases List.mem_cons.1 h with h | h
        · exact .inl h
        · exact .inr (List.mem_cons_of_mem _ h)
      · rcases List.mem_cons.1 h with h | h
        · exact .inr (h ▸ List.mem_cons_self)
        · exact (ih h).imp id (List.mem_cons_of_mem _)

theorem ascending_insertEntry (k : String) (a : α) {l : List (String × α)}
    (h : l.Pairwise fun a b => a.1 < b.1) :
    (insertEntry k a l).Pairwise fun a b => a.1 < b.1 := by
  induction l with
  | nil => simp [insertEntry]
  | cons b rest ih =>
    obtain ⟨name, b⟩ := b
    obtain ⟨h₁, h₂⟩ := List.pairwise_cons.1 h
    rw [insertEntry]
    split
    · rename_i hk
      refine List.pairwise_cons.2 ⟨fun e he => ?_, h⟩
      rcases List.mem_cons.1 he with rfl | he
      · exact hk
      · exact String.lt_trans hk (h₁ e he)
    · split
      · rename_i hk
        subst hk
        exact List.pairwise_cons.2 ⟨h₁, h₂⟩
      · rename_i hk hne
        refine List.pairwise_cons.2 ⟨fun e he => ?_, ih h₂⟩
        rcases mem_insertEntry he with rfl | he
        · rcases String.le_total name k with hle | hle
          · exact Decidable.byContradiction fun hlt =>
              hne (String.le_antisymm hle (String.not_lt.1 hlt))
          · exact absurd (String.le_antisymm hle (String.not_lt.1 hk)) fun h => hne h.symm
        · exact h₁ e he

/-- The value of a name. -/
def get? (m : NameMap α) (k : String) : Option α := lookup k m.toList

/-- The map with a value for a name, in place of the one it had. -/
def insert (m : NameMap α) (k : String) (a : α) : NameMap α :=
  ⟨insertEntry k a m.toList, ascending_insertEntry k a m.ascending⟩

/-- The map without a name. -/
def erase (m : NameMap α) (k : String) : NameMap α :=
  ⟨m.toList.filter (·.1 ≠ k), m.ascending.filter _⟩

/-- Whether the name has a value. -/
def contains (m : NameMap α) (k : String) : Bool := (m.get? k).isSome

/-- The names in ascending order. -/
def keys (m : NameMap α) : List String := m.toList.map Prod.fst

/-- The values in ascending order of their names. -/
def values (m : NameMap α) : List α := m.toList.map Prod.snd

/-- The number of entries. -/
def size (m : NameMap α) : Nat := m.toList.length

/-- The map with further entries, later ones in place of earlier ones. -/
def insertAll (m : NameMap α) (entries : List (String × α)) : NameMap α :=
  entries.foldl (fun m e => m.insert e.1 e.2) m

/-- The map of the entries, later ones in place of earlier ones. -/
def ofList (entries : List (String × α)) : NameMap α := empty.insertAll entries

/-- The map with every value replaced by its image. -/
def mapEntries (f : String → α → β) (m : NameMap α) : NameMap β :=
  ⟨m.toList.map fun (k, a) => (k, f k a), by
    rw [List.pairwise_map]
    exact m.ascending.imp fun h => h⟩

/-- The map with the value of a name changed, where it has one. -/
def modify (m : NameMap α) (k : String) (f : α → α) : NameMap α :=
  m.mapEntries fun name a => if name = k then f a else a

/-! ## Look-ups -/

@[simp] theorem get?_empty (k : String) : (empty : NameMap α).get? k = none := rfl

theorem lookup_insertEntry (k : String) (a : α) (l : List (String × α)) (k' : String) :
    lookup k' (insertEntry k a l) = if k = k' then some a else lookup k' l := by
  induction l with
  | nil => simp [insertEntry, lookup]
  | cons b rest ih =>
    obtain ⟨name, b⟩ := b
    rw [insertEntry]
    split
    · rfl
    · split
      · rename_i hk
        subst hk
        by_cases h : name = k' <;> simp [lookup, h]
      · rename_i hne
        by_cases h : name = k'
        · subst h
          simp [lookup, Ne.symm hne]
        · simp [lookup, h, ih]

theorem get?_insert (m : NameMap α) (k : String) (a : α) (k' : String) :
    (m.insert k a).get? k' = if k = k' then some a else m.get? k' :=
  lookup_insertEntry k a m.toList k'

theorem lookup_filter (k : String) (l : List (String × α)) (k' : String) :
    lookup k' (l.filter (·.1 ≠ k)) = if k = k' then none else lookup k' l := by
  induction l with
  | nil => simp [lookup]
  | cons b rest ih =>
    obtain ⟨name, b⟩ := b
    by_cases hk : name = k
    · subst hk
      by_cases h : name = k' <;> simp_all [lookup]
    · by_cases h : name = k'
      · subst h
        simp [lookup, hk, Ne.symm hk]
      · simp_all [lookup]

theorem get?_erase (m : NameMap α) (k k' : String) :
    (m.erase k).get? k' = if k = k' then none else m.get? k' :=
  lookup_filter k m.toList k'

theorem get?_foldl_erase (names : List String) (m : NameMap α) (k : String) :
    (names.foldl erase m).get? k = if k ∈ names then none else m.get? k := by
  induction names generalizing m with
  | nil => simp
  | cons name rest ih =>
    rw [List.foldl_cons, ih, get?_erase]
    by_cases hrest : k ∈ rest
    · simp [hrest]
    · by_cases hname : name = k
      · simp [hname]
      · simp [hrest, hname, Ne.symm hname]

theorem get?_mapEntries (m : NameMap α) (f : String → α → β) (k : String) :
    (m.mapEntries f).get? k = (m.get? k).map (f k) := by
  obtain ⟨l, hl⟩ := m
  simp only [get?, mapEntries]
  clear hl
  induction l with
  | nil => rfl
  | cons e l ih =>
    obtain ⟨name, a⟩ := e
    rw [List.map_cons, lookup, lookup]
    split
    · rename_i hk
      subst hk
      rfl
    · exact ih

theorem get?_modify (m : NameMap α) (k : String) (f : α → α) (k' : String) :
    (m.modify k f).get? k' = (m.get? k').map fun a => if k' = k then f a else a :=
  get?_mapEntries ..

theorem lookup_eq_some_of_mem {l : List (String × α)} (h : l.Pairwise fun a b => a.1 < b.1)
    {k : String} {a : α} (hm : (k, a) ∈ l) : lookup k l = some a := by
  induction l with
  | nil => simp at hm
  | cons b rest ih =>
    obtain ⟨name, b⟩ := b
    obtain ⟨h₁, h₂⟩ := List.pairwise_cons.1 h
    rcases List.mem_cons.1 hm with hm | hm
    · cases hm
      simp [lookup]
    · have hne : name ≠ k := fun he => String.lt_irrefl k (he ▸ h₁ _ hm)
      simp [lookup, hne, ih h₂ hm]

theorem mem_of_lookup_eq_some {l : List (String × α)} {k : String} {a : α}
    (h : lookup k l = some a) : (k, a) ∈ l := by
  induction l with
  | nil => simp [lookup] at h
  | cons b rest ih =>
    obtain ⟨name, b⟩ := b
    rw [lookup] at h
    split at h
    · rename_i hk
      simp_all
    · exact List.mem_cons_of_mem _ (ih h)

theorem get?_eq_some_iff {m : NameMap α} {k : String} {a : α} :
    m.get? k = some a ↔ (k, a) ∈ m.toList :=
  ⟨mem_of_lookup_eq_some, lookup_eq_some_of_mem m.ascending⟩

theorem mem_keys_iff {m : NameMap α} {k : String} : k ∈ m.keys ↔ m.contains k = true := by
  rw [keys, contains, Option.isSome_iff_exists, List.mem_map]
  constructor
  · rintro ⟨⟨k, a⟩, hmem, rfl⟩
    exact ⟨a, get?_eq_some_iff.2 hmem⟩
  · rintro ⟨a, ha⟩
    exact ⟨(k, a), get?_eq_some_iff.1 ha, rfl⟩

theorem mem_values_iff {m : NameMap α} {a : α} : a ∈ m.values ↔ ∃ k, m.get? k = some a := by
  rw [values, List.mem_map]
  constructor
  · rintro ⟨⟨k, a⟩, hmem, rfl⟩
    exact ⟨k, get?_eq_some_iff.2 hmem⟩
  · rintro ⟨k, hk⟩
    exact ⟨(k, a), get?_eq_some_iff.1 hk, rfl⟩

theorem nodup_keys (m : NameMap α) : m.keys.Nodup := by
  rw [keys, List.Nodup, List.pairwise_map]
  refine m.ascending.imp fun {a b} hlt he => ?_
  rw [he] at hlt
  exact String.lt_irrefl _ hlt

theorem eq_of_ascending_of_mem {l l' : List (String × α)}
    (h : l.Pairwise fun a b => a.1 < b.1) (h' : l'.Pairwise fun a b => a.1 < b.1)
    (hm : ∀ e, e ∈ l ↔ e ∈ l') : l = l' := by
  induction l generalizing l' with
  | nil =>
    cases l' with
    | nil => rfl
    | cons e _ => exact absurd ((hm e).2 List.mem_cons_self) (by simp)
  | cons e r ih =>
    cases l' with
    | nil => exact absurd ((hm e).1 List.mem_cons_self) (by simp)
    | cons e' r' =>
      obtain ⟨h₁, h₂⟩ := List.pairwise_cons.1 h
      obtain ⟨h₁', h₂'⟩ := List.pairwise_cons.1 h'
      have he : e = e' := by
        rcases List.mem_cons.1 ((hm e).1 List.mem_cons_self) with he | he
        · exact he
        · rcases List.mem_cons.1 ((hm e').2 List.mem_cons_self) with he' | he'
          · exact he'.symm
          · exact absurd (String.lt_trans (h₁ _ he') (h₁' _ he)) (String.lt_irrefl _)
      subst he
      rw [ih h₂ h₂' fun x => ?_]
      have hx := hm x
      simp only [List.mem_cons] at hx
      constructor
      · intro hxr
        rcases hx.1 (.inr hxr) with rfl | hxr'
        · exact absurd (h₁ _ hxr) (String.lt_irrefl _)
        · exact hxr'
      · intro hxr'
        rcases hx.2 (.inr hxr') with rfl | hxr
        · exact absurd (h₁' _ hxr') (String.lt_irrefl _)
        · exact hxr

/-- Maps with the same look-ups are equal. -/
@[ext] theorem ext {m m' : NameMap α} (h : ∀ k, m.get? k = m'.get? k) : m = m' := by
  have hl : m.toList = m'.toList := eq_of_ascending_of_mem m.ascending m'.ascending
    fun e => by rw [← get?_eq_some_iff, ← get?_eq_some_iff, h]
  cases m
  cases m'
  simp_all

/-! ## Changes -/

theorem insert_of_get? {m : NameMap α} {k : String} {a : α} (h : m.get? k = some a) :
    m.insert k a = m := by
  refine ext fun k' => ?_
  rw [get?_insert]
  split
  · rename_i he
    rw [← he, h]
  · rfl

theorem insert_insert (m : NameMap α) (k : String) (a b : α) :
    (m.insert k a).insert k b = m.insert k b := by
  refine ext fun k' => ?_
  simp only [get?_insert]
  split <;> rfl

theorem values_mapEntries (m : NameMap α) (f : α → β) :
    (m.mapEntries fun _ a => f a).values = m.values.map f := by
  simp [values, mapEntries]

theorem mapEntries_self (m : NameMap α) : (m.mapEntries fun _ a => a) = m :=
  ext fun k => by rw [get?_mapEntries, Option.map_id']

theorem mapEntries_mapEntries (m : NameMap α) (f : String → α → β) (g : String → β → γ) :
    (m.mapEntries f).mapEntries g = m.mapEntries fun k a => g k (f k a) := by
  refine ext fun k => ?_
  rw [get?_mapEntries, get?_mapEntries, get?_mapEntries, Option.map_map]
  rfl

theorem modify_eq (m : NameMap α) (k : String) (f : α → α) :
    m.modify k f = match m.get? k with
      | some a => m.insert k (f a)
      | none => m := by
  refine ext fun k' => ?_
  rw [get?_modify]
  by_cases h : k' = k
  · subst h
    cases hk : m.get? k' <;> simp [get?_insert, hk]
  · have hne : k ≠ k' := Ne.symm h
    cases m.get? k <;> simp [get?_insert, h, hne]

theorem modify_self (m : NameMap α) (k : String) : (m.modify k fun a => a) = m := by
  simp only [modify, ite_self, mapEntries_self]

theorem modify_modify (m : NameMap α) (k : String) (f g : α → α) :
    (m.modify k f).modify k g = m.modify k fun a => g (f a) := by
  refine ext fun k' => ?_
  rw [get?_modify, get?_modify, get?_modify, Option.map_map]
  by_cases h : k' = k <;> simp [h, Function.comp_def]

/-! ## Lists of entries -/

theorem mem_toList_insertAll {entries : List (String × α)} {m : NameMap α} {e : String × α}
    (h : e ∈ (m.insertAll entries).toList) : e ∈ m.toList ∨ e ∈ entries := by
  induction entries generalizing m with
  | nil => exact .inl h
  | cons f rest ih =>
    rcases ih h with h | h
    · rcases mem_insertEntry h with rfl | h
      · exact .inr List.mem_cons_self
      · exact .inl h
    · exact .inr (List.mem_cons_of_mem _ h)

theorem mem_of_mem_toList_ofList {entries : List (String × α)} {e : String × α}
    (h : e ∈ (ofList entries).toList) : e ∈ entries :=
  (mem_toList_insertAll h).resolve_left (List.not_mem_nil)

theorem get?_insertAll_of_forall_ne {entries : List (String × α)} {k : String}
    (h : ∀ e ∈ entries, e.1 ≠ k) (m : NameMap α) : (m.insertAll entries).get? k = m.get? k := by
  induction entries generalizing m with
  | nil => rfl
  | cons e rest ih =>
    have hrest := ih (fun f hf => h f (List.mem_cons_of_mem _ hf)) (m.insert e.1 e.2)
    rwa [get?_insert, if_neg (h e List.mem_cons_self)] at hrest

theorem get?_insertAll_of_mem {entries : List (String × α)} {k : String} {a : α}
    (hnodup : (entries.map Prod.fst).Nodup) (h : (k, a) ∈ entries) (m : NameMap α) :
    (m.insertAll entries).get? k = some a := by
  induction entries generalizing m with
  | nil => exact absurd h List.not_mem_nil
  | cons e rest ih =>
    obtain ⟨hnot, hnodup⟩ := List.nodup_cons.1 hnodup
    rcases List.mem_cons.1 h with rfl | h
    · have hne : ∀ f ∈ rest, f.1 ≠ k := fun f hf he => hnot (List.mem_map.2 ⟨f, hf, he⟩)
      have hrest := get?_insertAll_of_forall_ne hne (m.insert k a)
      rwa [get?_insert, if_pos rfl] at hrest
    · exact ih hnodup h (m.insert e.1 e.2)

/-- Of entries with different names all stay. -/
theorem get?_ofList_eq_some_iff {entries : List (String × α)}
    (hnodup : (entries.map Prod.fst).Nodup) {k : String} {a : α} :
    (ofList entries).get? k = some a ↔ (k, a) ∈ entries :=
  ⟨fun h => mem_of_mem_toList_ofList (get?_eq_some_iff.1 h),
    fun h => get?_insertAll_of_mem hnodup h empty⟩

/-- An entry behind all others is put at the end. -/
theorem insertEntry_of_forall_lt {k : String} {a : α} {l : List (String × α)}
    (h : ∀ e ∈ l, e.1 < k) : insertEntry k a l = l ++ [(k, a)] := by
  induction l with
  | nil => rfl
  | cons e rest ih =>
    have hlt : e.1 < k := h e List.mem_cons_self
    have hnot : ¬k < e.1 := fun hk => String.lt_irrefl k (String.lt_trans hk hlt)
    have hne : e.1 ≠ k := fun he => String.lt_irrefl k (he ▸ hlt)
    rw [insertEntry, if_neg hnot, if_neg hne, ih fun e he => h e (List.mem_cons_of_mem _ he)]
    rfl

theorem toList_insertAll_of_ascending {entries : List (String × α)} {m : NameMap α}
    (h : (m.toList ++ entries).Pairwise fun a b => a.1 < b.1) :
    (m.insertAll entries).toList = m.toList ++ entries := by
  induction entries generalizing m with
  | nil => simp [insertAll]
  | cons e rest ih =>
    have hlast : (m.insert e.1 e.2).toList = m.toList ++ [e] :=
      insertEntry_of_forall_lt fun f hf => (List.pairwise_append.1 h).2.2 f hf e List.mem_cons_self
    have hrest := ih (m := m.insert e.1 e.2) (by rwa [hlast, List.append_assoc])
    rwa [hlast, List.append_assoc] at hrest

/-- A map is the map of its entries. -/
theorem ofList_toList (m : NameMap α) : ofList m.toList = m := by
  have h : (ofList m.toList).toList = empty.toList ++ m.toList :=
    toList_insertAll_of_ascending m.ascending
  exact ext fun k => congrArg (lookup k) h

end NameMap

/-! ## Sets -/

/-- A finite set of names. -/
abbrev NameSet := NameMap Unit

namespace NameSet

/-- Whether the name is a member. -/
def has (s : NameSet) (name : String) : Bool := s.contains name

/-- The set with one more member. -/
def add (s : NameSet) (name : String) : NameSet := s.insert name ()

/-- The set with more members. -/
def addAll (s : NameSet) (names : List String) : NameSet := names.foldl add s

/-- The set of the names. -/
def ofNames (names : List String) : NameSet := addAll NameMap.empty names

@[simp] theorem has_empty (name : String) : has NameMap.empty name = false := rfl

theorem has_add (s : NameSet) (name x : String) :
    (s.add name).has x = (decide (name = x) || s.has x) := by
  by_cases h : name = x <;> simp [has, add, NameMap.contains, NameMap.get?_insert, h]

theorem has_addAll (s : NameSet) (names : List String) (x : String) :
    (s.addAll names).has x = (decide (x ∈ names) || s.has x) := by
  induction names generalizing s with
  | nil => simp [addAll]
  | cons name rest ih =>
    rw [addAll, List.foldl_cons, ← addAll, ih, has_add]
    by_cases h : x = name
    · simp [h]
    · simp [h, Ne.symm h]

theorem has_ofNames (names : List String) (x : String) :
    (ofNames names).has x = decide (x ∈ names) := by
  simp [ofNames, has_addAll]

/-- Sets with the same members are equal. -/
theorem ext {s t : NameSet} (h : ∀ name, s.has name = t.has name) : s = t := by
  refine NameMap.ext fun k => ?_
  have := h k
  simp only [has, NameMap.contains] at this
  cases hs : s.get? k <;> cases ht : t.get? k <;> simp_all

end NameSet

end HardwareWatch
