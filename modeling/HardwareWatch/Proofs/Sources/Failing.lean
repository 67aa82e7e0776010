import HardwareWatch.Visit.Sources
import Mathlib.Data.List.Induction

/-!
# Failing sources

A source fails where its last attempt gave no table, and all that is built on a failing source fails
with it. This is about the order in which the outcomes of the sources are stored: a source reads the
tables that were there before its own.

* `Failing` says which keys fail, given the outcomes in that order.
* `SourceRun.has_failed_harvest` says that storing the outcomes finds these keys and no others.
* `Tainted` leaves the order out. `failing_iff_tainted` says that this is the same where every source
  comes after all that it refers to.
-/

namespace HardwareWatch

/-- A source with its table, or with nothing if its last attempt failed. -/
abbrev SourceOutcome := Source × Option Table

/-- The key of the source. -/
def SourceOutcome.key (o : SourceOutcome) : String := o.1.key

/-- A source with the key failed, or refers to one that failed before it. -/
inductive Failing : List SourceOutcome → String → Prop
  | own {os : List SourceOutcome} {s : Source} (h : (s, none) ∈ os) : Failing os s.key
  | built {before after : List SourceOutcome} {s : Source} {t : Option Table} {k : String}
      (hk : k ∈ s.references) (h : Failing before k) :
    Failing (before ++ (s, t) :: after) s.key

namespace Failing

variable {os : List SourceOutcome} {k : String}

theorem append_right (h : Failing os k) (more : List SourceOutcome) : Failing (os ++ more) k := by
  cases h with
  | own h => exact .own (List.mem_append_left _ h)
  | built hk h =>
    rw [List.append_assoc]
    exact .built hk h

theorem not_nil : ¬Failing [] k := by
  intro h
  generalize hos : ([] : List SourceOutcome) = os at h
  cases h with
  | own h => simp [← hos] at h
  | built => simp at hos

/-- One more outcome. -/
theorem concat_iff {s : Source} {t : Option Table} :
    Failing (os ++ [(s, t)]) k ↔
      Failing os k ∨ s.key = k ∧ (t = none ∨ ∃ k' ∈ s.references, Failing os k') := by
  constructor
  · intro h
    generalize hos : os ++ [(s, t)] = all at h
    cases h with
    | own h =>
      subst hos
      rcases List.mem_append.1 h with h | h
      · exact .inl (.own h)
      · cases List.mem_singleton.1 h
        exact .inr ⟨rfl, .inl rfl⟩
    | built hk h =>
      rename_i before after s' t' k'
      rcases List.eq_nil_or_concat after with rfl | ⟨after', o, rfl⟩
      · obtain ⟨rfl, ho⟩ := List.append_inj' hos rfl
        cases ho
        exact .inr ⟨rfl, .inr ⟨k', hk, h⟩⟩
      · rw [List.concat_eq_append, ← List.cons_append, ← List.append_assoc] at hos
        obtain ⟨rfl, -⟩ := List.append_inj' hos rfl
        exact .inl (.built hk h)
  · rintro (h | ⟨rfl, rfl | ⟨k', hk', h⟩⟩)
    · exact h.append_right _
    · exact .own (by simp)
    · exact .built hk' h

/-- Outcomes of other sources at the end make no difference. -/
theorem of_append {more : List SourceOutcome} (hk : ∀ o ∈ more, o.key ≠ k)
    (h : Failing (os ++ more) k) : Failing os k := by
  induction more using List.reverseRecOn with
  | nil => rwa [List.append_nil] at h
  | append_singleton more o ih =>
    rw [← List.append_assoc] at h
    rcases concat_iff.1 h with h | ⟨he, -⟩
    · exact ih (fun o' ho' => hk o' (List.mem_append_left _ ho')) h
    · exact absurd he (hk o (by simp))

/-- The key is that of a source. -/
theorem exists_key (h : Failing os k) : ∃ o ∈ os, o.key = k := by
  cases h with
  | own h => exact ⟨_, h, rfl⟩
  | built => exact ⟨_, List.mem_append_right _ List.mem_cons_self, rfl⟩

/-- Whether a source fails whose key no other one has. -/
theorem middle_iff {after : List SourceOutcome} {s : Source} {t : Option Table}
    (hbefore : ∀ o ∈ os, o.key ≠ s.key) (hafter : ∀ o ∈ after, o.key ≠ s.key) :
    Failing (os ++ (s, t) :: after) s.key ↔ t = none ∨ ∃ k ∈ s.references, Failing os k := by
  have hself : Failing (os ++ [(s, t)]) s.key ↔
      t = none ∨ ∃ k ∈ s.references, Failing os k := by
    rw [concat_iff, or_iff_right, and_iff_right rfl]
    intro h
    obtain ⟨o, ho, hkey⟩ := h.exists_key
    exact hbefore o ho hkey
  rw [List.append_cons, ← hself]
  exact ⟨of_append hafter, fun h => h.append_right after⟩

end Failing

/-! ## Storing outcomes -/

namespace SourceRun

variable {h : Harvest}

theorem has_store (o : SourceOutcome) (k : String) :
    (store h o).failed.has k = true ↔ h.failed.has k = true ∨
      o.key = k ∧ (o.2 = none ∨ ∃ k' ∈ o.1.references, h.failed.has k' = true) := by
  obtain ⟨s, t⟩ := o
  by_cases hf : t.isNone || s.references.any h.failed.has
  · have hs : (store h (s, t)).failed = h.failed.add s.key := if_pos hf
    have hf' : t = none ∨ ∃ k' ∈ s.references, h.failed.has k' = true := by simpa using hf
    rw [hs, NameSet.has_add, Bool.or_eq_true, decide_eq_true_eq, or_comm]
    simp only [SourceOutcome.key, hf', and_true]
  · have hs : (store h (s, t)).failed = h.failed := if_neg hf
    rw [hs]
    have hf' : ¬(t = none ∨ ∃ k' ∈ s.references, h.failed.has k' = true) := by simpa using hf
    simp only [hf', and_false, or_false]

/-- The tables that there are after outcomes were stored, and the sources that failed. -/
def harvest (tables : Namespace) (os : List SourceOutcome) : Harvest :=
  os.foldl store ⟨tables, .empty⟩

theorem harvest_append (tables : Namespace) (os more : List SourceOutcome) :
    harvest tables (os ++ more) = more.foldl store (harvest tables os) := List.foldl_append ..

/-- **The failed sources** after outcomes were stored. -/
theorem has_failed_harvest (tables : Namespace) (os : List SourceOutcome) (k : String) :
    (harvest tables os).failed.has k = true ↔ Failing os k := by
  induction os using List.reverseRecOn generalizing k with
  | nil => simp [harvest, Failing.not_nil]
  | append_singleton os o ih =>
    rw [harvest_append, List.foldl_cons, List.foldl_nil, has_store, Failing.concat_iff]
    simp only [ih, SourceOutcome.key]

theorem get?_store_of_ne {o : SourceOutcome} {k : String} (hk : o.key ≠ k) :
    (store h o).tables.get? k = h.tables.get? k := by
  simp [store, NameMap.get?_insert, show o.1.key ≠ k from hk]

theorem get?_store_self (h : Harvest) (o : SourceOutcome) :
    (store h o).tables.get? o.key = some (o.2.getD .empty) := by
  simp [store, NameMap.get?_insert, SourceOutcome.key]

/-- The tables of all sources are there after their outcomes were stored. -/
theorem contains_harvest (tables : Namespace) (os : List SourceOutcome) (k : String) :
    (harvest tables os).tables.contains k = true ↔
      tables.contains k = true ∨ ∃ o ∈ os, o.key = k := by
  induction os using List.reverseRecOn with
  | nil => simp [harvest]
  | append_singleton os o ih =>
    rw [harvest_append, List.foldl_cons, List.foldl_nil]
    by_cases hk : o.key = k
    · subst hk
      simp [NameMap.contains, get?_store_self]
    · have hget : (store (harvest tables os) o).tables.contains k =
          (harvest tables os).tables.contains k := by
        rw [NameMap.contains, get?_store_of_ne hk, NameMap.contains]
      rw [hget, ih]
      simp [hk]

theorem get?_foldl_store_of_forall_ne {os : List SourceOutcome} {k : String}
    (hk : ∀ o ∈ os, o.key ≠ k) : (os.foldl store h).tables.get? k = h.tables.get? k := by
  induction os generalizing h with
  | nil => rfl
  | cons o os ih =>
    rw [List.foldl_cons, ih fun o' ho' => hk o' (by simp [ho']), get?_store_of_ne (hk o (by simp))]

/-- The table of a source whose key no other one has. -/
theorem get?_foldl_store_of_mem {os : List SourceOutcome} (hos : (os.map SourceOutcome.key).Nodup)
    {o : SourceOutcome} (ho : o ∈ os) :
    (os.foldl store h).tables.get? o.key = some (o.2.getD .empty) := by
  induction os generalizing h with
  | nil => cases ho
  | cons o' os ih =>
    obtain ⟨hne, hnd⟩ := List.nodup_cons.1 (List.map_cons ▸ hos)
    rw [List.foldl_cons]
    rcases List.mem_cons.1 ho with rfl | ho
    · have hrest : ∀ o' ∈ os, o'.key ≠ o.key := fun o' ho' he =>
        hne (he ▸ List.mem_map_of_mem (f := SourceOutcome.key) ho')
      rw [get?_foldl_store_of_forall_ne hrest, get?_store_self]
    · exact ih hnd ho

/-- The table of a source whose key no later one has. -/
theorem get?_harvest_middle {tables : Namespace} {before after : List SourceOutcome} {s : Source}
    {t : Option Table} (hafter : ∀ o ∈ after, o.key ≠ s.key) :
    (harvest tables (before ++ (s, t) :: after)).tables.get? s.key = some (t.getD .empty) := by
  rw [harvest_append, List.foldl_cons, get?_foldl_store_of_forall_ne hafter]
  exact get?_store_self _ (s, t)

end SourceRun

/-! ## Without regard to order -/

/-- A source with the key failed, or refers to one that failed. -/
inductive Tainted (os : List SourceOutcome) : String → Prop
  | own {s : Source} (h : (s, none) ∈ os) : Tainted os s.key
  | built {s : Source} {t : Option Table} {k : String} (h : (s, t) ∈ os) (hk : k ∈ s.references)
      (ht : Tainted os k) : Tainted os s.key

namespace Tainted

variable {os os' : List SourceOutcome} {k : String}

theorem mono (hos : ∀ o ∈ os, o ∈ os') (h : Tainted os k) : Tainted os' k := by
  induction h with
  | own h => exact .own (hos _ h)
  | built h hk _ ih => exact .built (hos _ h) hk ih

theorem of_failing (h : Failing os k) : Tainted os k := by
  induction h with
  | own h => exact .own h
  | built hk _ ih =>
    exact .built (List.mem_append_right _ List.mem_cons_self) hk
      (ih.mono fun o ho => List.mem_append_left _ ho)

end Tainted

theorem Source.ne_key_of_mem_references {s : Source} {k : String} (h : k ∈ s.references) :
    k ≠ s.key := by
  simpa using (List.mem_filter.1 (List.mem_eraseDups.1 h)).2

/-- No source refers to a later one. -/
def ReferencesPrecede (os : List SourceOutcome) : Prop :=
  os.Pairwise fun o o' => o'.key ∉ o.1.references

theorem failing_iff_tainted {os : List SourceOutcome} (hos : ReferencesPrecede os) {k : String} :
    Failing os k ↔ Tainted os k := by
  refine ⟨.of_failing, fun h => ?_⟩
  induction h with
  | own h => exact .own h
  | built h hk ht ih =>
    rename_i s t k'
    obtain ⟨before, after, rfl⟩ := List.append_of_mem h
    refine .built hk (ih.of_append fun o ho he => ?_)
    rcases List.mem_cons.1 ho with rfl | ho
    · exact Source.ne_key_of_mem_references hk he.symm
    · have hlater := (List.pairwise_cons.1 (List.pairwise_append.1 hos).2.1).1 o ho
      exact hlater (he ▸ hk)

end HardwareWatch
