import HardwareWatch.Proofs.Operators.Columns
import HardwareWatch.Proofs.Table.Naming
import Mathlib.Data.List.Forall2
import Mathlib.Data.List.Nodup
import Mathlib.Data.Prod.Basic

/-!
# Translating there and back

A translation that tells its keys and its values apart, without regard to case, has an inverse. A
cell that is a key is translated to its value and from there back to the key, whatever the defaults
of the two are.

* `Translation.inverse` maps each value back to its key.
* `Translation.Invertible` says when keys and values are told apart and are no lists of cells.
* `Translation.image` is what becomes of a cell; `Translation.image_image` takes a key there and back.
* `Operator.translates_back` is the main statement, about the two operators on a column.
-/

namespace HardwareWatch

namespace Translation

/-- The translation with its keys in lower case. -/
def lowered (t : Translation) : Translation :=
  NameMap.ofList (t.toList.map fun (k, v) => (Text.lowercase k, v))

/-- The translation that maps each value back to its key. -/
def inverse (t : Translation) : Translation := NameMap.ofList (t.toList.map Prod.swap)

/-- The keys differ in more than case, and so do the values, and neither have separators. -/
structure Invertible (t : Translation) : Prop where
  keys : (t.keys.map Text.lowercase).Nodup
  values : (t.values.map Text.lowercase).Nodup
  plainKeys : ∀ e ∈ t.toList, ';' ∉ e.1.toList
  plainValues : ∀ e ∈ t.toList, ';' ∉ e.2.toList

/-- The translation has no say on a cell: neither the cell nor `default` is a key or a value. -/
def Passes (t : Translation) (cell : String) : Prop :=
  ∀ e ∈ t.toList, ∀ s ∈ [e.1, e.2], Text.lowercase s ≠ Text.lowercase cell ∧
    Text.lowercase s ≠ "default"

/-- What a translation makes of a cell. -/
def image (t : Translation) (cell : String) : String := (t.lowered.find? cell).getD cell

variable {t : Translation} {k v cell : String}

theorem nodup_lowered (h : t.Invertible) :
    ((t.toList.map fun e => (Text.lowercase e.1, e.2)).map Prod.fst).Nodup := by
  have hkeys := h.keys
  rw [NameMap.keys, List.map_map] at hkeys
  rwa [List.map_map]

theorem nodup_swapped (h : t.Invertible) : ((t.toList.map Prod.swap).map Prod.fst).Nodup := by
  have hvalues : t.values.Nodup := List.Nodup.of_map _ h.values
  rwa [List.map_map]

theorem find?_of_mem (h : t.Invertible) (hmem : (k, v) ∈ t.toList) : t.lowered.find? k = some v := by
  have hget : t.lowered.get? (Text.lowercase k) = some v :=
    (NameMap.get?_ofList_eq_some_iff (nodup_lowered h)).2 (List.mem_map.2 ⟨(k, v), hmem, rfl⟩)
  rw [find?, hget]
  rfl

/-- What a name in lower case has is the value of an entry whose key has that form. -/
theorem exists_mem_of_get? {name : String} (h : t.lowered.get? name = some v) :
    ∃ k, (k, v) ∈ t.toList ∧ Text.lowercase k = name := by
  obtain ⟨⟨k, w⟩, hmem, he⟩ :=
    List.mem_map.1 (NameMap.mem_of_mem_toList_ofList (NameMap.get?_eq_some_iff.1 h))
  obtain ⟨rfl, rfl⟩ := Prod.mk.inj he
  exact ⟨k, hmem, rfl⟩

/-- What is found for a cell is the value of its key or of the default one. -/
theorem exists_mem_of_find? (h : t.lowered.find? cell = some v) :
    ∃ k, (k, v) ∈ t.toList ∧
      (Text.lowercase k = Text.lowercase cell ∨ Text.lowercase k = "default") := by
  rw [find?] at h
  cases hget : t.lowered.get? (Text.lowercase cell) with
  | some w =>
    rw [hget] at h
    obtain rfl : w = v := Option.some.inj h
    obtain ⟨k, hmem, hk⟩ := exists_mem_of_get? hget
    exact ⟨k, hmem, .inl hk⟩
  | none =>
    rw [hget] at h
    obtain ⟨k, hmem, hk⟩ := exists_mem_of_get? h
    exact ⟨k, hmem, .inr hk⟩

theorem mem_inverse_iff (h : t.Invertible) : (v, k) ∈ t.inverse.toList ↔ (k, v) ∈ t.toList := by
  rw [← NameMap.get?_eq_some_iff, inverse, NameMap.get?_ofList_eq_some_iff (nodup_swapped h),
    List.mem_map]
  constructor
  · rintro ⟨⟨k', v'⟩, hmem, he⟩
    cases he
    exact hmem
  · exact fun hmem => ⟨(k, v), hmem, rfl⟩

theorem nodup_toList (t : Translation) : t.toList.Nodup := t.nodup_keys.of_map

/-- The entries of the inverse are those of the translation turned round. -/
theorem perm_inverse (h : t.Invertible) : t.inverse.toList.Perm (t.toList.map Prod.swap) := by
  have hswap : (t.toList.map Prod.swap).Nodup := (nodup_toList t).map Prod.swap_injective
  refine (List.perm_ext_iff_of_nodup (nodup_toList _) hswap).2 fun ⟨v, k⟩ => ?_
  exact (mem_inverse_iff h).trans
    (List.mem_map_of_injective Prod.swap_injective (a := (k, v))).symm

theorem invertible_inverse (h : t.Invertible) : t.inverse.Invertible where
  keys := by
    have hperm := ((perm_inverse h).map Prod.fst).map Text.lowercase
    rw [List.map_map (f := Prod.swap)] at hperm
    exact hperm.nodup_iff.2 h.values
  values := by
    have hperm := ((perm_inverse h).map Prod.snd).map Text.lowercase
    rw [List.map_map (f := Prod.swap)] at hperm
    exact hperm.nodup_iff.2 h.keys
  plainKeys := fun (v, k) he => h.plainValues (k, v) ((mem_inverse_iff h).1 he)
  plainValues := fun (v, k) he => h.plainKeys (k, v) ((mem_inverse_iff h).1 he)

/-! ## Cells there and back -/

theorem image_of_mem (h : t.Invertible) (hmem : (k, v) ∈ t.toList) : t.image k = v := by
  rw [image, find?_of_mem h hmem, Option.getD_some]

/-- A key comes back. -/
theorem image_image (h : t.Invertible) (hk : k ∈ t.keys) : t.inverse.image (t.image k) = k := by
  obtain ⟨⟨k, v⟩, hmem, rfl⟩ := List.mem_map.1 hk
  rw [image_of_mem h hmem]
  exact image_of_mem (invertible_inverse h) ((mem_inverse_iff h).2 hmem)

theorem image_of_passes (h : t.Passes cell) : t.image cell = cell := by
  rw [image]
  cases hfound : t.lowered.find? cell with
  | none => rfl
  | some v =>
    obtain ⟨k, hmem, hk⟩ := exists_mem_of_find? hfound
    have hne := h (k, v) hmem k List.mem_cons_self
    exact (hk.elim hne.1 hne.2).elim

theorem passes_inverse (h : t.Invertible) (hpasses : t.Passes cell) : t.inverse.Passes cell :=
  fun (v, k) he s hs => hpasses (k, v) ((mem_inverse_iff h).1 he) s (List.mem_pair.2
    (List.mem_pair.1 hs).symm)

end Translation

/-! ## Columns there and back -/

theorem Row.put_of_notMem {text : String} (h : ';' ∉ text.toList) (row : Row) (position : Nat) :
    row.put position text = row.set position text := by
  have hcut := Chars.breakOn?_of_notMem h
  rw [put, if_neg]
  rw [Text.hasInfix, Chars.hasInfix, show cellSeparator.toList = [';'] from rfl, hcut]
  exact Bool.false_ne_true

namespace OperatorContext

/-- The translation that is meant, as it is written. -/
def written? (ctx : OperatorContext) : TranslationRef → Option Translation
  | .named name => ctx.translations.get? name
  | .inline table => some table

theorem translation?_eq (ctx : OperatorContext) (ref : TranslationRef) :
    ctx.translation? ref = (ctx.written? ref).map Translation.lowered := by
  cases ref <;> rfl

end OperatorContext

namespace Operator

variable {ctx : OperatorContext} {t : Translation} {ref back : TranslationRef}

theorem translateColumn_zero (ctx : OperatorContext) (ref : TranslationRef) (table : Table) :
    translateColumn ctx 0 ref table = table := by
  rw [translateColumn]
  split
  · rfl
  · exact if_pos rfl

/-- An invertible translation makes one cell of a cell. -/
theorem rows_translate (h : t.Invertible) (href : ctx.written? ref = some t) (position : Nat)
    (table : Table) :
    (translateColumn ctx (position + 1) ref table).rows =
      table.rows.map (·.modify position t.image) := by
  rw [translateColumn, OperatorContext.translation?_eq, href, Option.map_some]
  refine Table.rows_mapColumn (fun position row cell hcell => ?_) position table
  rw [Translation.image]
  cases hfound : t.lowered.find? cell with
  | none => exact (Row.set_of_getElem? hcell).symm
  | some v =>
    obtain ⟨k, hmem, -⟩ := Translation.exists_mem_of_find? hfound
    exact Row.put_of_notMem (h.plainValues _ hmem) row position

/-- **Translating there and back restores the keys.** Let a translation tell its keys and its values
apart without regard to case, with no separators in them. A column that is translated with it and
then with its inverse has as many rows and cells as before, the cells of the other columns are what
they were, and so is every cell that is a key, or that the translation has no say on. -/
theorem translates_back (h : t.Invertible) (href : ctx.written? ref = some t)
    (hback : ctx.written? back = some t.inverse) (column : Nat) (table : Table) :
    List.Forall₂ (fun row row' => row'.length = row.length ∧
        (∀ i, i + 1 ≠ column → row'[i]? = row[i]?) ∧
        ∀ cell, row[column - 1]? = some cell → cell ∈ t.keys ∨ t.Passes cell → row' = row)
      table.rows (applyAll ctx [.translate column ref, .translate column back] table).rows := by
  cases column with
  | zero =>
    have hidle : applyAll ctx [.translate 0 ref, .translate 0 back] table = table := by
      change translateColumn ctx 0 back (translateColumn ctx 0 ref table) = table
      rw [translateColumn_zero, translateColumn_zero]
    rw [hidle]
    exact List.forall₂_same.2 fun row _ => ⟨rfl, fun _ _ => rfl, fun _ _ _ => rfl⟩
  | succ position =>
    have hrows : (applyAll ctx [.translate (position + 1) ref, .translate (position + 1) back]
        table).rows = table.rows.map (·.modify position (t.inverse.image ∘ t.image)) := by
      calc (translateColumn ctx (position + 1) back
            (translateColumn ctx (position + 1) ref table)).rows
          = (table.rows.map (·.modify position t.image)).map
              (·.modify position t.inverse.image) := by
            rw [rows_translate (Translation.invertible_inverse h) hback,
              rows_translate h href]
        _ = _ := by
            rw [List.map_map]
            exact List.map_congr_left fun row _ => List.modify_modify_eq ..
    rw [hrows]
    refine List.forall₂_map_right_iff.2 (List.forall₂_same.2 fun row _ =>
      ⟨List.length_modify .., fun i hi => List.getElem?_modify_ne _ _ (by omega), ?_⟩)
    intro cell hcell hkept
    have hcell' : t.inverse.image (t.image cell) = cell := by
      rcases hkept with hkey | hpasses
      · exact Translation.image_image h hkey
      · rw [Translation.image_of_passes hpasses,
          Translation.image_of_passes (Translation.passes_inverse h hpasses)]
    rw [Nat.add_sub_cancel] at hcell
    rw [List.modify_eq_set_getElem?, hcell]
    exact (congrArg (row.set _) hcell').trans (Row.set_of_getElem? hcell)

end Operator

/-! ## States with a default -/

namespace StateNames

/-- Numbers of states, with a name for all others. -/
def names : Translation := .ofList [("1", "OK"), ("2", "Degraded"), ("default", "Unknown")]

/-- The names of the states are known to the connector. -/
def context : OperatorContext := ⟨.ofList [("states", names)], .empty, none⟩

/-- The second state has no name of its own. -/
def table : Table := .ofRows [["disk", "1", "1"], ["fan", "9"], ["cpu", "2"], ["hba"]]

theorem invertible_names : names.Invertible where
  keys := by decide +kernel
  values := by decide +kernel
  plainKeys := by decide +kernel
  plainValues := by decide +kernel

theorem translates_states_back :
    names.Invertible ∧ context.written? (.named "states") = some names ∧
      context.written? (.inline names.inverse) = some names.inverse ∧
      (Operator.applyAll context
        [.translate 2 (.named "states"), .translate 2 (.inline names.inverse)] table).rows =
          [["disk", "1", "1"], ["fan", "default"], ["cpu", "2"], ["hba"]] ∧
      List.Forall₂ (fun row row' => row'.length = row.length ∧
          (∀ i, i + 1 ≠ 2 → row'[i]? = row[i]?) ∧
          ∀ cell, row[2 - 1]? = some cell → cell ∈ names.keys ∨ names.Passes cell → row' = row)
        table.rows (Operator.applyAll context
          [.translate 2 (.named "states"), .translate 2 (.inline names.inverse)] table).rows :=
  ⟨invertible_names, by decide, rfl, by decide +kernel,
    Operator.translates_back invertible_names (by decide) rfl 2 table⟩

end StateNames

end HardwareWatch
