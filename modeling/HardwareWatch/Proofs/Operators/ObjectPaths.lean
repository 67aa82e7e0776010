import HardwareWatch.Proofs.Operators.Columns
import HardwareWatch.Proofs.Table.Naming
import HardwareWatch.Proofs.Text.Numerals
import Mathlib.Algebra.Order.BigOperators.Group.List
import Mathlib.Algebra.Order.Group.Nat
import Mathlib.Data.List.Nodup
import Mathlib.Data.List.Perm.Subperm

/-!
# Properties of object paths

An object path is a class, a point and key bindings with quoted values. A property is looked for in
the parts between the commas, so the value of a binding is found if no value holds a comma and every
name is read as it is written.

* `ObjectPath` is such a path, and `ObjectPath.value?` the value of a property in it.
* `ObjectPath.readings` are the keys as they are read, and `ObjectPath.pathPropertyOf_text` looks a
  property up among them.
* `ObjectPath.readings_perm` says that all keys are read if every property is found. They cannot be
  shorter then, so the names are read in full.
* `ObjectPath.property_read_back_iff` is the main statement.
-/

namespace HardwareWatch

/-! ## Object paths -/

/-- The text may be the name of a key. -/
def IsKeyName (name : String) : Prop := ∀ c ∈ [',', '=', '.'], c ∉ name.toList

instance (name : String) : Decidable (IsKeyName name) :=
  List.decidableBAll (· ∉ name.toList) [',', '=', '.']

/-- A key with its value. -/
structure KeyBinding where
  name : String
  value : String
  isKeyName : IsKeyName name := by decide
  quote_notMem : '\x22' ∉ value.toList := by decide

namespace KeyBinding

/-- The name without regard to case. -/
def key (b : KeyBinding) : Chars := Chars.lowercase b.name.toList

/-- The binding as it is written in a path. -/
def chars (b : KeyBinding) : Chars :=
  b.name.toList ++ '=' :: '\x22' :: (b.value.toList ++ ['\x22'])

end KeyBinding

/-- A class with key bindings, no two of which have the same name. -/
structure ObjectPath where
  className : String
  bindings : List KeyBinding
  comma_notMem : ',' ∉ className.toList := by decide
  equals_notMem : '=' ∉ className.toList := by decide
  nodup : (bindings.map KeyBinding.key).Nodup := by decide +kernel

namespace ObjectPath

/-- The path as it is written. -/
def text (o : ObjectPath) : String :=
  .ofList (o.className.toList ++ '.' :: Chars.join [','] (o.bindings.map KeyBinding.chars))

/-- The value of the binding with a name. -/
def value? (o : ObjectPath) (property : String) : Option String :=
  (o.bindings.find? (·.key = Chars.lowercase property.toList)).map fun b => Text.trim b.value

end ObjectPath

/-- What becomes of a cell with an object path when a property is taken out of it. -/
def pathCell (property cell : String) : String :=
  if property = "" then cell else (pathPropertyOf cell property).getD cell

/-! ## Parts of paths -/

namespace Chars

variable {name value wanted : Chars}

/-- The value in a part of a path between two commas, if the part has the name. -/
def pairValue? (wanted pair : Chars) : Option String :=
  match breakOn? ['='] pair with
  | none => none
  | some (name, value) =>
    let name := lowercase (trim name)
    if name == wanted || (dropSuffix? ('.' :: wanted) name).isSome then
      some (.ofList (trim (unquoted (trim value))))
    else none

theorem unquoted_sublist (s : Chars) : (unquoted s).Sublist s :=
  (List.rdropWhile_prefix _ _).sublist.trans (List.dropWhile_sublist _)

theorem trim_quotes (value : Chars) :
    trim ('\x22' :: (value ++ ['\x22'])) = '\x22' :: (value ++ ['\x22']) := by
  have hquote : isBlank '\x22' = false := by decide
  simp [trim, trimStart, trimEnd, hquote]

theorem unquoted_quotes (h : '\x22' ∉ value) : unquoted ('\x22' :: (value ++ ['\x22'])) = value := by
  have hstay {s : Chars} (hs : '\x22' ∉ s) : s.dropWhile (· == '\x22') = s := by
    cases s with
    | nil => rfl
    | cons c s => simp [Ne.symm (List.ne_of_not_mem_cons hs)]
  cases value with
  | nil => rfl
  | cons c value =>
    have hc : (c == '\x22') = false := beq_false_of_ne (Ne.symm (List.ne_of_not_mem_cons h))
    have hend := hstay (mt List.mem_reverse.1 h)
    simp only [List.reverse_cons] at hend
    simp [unquoted, hc, hend]

/-- What is read of a part with a quoted value. -/
theorem pairValue?_quotes (hname : '=' ∉ name) (hvalue : '\x22' ∉ value) :
    pairValue? wanted (name ++ '=' :: '\x22' :: (value ++ ['\x22'])) =
      if lowercase (trim name) = wanted ∨ '.' :: wanted <:+ lowercase (trim name) then
        some (.ofList (trim value))
      else none := by
  have hsuffix : (dropSuffix? ('.' :: wanted) (lowercase (trim name))).isSome ↔
      '.' :: wanted <:+ lowercase (trim name) := by
    rw [Option.isSome_iff_exists]
    exact exists_congr fun rest => dropSuffix?_eq_some_iff.trans eq_comm
  rw [pairValue?, breakOn?_append hname]
  simp only [trim_quotes, unquoted_quotes hvalue, Bool.or_eq_true, beq_iff_eq, hsuffix]

/-- The end of a text behind its last point. -/
theorem point_cons_suffix_iff {start key : Chars} (hkey : '.' ∉ key) (hwanted : '.' ∉ wanted) :
    '.' :: wanted <:+ start ++ '.' :: key ↔ key = wanted := by
  constructor
  · rintro ⟨start', h⟩
    have hcut := congrArg List.reverse h
    simp only [List.reverse_append, List.reverse_cons, List.append_assoc, List.singleton_append]
      at hcut
    exact List.reverse_inj.1
      (append_cons_inj (mt List.mem_reverse.1 hwanted) (mt List.mem_reverse.1 hkey) hcut).1.symm
  · rintro rfl
    exact List.suffix_append _ _

/-- What is read of a part stands in it. -/
theorem sublist_of_pairValue? {pair : Chars} {result : String}
    (h : pairValue? wanted pair = some result) : result.toList.Sublist pair := by
  rw [pairValue?] at h
  split at h
  · cases h
  · rename_i name value hbreak
    dsimp only at h
    split at h
    · cases h
      rw [String.toList_ofList, eq_append_of_breakOn? hbreak]
      exact ((trim_sublist _).trans ((unquoted_sublist _).trans (trim_sublist _))).trans
        ((List.sublist_append_right _ _).trans (List.sublist_append_right _ _))
    · cases h

end Chars

theorem findSome?_ite {α β : Type} (l : List α) (p : α → Prop) [DecidablePred p] (f : α → β) :
    l.findSome? (fun a => if p a then some (f a) else none) = (l.find? (p ·)).map f := by
  induction l with
  | nil => rfl
  | cons a l ih => by_cases h : p a <;> simp [h, ih]

theorem pathPropertyOf_eq (path property : String) :
    pathPropertyOf path property = (Chars.splitBy (· == ',') path.toList).findSome?
      (Chars.pairValue? (Chars.lowercase property.toList)) :=
  rfl

/-- No comma is read out of a path. -/
theorem comma_notMem_of_pathPropertyOf {path property result : String}
    (h : pathPropertyOf path property = some result) : ',' ∉ result.toList := by
  rw [pathPropertyOf_eq] at h
  obtain ⟨pair, hpair, hresult⟩ := List.exists_of_findSome?_eq_some h
  intro hcomma
  have hmem := (Chars.sublist_of_pairValue? hresult).subset hcomma
  exact absurd (Chars.of_mem_splitBy hpair _ hmem).2 (by decide)

namespace ObjectPath

variable {o : ObjectPath} {property : String}

/-! ## Keys as they are read -/

/-- What stands in front of the first name, in reverse. -/
def lead (o : ObjectPath) : Chars := '.' :: (Chars.trimStart o.className.toList).reverse

/-- The keys as they are read, with their bindings. -/
def readings (o : ObjectPath) : List (Chars × KeyBinding) :=
  match o.bindings with
  | [] => []
  | first :: others =>
    (Chars.lowercaseAfter o.lead (Chars.trimEnd first.name.toList), first) ::
      others.map fun b => (Chars.lowercase (Chars.trim b.name.toList), b)

theorem map_snd_readings : o.readings.map Prod.snd = o.bindings := by
  rw [readings]
  split <;> simp_all [Function.comp_def]

theorem point_notMem_lowercase (hname : IsKeyName property) :
    '.' ∉ Chars.lowercase property.toList :=
  Chars.point_notMem_lowercaseAfter (hname '.' (by decide)) []

/-- What is read of a binding behind the first one. -/
theorem pairValue?_other (wanted : Chars) (b : KeyBinding) :
    Chars.pairValue? wanted b.chars =
      if Chars.lowercase (Chars.trim b.name.toList) = wanted then some (Text.trim b.value)
      else none := by
  have hpoint : '.' ∉ Chars.lowercase (Chars.trim b.name.toList) :=
    Chars.point_notMem_lowercaseAfter
      (fun h => b.isKeyName '.' (by decide) ((Chars.trim_sublist _).subset h)) []
  have hsuffix : ¬ '.' :: wanted <:+ Chars.lowercase (Chars.trim b.name.toList) := fun h =>
    hpoint (h.subset List.mem_cons_self)
  rw [KeyBinding.chars, Chars.pairValue?_quotes (b.isKeyName '=' (by decide)) b.quote_notMem]
  simp only [hsuffix, or_false]
  rfl

/-- What is read of the class with the first binding. -/
theorem pairValue?_first {wanted : Chars} (hwanted : '.' ∉ wanted) (b : KeyBinding) :
    Chars.pairValue? wanted (o.className.toList ++ '.' :: b.chars) =
      if Chars.lowercaseAfter o.lead (Chars.trimEnd b.name.toList) = wanted then
        some (Text.trim b.value)
      else none := by
  have hequals : '=' ∉ o.className.toList ++ '.' :: b.name.toList := by
    have hname := b.isKeyName '=' (by decide)
    simp [o.equals_notMem, hname]
  have hpoint : '.' ∉ Chars.lowercaseAfter o.lead (Chars.trimEnd b.name.toList) :=
    Chars.point_notMem_lowercaseAfter
      (fun h => b.isKeyName '.' (by decide) ((Chars.trimEnd_sublist _).subset h)) _
  obtain ⟨start, hstart⟩ := Chars.lowercaseAfter_append [] (Chars.trimStart o.className.toList)
    ('.' :: Chars.trimEnd b.name.toList)
  have hread : Chars.lowercase (Chars.trim (o.className.toList ++ '.' :: b.name.toList)) =
      start ++ '.' :: Chars.lowercaseAfter o.lead (Chars.trimEnd b.name.toList) := by
    rw [Chars.trim_append_cons (by decide), Chars.lowercase, hstart, List.append_nil,
      Chars.lowercaseAfter_cons]
    rfl
  have hwhole : start ++ '.' :: Chars.lowercaseAfter o.lead (Chars.trimEnd b.name.toList) ≠ wanted :=
    fun he => hwanted (he ▸ List.mem_append_right _ List.mem_cons_self)
  rw [KeyBinding.chars, ← List.cons_append, ← List.append_assoc,
    Chars.pairValue?_quotes hequals b.quote_notMem, hread]
  simp only [hwhole, false_or, Chars.point_cons_suffix_iff hpoint hwanted]
  rfl

theorem comma_notMem_chars {b : KeyBinding} (h : ',' ∉ b.value.toList) : ',' ∉ b.chars := by
  have hname := b.isKeyName ',' (by decide)
  simp [KeyBinding.chars, hname, h]

/-- The property of a path is looked for among the keys as they are read, if no value holds a
comma. -/
theorem pathPropertyOf_text (hcomma : ∀ b ∈ o.bindings, ',' ∉ b.value.toList)
    (hproperty : IsKeyName property) :
    pathPropertyOf o.text property =
      (o.readings.find? (·.1 = Chars.lowercase property.toList)).map fun r =>
        Text.trim r.2.value := by
  rw [pathPropertyOf_eq, text, String.toList_ofList, readings]
  cases hbindings : o.bindings with
  | nil =>
    have hclass : ∀ d ∈ o.className.toList ++ ['.'], (d == ',') = false := by
      have hcomma := o.comma_notMem
      intro d hd
      rcases List.mem_append.1 hd with hd | hd
      · exact beq_false_of_ne fun he => hcomma (he ▸ hd)
      · rw [List.mem_singleton.1 hd]
        decide
    have hequals : '=' ∉ o.className.toList ++ ['.'] := by simp [o.equals_notMem]
    rw [List.map_nil, show Chars.join [','] [] = [] from rfl, Chars.splitBy_of_forall hclass]
    simp [Chars.pairValue?, Chars.breakOn?_of_notMem hequals]
  | cons first others =>
    rw [hbindings, List.forall_mem_cons] at hcomma
    have hparts : ∀ x ∈ (o.className.toList ++ '.' :: first.chars) :: others.map KeyBinding.chars,
        ',' ∉ x := by
      refine List.forall_mem_cons.2 ⟨?_, List.forall_mem_map.2 fun b hb =>
        comma_notMem_chars (hcomma.2 b hb)⟩
      simp [o.comma_notMem, comma_notMem_chars hcomma.1]
    have hfirst := Chars.join_append_cons [','] (o.className.toList ++ ['.']) first.chars
      (others.map KeyBinding.chars)
    simp only [List.append_assoc, List.singleton_append] at hfirst
    rw [List.map_cons, hfirst, Chars.splitBy_join_of_forall (List.cons_ne_nil _ _) hparts]
    simp only [List.findSome?_cons, pairValue?_first (point_notMem_lowercase hproperty),
      List.findSome?_map, Function.comp_def, pairValue?_other, findSome?_ite, List.find?_cons,
      List.find?_map]
    by_cases hkey : Chars.lowercaseAfter o.lead (Chars.trimEnd first.name.toList) =
      Chars.lowercase property.toList
    · simp [hkey]
    · simp [hkey, Function.comp_def]

/-! ## Paths that are read as they are written -/

/-- No value holds a comma, no name is empty, and the names are read as they are written: blanks at
their ends would be left out, and the first one must be written in lower case behind the class as it
is alone. -/
structure ReadsPlainly (o : ObjectPath) : Prop where
  comma_notMem : ∀ b ∈ o.bindings, ',' ∉ b.value.toList
  name_ne_empty : ∀ b ∈ o.bindings, b.name ≠ ""
  first : ∀ b ∈ o.bindings.head?, Chars.trimEnd b.name.toList = b.name.toList ∧
    Chars.lowercaseAfter o.lead b.name.toList = b.key
  others : ∀ b ∈ o.bindings.tail, Chars.trim b.name.toList = b.name.toList

theorem ReadsPlainly.readings_eq (h : o.ReadsPlainly) :
    o.readings = o.bindings.map fun b => (b.key, b) := by
  obtain ⟨-, -, hfirst, hothers⟩ := h
  rw [readings]
  split
  · simp [*]
  · rename_i first others hbindings
    rw [hbindings] at hfirst hothers
    obtain ⟨htrim, hlead⟩ := hfirst first rfl
    have hmap : others.map (fun b => (Chars.lowercase (Chars.trim b.name.toList), b)) =
        others.map fun b => (b.key, b) :=
      List.map_congr_left fun b hb => by
        rw [KeyBinding.key, hothers b hb]
    rw [hbindings, htrim, hlead, hmap, List.map_cons]

theorem value?_empty (h : ∀ b ∈ o.bindings, b.name ≠ "") : o.value? "" = none := by
  rw [value?, Option.map_eq_none_iff, List.find?_eq_none]
  intro b hb hkey
  have hempty : [] = b.name.toList := Chars.eq_of_length_lowercaseAfter (List.nil_sublist _)
    (congrArg List.length (of_decide_eq_true hkey)).symm
  exact h b hb (String.toList_eq_nil_iff.1 hempty.symm)

/-- In a path that is read as it is written, every property is found. -/
theorem ReadsPlainly.pathCell_text (h : o.ReadsPlainly) (hproperty : IsKeyName property) :
    pathCell property o.text = (o.value? property).getD o.text := by
  rw [pathCell]
  split
  · rename_i hempty
    rw [hempty, value?_empty h.name_ne_empty]
    rfl
  · rw [pathPropertyOf_text h.comma_notMem hproperty, h.readings_eq, value?, List.find?_map,
      Option.map_map]
    rfl

/-- The value of a binding is the value of its name. -/
theorem value?_name {b : KeyBinding} (hb : b ∈ o.bindings) :
    o.value? b.name = some (Text.trim b.value) := by
  have hsome : (o.bindings.find? (·.key = b.key)).isSome :=
    List.find?_isSome.2 ⟨b, hb, decide_eq_true rfl⟩
  obtain ⟨b', hb'⟩ := Option.isSome_iff_exists.1 hsome
  have hkey := List.find?_some hb'
  obtain rfl : b' = b := List.inj_on_of_nodup_map o.nodup (List.mem_of_find?_eq_some hb') hb
    (of_decide_eq_true hkey)
  exact congrArg (Option.map _) hb'

/-- The path is no value of a binding, since it has quotes. -/
theorem text_ne_trim {b : KeyBinding} (hb : b ∈ o.bindings) : o.text ≠ Text.trim b.value := by
  intro he
  have hquote : '\x22' ∈ o.text.toList := by
    have hpart : '\x22' ∈ b.chars := by simp [KeyBinding.chars]
    rw [text, String.toList_ofList]
    exact List.mem_append_right _ (List.mem_cons_of_mem _
      (Chars.mem_join (List.mem_map_of_mem hb) hpart))
  rw [he, Text.toList_trim] at hquote
  exact b.quote_notMem ((Chars.trim_sublist _).subset hquote)

section

variable (h : ∀ property, IsKeyName property →
  pathCell property o.text = (o.value? property).getD o.text)

include h

/-- If every property is found, no name is empty, and each leads to the value of its binding. -/
theorem pathPropertyOf_name {b : KeyBinding} (hb : b ∈ o.bindings) :
    b.name ≠ "" ∧ pathPropertyOf o.text b.name = some (Text.trim b.value) := by
  have hcell : pathCell b.name o.text = Text.trim b.value := by
    rw [h b.name b.isKeyName, value?_name hb]
    rfl
  rw [pathCell] at hcell
  split at hcell
  · exact absurd hcell (text_ne_trim hb)
  · rename_i hname
    refine ⟨hname, ?_⟩
    cases hread : pathPropertyOf o.text b.name with
    | none =>
      rw [hread] at hcell
      exact absurd hcell (text_ne_trim hb)
    | some result =>
      rw [hread] at hcell
      exact congrArg some hcell

theorem comma_notMem_value {b : KeyBinding} (hb : b ∈ o.bindings) : ',' ∉ b.value.toList := by
  intro hcomma
  have hresult := comma_notMem_of_pathPropertyOf (pathPropertyOf_name h hb).2
  rw [Text.toList_trim] at hresult
  obtain ⟨before, after, hparts, hbefore, hafter⟩ := Reference.exists_eq_append_trim b.value.toList
  rw [hparts] at hcomma
  rcases List.mem_append.1 hcomma with hmem | hmem
  · exact absurd (hbefore _ hmem) (by decide)
  rcases List.mem_append.1 hmem with hmem | hmem
  · exact hresult hmem
  · exact absurd (hafter _ hmem) (by decide)

/-- The keys are read, if not in their order. -/
theorem readings_perm : (o.bindings.map KeyBinding.key).Perm (o.readings.map Prod.fst) := by
  have hread : o.bindings.map KeyBinding.key ⊆ o.readings.map Prod.fst := by
    intro key hkey
    obtain ⟨b, hb, rfl⟩ := List.mem_map.1 hkey
    have hfound := (pathPropertyOf_name h hb).2
    rw [pathPropertyOf_text (fun b hb => comma_notMem_value h hb) b.isKeyName] at hfound
    obtain ⟨r, hr, -⟩ := Option.map_eq_some_iff.1 hfound
    have hkey := List.find?_some hr
    exact List.mem_map.2 ⟨r, List.mem_of_find?_eq_some hr, of_decide_eq_true hkey⟩
  refine (o.nodup.subperm hread).perm_of_length_le ?_
  rw [← map_snd_readings]
  simp

/-- A key is read from a part of its name. So all names are read in full, or the keys would be
shorter altogether. -/
theorem length_readings {r : Chars × KeyBinding} (hr : r ∈ o.readings) :
    r.1.length = r.2.key.length := by
  have hle : ∀ r ∈ o.readings, r.1.length ≤ r.2.key.length := by
    intro r hr
    rw [readings] at hr
    split at hr
    · cases hr
    · rcases List.mem_cons.1 hr with rfl | hr
      · exact Chars.length_lowercaseAfter_le (Chars.trimEnd_sublist _) _ _
      · obtain ⟨b, -, rfl⟩ := List.mem_map.1 hr
        exact Chars.length_lowercaseAfter_le (Chars.trim_sublist _) _ _
  have hsum : (o.readings.map fun r => r.2.key.length).sum =
      (o.readings.map fun r => r.1.length).sum := by
    have hperm := ((readings_perm h).map List.length).sum_eq
    rw [← map_snd_readings] at hperm
    simpa [Function.comp_def] using hperm
  refine (hle r hr).antisymm (Nat.le_of_not_lt fun hlt => ?_)
  have hless := List.sum_lt_sum (fun r => r.1.length) (fun r => r.2.key.length) hle
    ⟨r, hr, hlt⟩
  omega

/-- If every property is found, the path is read as it is written. -/
theorem readsPlainly_of_pathCell : o.ReadsPlainly := by
  have hperm := readings_perm h
  have hlength := fun r => length_readings h (r := r)
  have hothers : ∀ b ∈ o.bindings.tail, Chars.trim b.name.toList = b.name.toList := by
    intro b hb
    refine Chars.eq_of_length_lowercaseAfter (Chars.trim_sublist _)
      (hlength (Chars.lowercase (Chars.trim b.name.toList), b) ?_)
    rw [readings]
    cases hbindings : o.bindings with
    | nil => simp [hbindings] at hb
    | cons first others =>
      rw [hbindings] at hb
      exact List.mem_cons_of_mem _ (List.mem_map_of_mem hb)
  refine ⟨fun b hb => comma_notMem_value h hb, fun b hb => (pathPropertyOf_name h hb).1,
    fun first hfirst => ?_, hothers⟩
  obtain ⟨others, hbindings⟩ := List.head?_eq_some_iff.1 hfirst
  rw [hbindings] at hothers
  rw [readings, hbindings] at hperm hlength
  have htrim : Chars.trimEnd first.name.toList = first.name.toList :=
    Chars.eq_of_length_lowercaseAfter (Chars.trimEnd_sublist _) (hlength _ List.mem_cons_self)
  -- The other keys are read in their order, so the key that is left is the first one.
  have hrest : others.map (fun b => Chars.lowercase (Chars.trim b.name.toList)) =
      others.map KeyBinding.key :=
    List.map_congr_left fun b hb => congrArg Chars.lowercase (hothers b hb)
  have hsingle :
      [first.key].Perm [Chars.lowercaseAfter o.lead (Chars.trimEnd first.name.toList)] := by
    refine (List.perm_append_right_iff (others.map KeyBinding.key)).1 ?_
    simpa [Function.comp_def, hrest] using hperm
  rw [List.perm_singleton, List.singleton_inj, htrim] at hsingle
  exact ⟨htrim, hsingle.symm⟩

end

/-- The operator changes the cells of its column. -/
theorem rows_pathProperty (ctx : OperatorContext) (position : Nat) (property : String) (t : Table) :
    ((Operator.pathProperty (position + 1) property).apply ctx t).rows =
      t.rows.map (·.modify position (pathCell property)) := by
  change (pathPropertyColumn (position + 1) property t).rows = _
  rw [pathPropertyColumn]
  split
  · rename_i hempty
    have hself : pathCell property = id := funext fun cell => if_pos hempty
    simp [hself]
  · rename_i hproperty
    refine Table.rows_mapColumn (fun position row cell hcell => ?_) position t
    rw [pathCell, if_neg hproperty]
    cases pathPropertyOf cell property with
    | some value => rfl
    | none => exact (Row.set_of_getElem? hcell).symm

example : ReadsPlainly
    { className := "root/cimv2:CIM_Disk"
      bindings :=
        [{ name := "DeviceID", value := "disk0" }, { name := "SystemName", value := " srv " }] } :=
  ⟨by decide, by decide, by decide +kernel, by decide⟩

end ObjectPath

namespace SharedDisks

/-- A path whose value holds a comma. -/
def path : ObjectPath where
  className := "CIM_Disk"
  bindings := [{ name := "Name", value := "a,b" }]

end SharedDisks

end HardwareWatch
