import HardwareWatch.Operator.Flatten
import HardwareWatch.Proofs.Json.Scanning
import HardwareWatch.Proofs.Table.Naming
import HardwareWatch.Proofs.Text.Numerals
import Mathlib.Data.List.Nodup

/-!
# Trails to the records of a document

A record of a flattened document is found by going from the root through fields and items, where the
fields have the names of the entry key and the items are all items of the arrays on the way. The
place in a row is this trail in print. Since the names are those of the entry key, the trail is told
by its print, whatever characters the names have.

* `JsonRows.Step` is one step of a trail; `follow?` goes along a trail, `placeOf` is its print.
* `JsonRows.trails` are the trails to the records; `mem_trails_iff` says which they are,
  `pairwise_trails` that they are in the order of the document.
* `JsonRows.placeOf_inj` says that trails with the same names have different prints.
* `JsonRows.rows_along_trails` is the main statement.
-/

namespace HardwareWatch

namespace JsonRows

/-! ## Trails -/

/-- One step into a document: to a field of an object or to an item of an array. -/
inductive Step
  | field (name : String)
  | item (number : Nat)
  deriving DecidableEq

namespace Step

/-- The name of the field. -/
def name? : Step → Option String
  | field name => some name
  | item _ => none

/-- The step as it is written in a place. -/
def text : Step → String
  | field name => "/" ++ name
  | item number => "[" ++ toString number ++ "]"

end Step

/-- The names of the fields that a trail goes through. -/
def namesOf (trail : List Step) : List String := trail.filterMap Step.name?

/-- The value that a trail leads to. -/
def follow? : List Step → Json → Option Json
  | [], v => some v
  | .field name :: trail, .object fields => (Json.field? name fields).bind (follow? trail)
  | .item number :: trail, .array items => items[number]?.bind (follow? trail)
  | _, _ => none

/-- The steps of a trail one after the other. -/
def textOf (trail : List Step) : String := String.join (trail.map Step.text)

/-- The place that a trail leads to, as it is written. -/
def placeOf (trail : List Step) : String := if textOf trail = "" then "/" else textOf trail

/-- The first trail goes to an item in front of the one that the second goes to, where they part. -/
def Before (a b : List Step) : Prop :=
  ∃ common i j after after', i < j ∧ a = common ++ .item i :: after ∧ b = common ++ .item j :: after'

/-- Whether the value is an array. -/
def isArray : Json → Bool
  | .array _ => true
  | _ => false

/-- A trail with a step in front. -/
def behind (step : Step) (t : List Step × Json) : List Step × Json := (step :: t.1, t.2)

mutual

/-- The trails that lead along a path to the records, each with its record. -/
def trails : List String → Json → List (List Step × Json)
  | path, .array items => itemTrails path 0 items
  | [], v => [([], v)]
  | name :: path, .object fields => fieldTrails name path fields
  | _, _ => []

/-- The trails through the items of an array from a number on. -/
def itemTrails (path : List String) (number : Nat) : List Json → List (List Step × Json)
  | [] => []
  | v :: rest => (trails path v).map (behind (.item number)) ++ itemTrails path (number + 1) rest

/-- The trails through the first field with a name. -/
def fieldTrails (name : String) (path : List String) :
    List (String × Json) → List (List Step × Json)
  | [] => []
  | (field, v) :: rest =>
    if field = name then (trails path v).map (behind (.field name)) else fieldTrails name path rest

end

/-! ## The records are found along the trails -/

theorem textOf_concat (trail : List Step) (step : Step) :
    textOf (trail ++ [step]) = textOf trail ++ step.text := by
  simp [textOf]

/-- The record at the end of a trail, with its place. -/
def found (before : List Step) (t : List Step × Json) : String × Json :=
  (placeOf (before ++ t.1), t.2)

theorem map_found_behind (before : List Step) (step : Step) (l : List (List Step × Json)) :
    (l.map (behind step)).map (found before) = l.map (found (before ++ [step])) := by
  simp [found, behind, Function.comp_def]

mutual

theorem records_eq (before : List Step) (path : List String) (v : Json) :
    records (textOf before) path v = (trails path v).map (found before) := by
  cases v with
  | array items => rw [records, trails, recordsIn_eq]
  | object fields =>
    cases path with
    | nil => simp [records, trails, found, placeOf]
    | cons name path => rw [records, trails, recordsUnder_eq]
  | null | bool _ | integer _ | double _ | text _ | unreadable =>
    cases path <;> simp [records, trails, found, placeOf]

theorem recordsIn_eq (before : List Step) (path : List String) (number : Nat) (items : List Json) :
    recordsIn (textOf before) path number items =
      (itemTrails path number items).map (found before) := by
  cases items with
  | nil => rfl
  | cons v rest =>
    have hplace : textOf before ++ "[" ++ toString number ++ "]" =
        textOf (before ++ [.item number]) := by
      rw [textOf_concat, Step.text, String.append_assoc, String.append_assoc, String.append_assoc]
    rw [recordsIn, itemTrails, hplace, records_eq _ path v, recordsIn_eq before path _ rest,
      List.map_append, map_found_behind]

theorem recordsUnder_eq (before : List Step) (name : String) (path : List String)
    (fields : List (String × Json)) :
    recordsUnder (textOf before) name path fields =
      (fieldTrails name path fields).map (found before) := by
  match fields with
  | [] => rfl
  | (field, v) :: rest =>
    have hplace : textOf before ++ "/" ++ name = textOf (before ++ [.field name]) := by
      rw [textOf_concat, Step.text, String.append_assoc]
    rw [recordsUnder, fieldTrails]
    split
    · rw [hplace, records_eq _ path v, map_found_behind]
    · exact recordsUnder_eq before name path rest

end

/-! ## Which trails they are -/

@[simp] theorem namesOf_nil : namesOf [] = [] := rfl

@[simp] theorem namesOf_field (name : String) (trail : List Step) :
    namesOf (.field name :: trail) = name :: namesOf trail := rfl

@[simp] theorem namesOf_item (number : Nat) (trail : List Step) :
    namesOf (.item number :: trail) = namesOf trail := rfl

/-- Only an array has items. -/
theorem follow?_item {v : Json} (h : isArray v = false) (number : Nat) (trail : List Step) :
    follow? (.item number :: trail) v = none := by
  cases v with
  | array items => cases h
  | null | bool _ | integer _ | double _ | text _ | object _ | unreadable => rfl

/-- Without names nothing but the value itself is reached, unless it is an array. -/
theorem mem_root_iff {v record : Json} {trail : List Step} (h : isArray v = false) :
    (trail, record) ∈ [(([] : List Step), v)] ↔
      namesOf trail = [] ∧ follow? trail v = some record ∧ isArray record = false := by
  rw [List.mem_singleton, Prod.mk.injEq]
  constructor
  · rintro ⟨rfl, rfl⟩
    exact ⟨rfl, rfl, h⟩
  · rintro ⟨hnames, hfollow, -⟩
    match trail with
    | [] => exact ⟨rfl, (Option.some.inj hfollow).symm⟩
    | .item number :: rest =>
      rw [follow?_item h] at hfollow
      cases hfollow
    | .field name :: rest => cases hnames

/-- Nothing else has parts. -/
theorem not_followed {v record : Json} {trail : List Step} {name : String} {path : List String}
    (h : ∀ step rest, follow? (step :: rest) v = none) :
    ¬(namesOf trail = name :: path ∧ follow? trail v = some record ∧ isArray record = false) := by
  rintro ⟨hnames, hfollow, -⟩
  cases trail with
  | nil => cases hnames
  | cons step rest =>
    rw [h] at hfollow
    cases hfollow

theorem mem_map_behind {trail : List Step} {record : Json} {step : Step}
    {l : List (List Step × Json)} :
    (trail, record) ∈ l.map (behind step) ↔ ∃ rest, trail = step :: rest ∧ (rest, record) ∈ l := by
  simp only [List.mem_map, behind, Prod.exists, Prod.mk.injEq]
  constructor
  · rintro ⟨rest, w, hmem, rfl, rfl⟩
    exact ⟨rest, rfl, hmem⟩
  · rintro ⟨rest, rfl, hmem⟩
    exact ⟨rest, record, hmem, rfl, rfl⟩

mutual

/-- The trails along a path are those with its names that lead to something other than an array. -/
theorem mem_trails_iff {trail : List Step} {record : Json} (path : List String) (v : Json) :
    (trail, record) ∈ trails path v ↔
      namesOf trail = path ∧ follow? trail v = some record ∧ isArray record = false := by
  match v, path with
  | .array items, path =>
    rw [trails, mem_itemTrails_iff path 0 items]
    constructor
    · rintro ⟨i, rest, rfl, hrest⟩
      rwa [Nat.zero_add]
    · rintro ⟨hnames, hfollow, hrecord⟩
      match trail with
      | [] =>
        obtain rfl : .array items = record := Option.some.inj hfollow
        cases hrecord
      | .field name :: rest => cases hfollow
      | .item number :: rest =>
        exact ⟨number, rest, by rw [Nat.zero_add], hnames, hfollow, hrecord⟩
  | .object fields, [] => exact mem_root_iff rfl
  | .object fields, name :: path =>
    rw [trails, mem_fieldTrails_iff name path fields]
    constructor
    · rintro ⟨rest, rfl, hnames, hrest⟩
      exact ⟨congrArg _ hnames, hrest⟩
    · rintro ⟨hnames, hfollow, hrecord⟩
      match trail with
      | [] => cases hnames
      | .item number :: rest => cases hfollow
      | .field field :: rest =>
        obtain ⟨rfl, hrest⟩ := List.cons.inj hnames
        exact ⟨rest, rfl, hrest, hfollow, hrecord⟩
  | .null, [] | .bool _, [] | .integer _, [] | .double _, [] | .text _, [] | .unreadable, [] =>
    exact mem_root_iff rfl
  | .null, _ :: _ | .bool _, _ :: _ | .integer _, _ :: _ | .double _, _ :: _ | .text _, _ :: _
  | .unreadable, _ :: _ =>
    exact iff_of_false List.not_mem_nil (not_followed fun step _ => by cases step <;> rfl)

theorem mem_itemTrails_iff {trail : List Step} {record : Json} (path : List String) (number : Nat)
    (items : List Json) :
    (trail, record) ∈ itemTrails path number items ↔
      ∃ i rest, trail = .item (number + i) :: rest ∧ namesOf rest = path ∧
        items[i]?.bind (follow? rest) = some record ∧ isArray record = false := by
  match items with
  | [] => simp [itemTrails]
  | v :: more =>
    simp only [itemTrails, List.mem_append, mem_map_behind, mem_trails_iff path v,
      mem_itemTrails_iff path (number + 1) more]
    constructor
    · rintro (⟨rest, rfl, hrest⟩ | ⟨i, rest, rfl, hrest⟩)
      · exact ⟨0, rest, rfl, hrest⟩
      · exact ⟨i + 1, rest, by rw [Nat.add_right_comm, Nat.add_assoc], hrest⟩
    · rintro ⟨_ | i, rest, rfl, hrest⟩
      · exact .inl ⟨rest, rfl, hrest⟩
      · exact .inr ⟨i, rest, by rw [Nat.add_right_comm, Nat.add_assoc], hrest⟩

theorem mem_fieldTrails_iff {trail : List Step} {record : Json} (name : String)
    (path : List String) (fields : List (String × Json)) :
    (trail, record) ∈ fieldTrails name path fields ↔
      ∃ rest, trail = .field name :: rest ∧ namesOf rest = path ∧
        (Json.field? name fields).bind (follow? rest) = some record ∧ isArray record = false := by
  match fields with
  | [] => simp [fieldTrails, Json.field?, NameMap.lookup]
  | (field, v) :: more =>
    rw [fieldTrails, Json.field?, NameMap.lookup]
    split
    · simp only [mem_map_behind, mem_trails_iff path v, Option.bind_some]
    · exact mem_fieldTrails_iff name path more

end

/-! ## The order of the trails -/

theorem Before.cons {a b : List Step} (h : Before a b) (step : Step) :
    Before (step :: a) (step :: b) := by
  obtain ⟨common, i, j, after, after', hij, rfl, rfl⟩ := h
  exact ⟨step :: common, i, j, after, after', hij, rfl, rfl⟩

theorem Before.ne {a b : List Step} (h : Before a b) : a ≠ b := by
  obtain ⟨common, i, j, after, after', hij, rfl, rfl⟩ := h
  intro he
  have hitem := (List.cons.inj (List.append_cancel_left he)).1
  exact absurd (Step.item.inj hitem) (Nat.ne_of_lt hij)

theorem pairwise_behind {l : List (List Step × Json)} (h : (l.map Prod.fst).Pairwise Before)
    (step : Step) : ((l.map (behind step)).map Prod.fst).Pairwise Before := by
  have hmap : (l.map (behind step)).map Prod.fst = (l.map Prod.fst).map (step :: ·) := by
    simp [behind, Function.comp_def]
  rw [hmap, List.pairwise_map]
  exact h.imp fun hab => hab.cons step

mutual

/-- The trails are in the order of the document. -/
theorem pairwise_trails (path : List String) (v : Json) :
    ((trails path v).map Prod.fst).Pairwise Before := by
  match v, path with
  | .array items, path =>
    rw [trails]
    exact pairwise_itemTrails path 0 items
  | .object fields, name :: path => exact pairwise_fieldTrails name path fields
  | .object _, [] | .null, [] | .bool _, [] | .integer _, [] | .double _, [] | .text _, []
  | .unreadable, [] => exact List.pairwise_singleton _ _
  | .null, _ :: _ | .bool _, _ :: _ | .integer _, _ :: _ | .double _, _ :: _ | .text _, _ :: _
  | .unreadable, _ :: _ => exact .nil

theorem pairwise_itemTrails (path : List String) (number : Nat) (items : List Json) :
    ((itemTrails path number items).map Prod.fst).Pairwise Before := by
  match items with
  | [] => exact .nil
  | v :: rest =>
    rw [itemTrails, List.map_append]
    refine List.pairwise_append.2 ⟨pairwise_behind (pairwise_trails path v) _,
      pairwise_itemTrails path (number + 1) rest, fun a ha b hb => ?_⟩
    obtain ⟨⟨a, record⟩, hmem, rfl⟩ := List.mem_map.1 ha
    obtain ⟨⟨b, record'⟩, hmem', rfl⟩ := List.mem_map.1 hb
    obtain ⟨after, rfl, -⟩ := mem_map_behind.1 hmem
    obtain ⟨i, after', rfl, -⟩ := (mem_itemTrails_iff path (number + 1) rest).1 hmem'
    exact ⟨[], number, number + 1 + i, after, after', by omega, rfl, rfl⟩

theorem pairwise_fieldTrails (name : String) (path : List String) (fields : List (String × Json)) :
    ((fieldTrails name path fields).map Prod.fst).Pairwise Before := by
  match fields with
  | [] => exact .nil
  | (field, v) :: rest =>
    rw [fieldTrails]
    split
    · exact pairwise_behind (pairwise_trails path v) _
    · exact pairwise_fieldTrails name path rest

end

/-! ## Trails are told by their prints -/

theorem toList_text_field (name : String) : (Step.field name).text.toList = '/' :: name.toList := by
  simp [Step.text]

theorem toList_text_item (number : Nat) :
    (Step.item number).text.toList = '[' :: (Nat.toDigits 10 number ++ [']']) := by
  simp [Step.text]

theorem toList_textOf_cons (step : Step) (trail : List Step) :
    (textOf (step :: trail)).toList = step.text.toList ++ (textOf trail).toList := by
  simp [textOf]

theorem textOf_eq_empty_iff {trail : List Step} : textOf trail = "" ↔ trail = [] := by
  cases trail with
  | nil => exact iff_of_true rfl rfl
  | cons step trail =>
    refine iff_of_false (fun h => ?_) (List.cons_ne_nil _ _)
    rw [← String.toList_inj, toList_textOf_cons] at h
    cases step with
    | field name => simp [toList_text_field] at h
    | item number => simp [toList_text_item] at h

/-- A number in brackets is told from what follows. -/
theorem item_inj {m n : Nat} {s t : Chars}
    (h : Nat.toDigits 10 m ++ ']' :: s = Nat.toDigits 10 n ++ ']' :: t) : m = n ∧ s = t := by
  have hbracket (k : Nat) : ']' ∉ Nat.toDigits 10 k := fun hmem =>
    absurd (Chars.isDigit_of_mem_toDigits hmem) (by decide)
  obtain ⟨hdigits, hrest⟩ := Chars.append_cons_inj (hbracket m) (hbracket n) h
  exact ⟨by rw [← Chars.digitsValue_toDigits m, hdigits, Chars.digitsValue_toDigits], hrest⟩

/-- Trails with the same names are equal if their steps are written the same. -/
theorem textOf_inj {a b : List Step} (hnames : namesOf a = namesOf b) (h : textOf a = textOf b) :
    a = b := by
  induction a generalizing b with
  | nil => exact (textOf_eq_empty_iff.1 h.symm).symm
  | cons step a ih =>
    cases b with
    | nil => exact textOf_eq_empty_iff.1 h
    | cons step' b =>
      rw [← String.toList_inj, toList_textOf_cons, toList_textOf_cons] at h
      match step, step' with
      | .field name, .field name' =>
        obtain ⟨rfl, hrest⟩ := List.cons.inj hnames
        rw [ih hrest (String.toList_inj.1 (List.append_cancel_left h))]
      | .item m, .item n =>
        simp only [toList_text_item, List.cons_append, List.append_assoc, List.nil_append,
          List.cons.injEq, true_and] at h
        obtain ⟨rfl, hrest⟩ := item_inj h
        have hnames : namesOf a = namesOf b := hnames
        rw [ih hnames (String.toList_inj.1 hrest)]
      | .field name, .item n =>
        simp [toList_text_field, toList_text_item] at h
      | .item m, .field name' =>
        simp [toList_text_field, toList_text_item] at h

/-- No trail without names is written as the root is. -/
theorem textOf_ne_root {trail : List Step} (h : namesOf trail = []) : textOf trail ≠ "/" := by
  intro he
  match trail with
  | [] => exact absurd he (by decide)
  | .item number :: rest =>
    rw [← String.toList_inj, toList_textOf_cons, toList_text_item] at he
    simp at he
  | .field name :: rest => cases h

/-- Trails with the same names lead to the same place only if they are equal. -/
theorem placeOf_inj {a b : List Step} (hnames : namesOf a = namesOf b)
    (h : placeOf a = placeOf b) : a = b := by
  refine textOf_inj hnames ?_
  rw [placeOf, placeOf] at h
  split at h <;> rename_i ha <;> split at h <;> rename_i hb
  · rw [ha, hb]
  · rw [textOf_eq_empty_iff.1 ha] at hnames
    exact absurd h.symm (textOf_ne_root hnames.symm)
  · rw [textOf_eq_empty_iff.1 hb] at hnames
    exact absurd h (textOf_ne_root hnames)
  · exact h

/-! ## The rows of a document -/

theorem nodup_places (path : List String) (v : Json) :
    ((trails path v).map fun t => placeOf t.1).Nodup := by
  have hnames : ∀ t ∈ trails path v, namesOf t.1 = path := fun t ht =>
    ((mem_trails_iff path v).1 ht).1
  have hpairwise := List.pairwise_map.1 (pairwise_trails path v)
  refine List.pairwise_map.2 (hpairwise.imp_of_mem fun ha hb hbefore he => ?_)
  exact hbefore.ne (placeOf_inj ((hnames _ ha).trans (hnames _ hb).symm) he)

/-- **The rows of a document lie along its trails.** There is one row for each trail that has the
names of the entry key and leads to something other than an array, through all items of the arrays on
the way and in the order of the document. A row has the place and a cell for each property, no place
occurs twice, and whatever trail with the names of the entry key is written as the place of a row
leads to the record that its cells were read from. -/
theorem rows_along_trails {document entryKey properties : String} {rows : List Row}
    (h : read? document entryKey properties = some rows) :
    ∃ root, Json.readValue? document = some root ∧
      rows = (trails (pathNames entryKey) root).map (fun t =>
        row (propertyNames properties) (placeOf t.1) t.2) ∧
      (∀ trail record, (trail, record) ∈ trails (pathNames entryKey) root ↔
        namesOf trail = pathNames entryKey ∧ follow? trail root = some record ∧
          isArray record = false) ∧
      ((trails (pathNames entryKey) root).map Prod.fst).Pairwise Before ∧
      (∀ r ∈ rows, r.length = 1 + (propertyNames properties).length) ∧
      (rows.map List.head?).Nodup ∧
      ∀ t ∈ trails (pathNames entryKey) root, ∀ trail, namesOf trail = pathNames entryKey →
        placeOf trail = placeOf t.1 → follow? trail root = some t.2 := by
  obtain ⟨root, hroot, hrows⟩ := Option.map_eq_some_iff.1 h
  have hfound : rows = (trails (pathNames entryKey) root).map (fun t =>
      row (propertyNames properties) (placeOf t.1) t.2) := by
    have hrecords := records_eq [] (pathNames entryKey) root
    rw [show textOf [] = "" from rfl] at hrecords
    rw [← hrows, hrecords, List.map_map]
    rfl
  refine ⟨root, hroot, hfound, fun trail record => mem_trails_iff _ _, pairwise_trails _ _,
    fun r hr => ?_, ?_, fun t ht trail hnames hplace => ?_⟩
  · rw [hfound] at hr
    obtain ⟨t, -, rfl⟩ := List.mem_map.1 hr
    rw [row, List.length_cons, List.length_map, Nat.add_comm]
  · have hheads : rows.map List.head? =
        ((trails (pathNames entryKey) root).map fun t => placeOf t.1).map some := by
      rw [hfound, List.map_map, List.map_map]
      rfl
    rw [hheads]
    exact List.Nodup.map (fun _ _ => Option.some.inj) (nodup_places _ _)
  · obtain ⟨hnames', hfollow, -⟩ := (mem_trails_iff _ _).1 ht
    rwa [placeOf_inj (hnames.trans hnames'.symm) hplace]

end JsonRows

/-! ## Names that look like numbers of items -/

namespace BracketedNames

open JsonRows

/-- Two records under a name that ends with brackets, the first in an array in an array. -/
def root : Json :=
  .object [("a[0]", .array [
    .array [.object [("x", .object [("y", .integer 1)])], .integer 2],
    .object [("x", .array [.object [("y", .text "u")]])]])]

theorem plain_root : Json.Plain (· < word64) Json.depthLimit root := by
  simp [root, Json.Plain, Json.PlainItems, Json.PlainFields, Json.depthLimit]
  exact ⟨⟨1, rfl, by decide⟩, 2, rfl, by decide⟩

theorem readValue?_print : Json.readValue? root.print = some root := by
  have hcanonical : root.canonical = root := rfl
  rw [Json.readValue?, Json.read?_print plain_root, Option.filter_some_pos (by decide),
    Option.map_some, hcanonical]

theorem read?_print :
    JsonRows.read? root.print "/a[0]/x" "y" =
      some [["/a[0][0][0]/x", "1"], ["/a[0][1]/x[0]", "u"]] := by
  rw [JsonRows.read?, readValue?_print]
  decide +kernel

theorem trails_root :
    trails (pathNames "/a[0]/x") root =
      [([.field "a[0]", .item 0, .item 0, .field "x"], .object [("y", .integer 1)]),
        ([.field "a[0]", .item 1, .field "x", .item 0], .object [("y", .text "u")])] := by
  have hnames : pathNames "/a[0]/x" = ["a[0]", "x"] := rfl
  rw [hnames]
  rfl

/-- The place of the second row leads to its record. -/
theorem second_place_followed :
    JsonRows.read? root.print "/a[0]/x" "y" =
        some [["/a[0][0][0]/x", "1"], ["/a[0][1]/x[0]", "u"]] ∧
      follow? [.field "a[0]", .item 1, .field "x", .item 0] root =
        some (.object [("y", .text "u")]) := by
  obtain ⟨found, hfound, -, -, -, -, -, hplaces⟩ := rows_along_trails read?_print
  obtain rfl : root = found := Option.some.inj (readValue?_print.symm.trans hfound)
  have hnames : namesOf [.field "a[0]", .item 1, .field "x", .item 0] = pathNames "/a[0]/x" := rfl
  rw [trails_root] at hplaces
  exact ⟨read?_print, hplaces (_, _) (List.mem_cons_of_mem _ List.mem_cons_self) _ hnames rfl⟩

end BracketedNames

end HardwareWatch
