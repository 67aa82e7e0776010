import HardwareWatch.Operator.Flatten
import HardwareWatch.Proofs.Table.Naming
import HardwareWatch.Proofs.Xml.Traversal
import Mathlib.Data.List.Forall2
import Mathlib.Order.Defs.LinearOrder

/-!
# Rows of the elements of a document

A flattened XML document has a row for every element that the record path leads to. Such an element
has a place, the numbers of the children that one goes through on the way to it, and the rows are in
the ascending order of the places, which is that of the starts in the document.

* `Xml.Node.Leads` says that a path of names leads to an element at a place, `LeadsFirst` that it
  does so through the first element of each name.
* `Xml.Node.placed` are the records with their places; `mem_placed_iff` says which they are and
  `pairwise_placed` that their places ascend.
* `XmlRows.Cell` says what a property has in an element.
* `XmlRows.rows_of_events` is the main statement.
-/

namespace HardwareWatch

namespace Xml.Node

/-! ## Places -/

/-- Going through the children with the numbers of a place, whose names are those of a path, leads to
the element. -/
inductive Leads : Node → List String → List Nat → Node → Prop
  | here {n : Node} : Leads n [] [] n
  | into {n child record : Node} {path : List String} {i : Nat} {place : List Nat}
    (hchild : n.children[i]? = some child) (h : Leads child path place record) :
    Leads n (child.name :: path) (i :: place) record

/-- Going through the first child with each name of a path leads to the element. -/
inductive LeadsFirst : Node → List String → Node → Prop
  | here {n : Node} : LeadsFirst n [] n
  | into {n child record : Node} {path : List String} {before after : List Node}
    (hchildren : n.children = before ++ child :: after)
    (hbefore : ∀ c ∈ before, c.name ≠ child.name) (h : LeadsFirst child path record) :
    LeadsFirst n (child.name :: path) record

/-- An element in the child with a number, with its place in the parent. -/
def behind (i : Nat) (r : List Nat × Node) : List Nat × Node := (i :: r.1, r.2)

/-- The elements that a path leads to, each with its place. -/
def placed (n : Node) : List String → List (List Nat × Node)
  | [] => [([], n)]
  | name :: path =>
    (n.children.zipIdx.filter (·.1.name = name)).flatMap fun c =>
      (c.1.placed path).map (behind c.2)

variable {n record : Node}

theorem leads_cons_iff {name : String} {path : List String} {place : List Nat} :
    Leads n (name :: path) place record ↔
      ∃ i child rest, place = i :: rest ∧ n.children[i]? = some child ∧ child.name = name ∧
        Leads child path rest record := by
  constructor
  · rintro (_ | ⟨hchild, h⟩)
    exact ⟨_, _, _, rfl, hchild, rfl, h⟩
  · rintro ⟨i, child, rest, rfl, hchild, rfl, h⟩
    exact .into hchild h

theorem mem_placed_iff {path : List String} {place : List Nat} :
    (place, record) ∈ n.placed path ↔ Leads n path place record := by
  induction path generalizing n place with
  | nil =>
    rw [placed, List.mem_singleton]
    constructor
    · rintro ⟨⟩
      exact .here
    · rintro ⟨⟩
      rfl
  | cons name path ih =>
    simp only [placed, behind, List.mem_flatMap, List.mem_filter, List.mem_map, leads_cons_iff,
      Prod.exists, Prod.mk.injEq, List.mem_zipIdx_iff_getElem?, decide_eq_true_eq]
    constructor
    · rintro ⟨child, i, ⟨hchild, hname⟩, rest, _, h, rfl, rfl⟩
      exact ⟨i, child, rest, rfl, hchild, hname, ih.1 h⟩
    · rintro ⟨i, child, rest, rfl, hchild, hname, h⟩
      exact ⟨child, i, ⟨hchild, hname⟩, rest, record, ih.2 h, rfl, rfl⟩

theorem map_snd_placed (n : Node) (path : List String) :
    (n.placed path).map Prod.snd = n.recordsAt path := by
  induction path generalizing n with
  | nil => rfl
  | cons name path ih =>
    have hchildren : (n.children.zipIdx.filter (·.1.name = name)).map Prod.fst =
        n.children.filter (·.name = name) := by
      conv_rhs => rw [← List.zipIdx_map_fst 0 n.children, List.filter_map]
      rfl
    rw [placed, recordsAt, ← hchildren, List.map_flatMap, List.flatMap_map]
    refine List.flatMap_congr fun c _ => ?_
    rw [List.map_map, ← ih]
    rfl

/-- The places ascend, as the elements start one after the other in the document. -/
theorem pairwise_placed (n : Node) (path : List String) :
    ((n.placed path).map Prod.fst).Pairwise (· < ·) := by
  induction path generalizing n with
  | nil => exact List.pairwise_singleton _ _
  | cons name path ih =>
    rw [placed, List.map_flatMap, List.pairwise_flatMap]
    constructor
    · intro c _
      rw [List.map_map, List.pairwise_map]
      exact (List.pairwise_map.1 (ih c.1)).imp fun h => List.Lex.cons h
    · have hnumbers : n.children.zipIdx.Pairwise (·.2 < ·.2) := by
        rw [← List.pairwise_map (f := Prod.snd) (R := (· < ·)), List.zipIdx_map_snd]
        exact List.pairwise_lt_range'
      refine (hnumbers.filter _).imp fun {a b} hab p hp q hq => ?_
      rw [List.map_map] at hp hq
      obtain ⟨p, -, rfl⟩ := List.mem_map.1 hp
      obtain ⟨q, -, rfl⟩ := List.mem_map.1 hq
      exact List.Lex.rel hab

/-- The element that is found along a path is the one reached by the first elements. -/
theorem at?_eq_some_iff {path : List String} :
    n.at? path = some record ↔ LeadsFirst n path record := by
  induction path generalizing n with
  | nil =>
    constructor
    · rintro ⟨⟩
      exact .here
    · rintro ⟨⟩
      rfl
  | cons name path ih =>
    rw [at?, Option.bind_eq_some_iff]
    constructor
    · rintro ⟨child, hchild, h⟩
      obtain ⟨hname, before, after, hchildren, hbefore⟩ := List.find?_eq_some_iff_append.1 hchild
      obtain rfl := of_decide_eq_true hname
      exact .into hchildren (fun c hc he => by simpa [he] using hbefore c hc) (ih.1 h)
    · rintro (_ | ⟨hchildren, hbefore, h⟩)
      refine ⟨_, List.find?_eq_some_iff_append.2 ⟨decide_eq_true rfl, _, _, hchildren, ?_⟩, ih.2 h⟩
      intro c hc
      simpa using hbefore c hc

end Xml.Node

namespace XmlRows

open Xml

/-! ## Cells -/

/-- What a property has in an element: behind `>` the attribute of the element that the path before it
leads to, else the characters of that element without the blanks around them, and nothing where there
is no such element or attribute. -/
inductive Cell (record : Node) : String → String → Prop
  | attribute {path name value : String} {n : Node} (hpath : '>' ∉ path.toList)
    (hn : record.LeadsFirst (pathNames path) n) (hvalue : n.attribute? name = some value) :
    Cell record (path ++ ">" ++ name) value
  | noAttribute {path name : String} (hpath : '>' ∉ path.toList)
    (hnone : ∀ n, record.LeadsFirst (pathNames path) n → n.attribute? name = none) :
    Cell record (path ++ ">" ++ name) ""
  | characters {path : String} {n : Node} (hpath : '>' ∉ path.toList)
    (hn : record.LeadsFirst (pathNames path) n) : Cell record path (Text.trim n.text)
  | noElement {path : String} (hpath : '>' ∉ path.toList)
    (hnone : ∀ n, ¬record.LeadsFirst (pathNames path) n) : Cell record path ""

variable {record : Node} {path name : String}

theorem breakOn?_of_notMem (h : '>' ∉ path.toList) : Text.breakOn? ">" path = none := by
  rw [Text.breakOn?, show ">".toList = ['>'] from rfl, Chars.breakOn?_of_notMem h]
  rfl

theorem breakOn?_append (h : '>' ∉ path.toList) (name : String) :
    Text.breakOn? ">" (path ++ ">" ++ name) = some (path, name) := by
  have htext : (path ++ ">" ++ name).toList = path.toList ++ '>' :: name.toList := by simp
  rw [Text.breakOn?, show ">".toList = ['>'] from rfl, htext, Chars.breakOn?_append h]
  simp

theorem cell_attribute (h : '>' ∉ path.toList) (record : Node) (name : String) :
    Cell record (path ++ ">" ++ name) (value record (path ++ ">" ++ name)) := by
  have hread : value record (path ++ ">" ++ name) =
      ((record.at? (pathNames path)).bind (·.attribute? name)).getD "" := by
    rw [value, breakOn?_append h]
  rw [hread]
  cases hvalue : (record.at? (pathNames path)).bind (·.attribute? name) with
  | some value =>
    obtain ⟨n, hn, hvalue⟩ := Option.bind_eq_some_iff.1 hvalue
    exact .attribute h (Node.at?_eq_some_iff.1 hn) hvalue
  | none =>
    exact .noAttribute h fun n hn => Option.bind_eq_none_iff.1 hvalue n (Node.at?_eq_some_iff.2 hn)

theorem cell_characters (h : '>' ∉ path.toList) (record : Node) :
    Cell record path (value record path) := by
  rw [value, breakOn?_of_notMem h]
  cases hn : record.at? (pathNames path) with
  | some n => exact .characters h (Node.at?_eq_some_iff.1 hn)
  | none =>
    refine .noElement h fun n hleads => ?_
    rw [Node.at?_eq_some_iff.2 hleads] at hn
    cases hn

/-- The cell of a property is what the element has for it. -/
theorem cell_value (record : Node) (property : String) :
    Cell record property (value record property) := by
  by_cases h : '>' ∈ property.toList
  · obtain ⟨before, after, hproperty, hbefore⟩ := List.eq_append_cons_of_mem h
    have heq : property = String.ofList before ++ ">" ++ String.ofList after := by
      rw [← String.toList_inj, hproperty]
      simp
    rw [heq]
    exact cell_attribute (by rwa [String.toList_ofList]) record _
  · exact cell_characters h record

/-! ## Rows -/

/-- **The rows of a document are those of its elements.** Of every list of events: they make a
document exactly if every start has an end and every end a start before it, and then it is the node
that they traverse, its children in order and the characters of each element in one text. The rows of
a document are those of the node of its events. Of every node: there is one row for each element that
the record path leads to, in the order in which the elements start, and a row has one cell for each
property, which is what the element has for it. -/
theorem rows_of_events (events : List Event) (recordTag properties : String) :
    ((Node.ofEvents? events).isSome ↔ Balanced events) ∧
      (∀ n, Node.ofEvents? events = some n ↔ n.TraversedBy events) ∧
      (∀ document, read? document properties recordTag =
        ((events? document).bind Node.ofEvents?).map (rowsOf properties recordTag)) ∧
      ∀ n, ∃ placed : List (List Nat × Node),
        (∀ place record, (place, record) ∈ placed ↔
          Node.Leads n (pathNames recordTag) place record) ∧
        (placed.map Prod.fst).Pairwise (· < ·) ∧
        List.Forall₂ (fun r row => List.Forall₂ (Cell r.2) (propertyNames properties) row)
          placed (rowsOf properties recordTag n) := by
  refine ⟨Node.isSome_ofEvents?_iff, fun n => Node.ofEvents?_eq_some_iff, fun document => rfl,
    fun n => ⟨n.placed (pathNames recordTag), fun place record => Node.mem_placed_iff,
      n.pairwise_placed _, ?_⟩⟩
  rw [rowsOf, ← Node.map_snd_placed, List.map_map]
  refine List.forall₂_map_right_iff.2 (List.forall₂_same.2 fun r _ => ?_)
  exact List.forall₂_map_right_iff.2 (List.forall₂_same.2 fun property _ => cell_value r.2 property)

end XmlRows

end HardwareWatch
