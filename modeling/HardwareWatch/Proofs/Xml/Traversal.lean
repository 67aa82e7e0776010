import HardwareWatch.Xml.Node
import Mathlib.Algebra.BigOperators.Group.List.Basic
import Mathlib.Algebra.Ring.Int.Defs
import Mathlib.Data.List.Infix

/-!
# Events and the tree that has them

The node of a list of events is the one whose traversal they are: the children in order, each between
its start and its end, and all characters of an element in one text. There is such a node exactly if
the starts and the ends match.

* `Xml.Traversal` says that events traverse a text and the children of an element.
* `Xml.Balanced` says that every start is closed and no end is unopened.
* `Xml.Node.Consumed` relates the stack of a cursor to the events before it. A step keeps it
  (`Consumed.step`), and so does a run (`Consumed.run`).
* `Xml.Node.ofEvents?_eq_some_iff` and `Xml.Node.isSome_ofEvents?_iff` are the results.
-/

namespace HardwareWatch.Xml

/-! ## What events traverse -/

/-- The events traverse an element from behind its start to its end: its characters are the text and
the elements in it are the children. -/
inductive Traversal : List Event → String → List Node → Prop
  | nil : Traversal [] "" []
  | text {s events text children} (h : Traversal events text children) :
    Traversal (.text s :: events) (.ofList s ++ text) children
  | verbatim {s events text children} (h : Traversal events text children) :
    Traversal (.verbatim s :: events) (.ofList s ++ text) children
  | aside {events text children} (h : Traversal events text children) :
    Traversal (.aside :: events) text children
  | empty {tag events text children} (h : Traversal events text children) :
    Traversal (.empty tag :: events) text (.element tag.name tag.attributes "" [] :: children)
  | element {tag inside text' children' events text children}
    (hinside : Traversal inside text' children') (h : Traversal events text children) :
    Traversal (.start tag :: inside ++ .finish :: events) text
      (.element tag.name tag.attributes text' children' :: children)

namespace Traversal

variable {events events' : List Event} {text text' : String} {children children' : List Node}

/-- One part of an element is traversed after the other. -/
theorem append (h : Traversal events text children) (h' : Traversal events' text' children') :
    Traversal (events ++ events') (text ++ text') (children ++ children') := by
  induction h with
  | nil => simpa using h'
  | text _ ih =>
    rw [List.cons_append, String.append_assoc]
    exact ih.text
  | verbatim _ ih =>
    rw [List.cons_append, String.append_assoc]
    exact ih.verbatim
  | aside _ ih => exact ih.aside
  | empty _ ih => exact ih.empty
  | element hinside _ _ ih =>
    rw [List.append_assoc, List.cons_append]
    exact .element hinside ih

end Traversal

/-! ## Starts and ends that match -/

/-- By how many elements an event goes deeper. -/
def Event.rise : Event → Int
  | start _ => 1
  | finish => -1
  | empty _ | text _ | verbatim _ | aside => 0

/-- By how many elements events go deeper. -/
def riseOf (events : List Event) : Int := (events.map Event.rise).sum

@[simp] theorem riseOf_nil : riseOf [] = 0 := rfl

@[simp] theorem riseOf_cons (event : Event) (events : List Event) :
    riseOf (event :: events) = event.rise + riseOf events := List.sum_cons

/-- Every start has an end and every end has a start before it. -/
structure Balanced (events : List Event) : Prop where
  /-- In front of any place there are no more ends than starts. -/
  opened : ∀ before, before <+: events → 0 ≤ riseOf before
  /-- In the end there are as many ends as starts. -/
  closed : riseOf events = 0

namespace Node

namespace Cursor

/-- How deep inside the document the cursor is. -/
def depth (cur : Cursor) : Int := cur.outer.length

theorem depth_nonneg (cur : Cursor) : 0 ≤ cur.depth := Int.natCast_nonneg _

theorem depth_step {cur cur' : Cursor} {event : Event} (h : step? cur event = some cur') :
    cur'.depth = cur.depth + event.rise := by
  obtain ⟨inner, outer⟩ := cur
  cases event with
  | finish =>
    cases outer with
    | nil => cases h
    | cons around outer =>
      obtain rfl := Option.some.inj h
      simp [depth, Event.rise]
  | start tag =>
    obtain rfl := Option.some.inj h
    simp [depth, Event.rise]
  | empty tag | text s | verbatim s | aside =>
    obtain rfl := Option.some.inj h
    simp [depth, Event.rise]

/-- Only an end without a start is refused. -/
theorem step?_eq_none_iff {cur : Cursor} {event : Event} :
    step? cur event = none ↔ cur.depth + event.rise < 0 := by
  obtain ⟨inner, outer⟩ := cur
  cases event with
  | finish =>
    cases outer with
    | nil => simp [step?, depth, Event.rise]
    | cons around outer =>
      simp only [step?, depth, Event.rise, List.length_cons, reduceCtorEq, false_iff]
      omega
  | start tag | empty tag | text s | verbatim s | aside =>
    simp only [step?, depth, Event.rise, reduceCtorEq, false_iff]
    omega

theorem depth_run {cur cur' : Cursor} {events : List Event} (h : run? cur events = some cur') :
    cur'.depth = cur.depth + riseOf events := by
  induction events generalizing cur with
  | nil =>
    obtain rfl := Option.some.inj h
    simp
  | cons event events ih =>
    obtain ⟨after, hstep, hrun⟩ := Option.bind_eq_some_iff.1 h
    rw [ih hrun, depth_step hstep, riseOf_cons, Int.add_assoc]

/-- A run goes on to the end exactly if it never leaves the document. -/
theorem isSome_run?_iff {cur : Cursor} {events : List Event} :
    (run? cur events).isSome ↔ ∀ before, before <+: events → 0 ≤ cur.depth + riseOf before := by
  induction events generalizing cur with
  | nil =>
    refine iff_of_true rfl fun before hbefore => ?_
    rw [List.prefix_nil.1 hbefore, riseOf_nil, Int.add_zero]
    exact depth_nonneg cur
  | cons event events ih =>
    rw [run?]
    cases hstep : step? cur event with
    | none =>
      refine iff_of_false Bool.false_ne_true fun h => ?_
      have hlt := step?_eq_none_iff.1 hstep
      have hle := h [event] (List.prefix_append [event] events)
      rw [riseOf_cons, riseOf_nil, Int.add_zero] at hle
      omega
    | some after =>
      rw [Option.bind_some, ih]
      simp only [depth_step hstep, List.prefix_cons_iff, forall_eq_or_imp, riseOf_nil, Int.add_zero,
        forall_exists_index, and_imp]
      constructor
      · rintro h
        refine ⟨depth_nonneg cur, fun before rest hrest hle => ?_⟩
        rw [hrest, riseOf_cons, ← Int.add_assoc]
        exact h rest hle
      · rintro ⟨-, h⟩ rest hle
        rw [Int.add_assoc, ← riseOf_cons]
        exact h (event :: rest) rest rfl hle

end Cursor

/-! ## The stack and the events before it -/

/-- The events lead from the start of the document to the cursor: every element that is open was
started, and the events behind its start traverse what its frame has gathered. -/
inductive Consumed : List Event → Cursor → Prop
  | document {events text children} (h : Traversal events text children) :
    Consumed events ⟨⟨⟨"", []⟩, text, children.reverse⟩, []⟩
  | inside {events around outer tag events' text children}
    (hout : Consumed events ⟨around, outer⟩) (h : Traversal events' text children) :
    Consumed (events ++ .start tag :: events') ⟨⟨tag, text, children.reverse⟩, around :: outer⟩

namespace Consumed

variable {events : List Event} {cur cur' : Cursor}

theorem start : Consumed [] .start := .document .nil

/-- What is traversed next goes into the innermost element. -/
theorem append {frame : Frame} {outer : List Frame} (h : Consumed events ⟨frame, outer⟩)
    {more : List Event} {text : String} {children : List Node}
    (hmore : Traversal more text children) :
    Consumed (events ++ more)
      ⟨⟨frame.tag, frame.text ++ text, children.reverse ++ frame.children⟩, outer⟩ := by
  cases h with
  | document h =>
    rw [← List.reverse_append]
    exact .document (h.append hmore)
  | inside hout h =>
    rw [← List.reverse_append, List.append_assoc, List.cons_append]
    exact .inside hout (h.append hmore)

theorem step (h : Consumed events cur) {event : Event}
    (hstep : Cursor.step? cur event = some cur') : Consumed (events ++ [event]) cur' := by
  cases event with
  | start tag =>
    obtain rfl := Option.some.inj hstep
    exact .inside h .nil
  | empty tag =>
    obtain rfl := Option.some.inj hstep
    simpa [Frame.addChild, Frame.node, Frame.opened] using h.append (@Traversal.empty tag _ _ _ .nil)
  | text s =>
    obtain rfl := Option.some.inj hstep
    simpa [Frame.addText] using h.append (.text (s := s) .nil)
  | verbatim s =>
    obtain rfl := Option.some.inj hstep
    simpa [Frame.addText] using h.append (.verbatim (s := s) .nil)
  | aside =>
    obtain rfl := Option.some.inj hstep
    simpa using h.append (.aside .nil)
  | finish =>
    cases h with
    | document h => cases hstep
    | inside hout h =>
      obtain rfl := Option.some.inj hstep
      simpa [Frame.addChild, Frame.node] using hout.append (.element h .nil)

theorem run (h : Consumed events cur) {more : List Event}
    (hrun : Cursor.run? cur more = some cur') : Consumed (events ++ more) cur' := by
  induction more generalizing events cur with
  | nil =>
    obtain rfl := Option.some.inj hrun
    rwa [List.append_nil]
  | cons event more ih =>
    obtain ⟨after, hstep, hrest⟩ := Option.bind_eq_some_iff.1 hrun
    rw [List.append_cons]
    exact ih (h.step hstep) hrest

end Consumed

/-! ## The node of events -/

/-- A traversal is taken into the innermost element, whatever comes behind. -/
theorem Cursor.run?_of_traversal {events : List Event} {text : String} {children : List Node}
    (h : Traversal events text children) (cur : Cursor) (rest : List Event) :
    run? cur (events ++ rest) =
      run? ⟨⟨cur.inner.tag, cur.inner.text ++ text, children.reverse ++ cur.inner.children⟩,
        cur.outer⟩ rest := by
  induction h generalizing cur rest with
  | nil => simp
  | text _ ih | verbatim _ ih =>
    rw [List.cons_append, run?, step?, Option.bind_some, ih]
    simp [Frame.addText, String.append_assoc]
  | aside _ ih =>
    rw [List.cons_append, run?, step?, Option.bind_some, ih]
  | empty _ ih =>
    rw [List.cons_append, run?, step?, Option.bind_some, ih]
    simp [Frame.addChild, Frame.node, Frame.opened]
  | element _ _ ihinside ih =>
    rw [List.append_assoc, List.cons_append, List.cons_append, run?, step?, Option.bind_some,
      ihinside, run?, step?, Option.bind_some, ih]
    simp [Frame.addChild, Frame.node, Frame.opened]

/-- The node is that of a document with the events as its traversal. -/
structure TraversedBy (n : Node) (events : List Event) : Prop where
  name : n.name = ""
  attributes : n.attributes = []
  traversal : Traversal events n.text n.children

theorem ofEvents?_eq_some_iff {events : List Event} {n : Node} :
    ofEvents? events = some n ↔ n.TraversedBy events := by
  constructor
  · intro h
    rw [ofEvents?] at h
    split at h
    · rename_i document hrun
      obtain rfl := Option.some.inj h
      cases Consumed.start.run hrun with
      | document h =>
        refine ⟨rfl, rfl, ?_⟩
        change Traversal events _ (List.reverse (List.reverse _))
        rwa [List.reverse_reverse]
    · cases h
  · rintro ⟨hname, hattributes, h⟩
    obtain ⟨name, attributes, text, children⟩ := n
    obtain rfl : name = "" := hname
    obtain rfl : attributes = [] := hattributes
    replace h : Traversal events text children := h
    have hrun : Cursor.run? .start events = some ⟨⟨⟨"", []⟩, text, children.reverse⟩, []⟩ := by
      simpa [Cursor.run?, Cursor.start, Frame.opened] using Cursor.run?_of_traversal h .start []
    rw [ofEvents?, hrun]
    simp [Frame.node]

theorem isSome_ofEvents?_iff {events : List Event} :
    (ofEvents? events).isSome ↔ Balanced events := by
  have hstart : Cursor.start.depth = 0 := rfl
  rw [ofEvents?]
  cases hrun : Cursor.run? .start events with
  | none =>
    refine iff_of_false Bool.false_ne_true fun h => ?_
    have hsome := Cursor.isSome_run?_iff.2 fun before hbefore => by
      rw [hstart, Int.zero_add]
      exact h.opened before hbefore
    rw [hrun] at hsome
    cases hsome
  | some cur =>
    have hopened : ∀ before, before <+: events → 0 ≤ riseOf before := fun before hbefore => by
      have h := Cursor.isSome_run?_iff.1 (Option.isSome_of_eq_some hrun) before hbefore
      rwa [hstart, Int.zero_add] at h
    have hdepth : cur.depth = riseOf events := by
      rw [Cursor.depth_run hrun, hstart, Int.zero_add]
    obtain ⟨inner, outer⟩ := cur
    cases outer with
    | nil => exact iff_of_true rfl ⟨hopened, hdepth.symm⟩
    | cons around outer =>
      refine iff_of_false Bool.false_ne_true fun h => ?_
      rw [h.closed] at hdepth
      simp [Cursor.depth] at hdepth
      omega

end Node

end HardwareWatch.Xml
