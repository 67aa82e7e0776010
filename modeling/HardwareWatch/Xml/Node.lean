import HardwareWatch.Xml.Event

/-!
# Elements of XML documents

The events of a document are taken one by one with a stack of the elements that are open. The
document itself is a node without a name around all of it, so that characters and several elements
may stand side by side at the top.

* `Xml.Node.ofEvents?` makes the node of a list of events, `Xml.Node.ofDocument?` that of a document.
* `Xml.Node.at?` and `Xml.Node.recordsAt` follow a path of names.
-/

namespace HardwareWatch.Xml

/-- An element: its own characters in one text, and the elements in it. -/
inductive Node
  | element (name : String) (attributes : List (String × String)) (text : String)
    (children : List Node)

namespace Node

/-- The name of the element. -/
def name : Node → String
  | element name .. => name

/-- The attributes in their order. -/
def attributes : Node → List (String × String)
  | element _ attributes .. => attributes

/-- The characters of the element outside the elements in it. -/
def text : Node → String
  | element _ _ text _ => text

/-- The elements in the element. -/
def children : Node → List Node
  | element _ _ _ children => children

/-- An element that is open, with the elements in it in reverse. -/
structure Frame where
  tag : Tag
  text : String
  children : List Node

namespace Frame

/-- An element that was just opened. -/
def opened (tag : Tag) : Frame := ⟨tag, "", []⟩

/-- The element when it ends here. -/
def node (f : Frame) : Node := element f.tag.name f.tag.attributes f.text f.children.reverse

/-- The frame with more characters. -/
def addText (f : Frame) (s : Chars) : Frame := { f with text := f.text ++ .ofList s }

/-- The frame with one more element. -/
def addChild (f : Frame) (child : Node) : Frame := { f with children := child :: f.children }

end Frame

/-- The elements that are open, the innermost apart from those around it. -/
structure Cursor where
  inner : Frame
  outer : List Frame

namespace Cursor

/-- The document before its first event. -/
def start : Cursor := ⟨.opened ⟨"", []⟩, []⟩

/-- The cursor after an event. An end must have a start. -/
def step? (cur : Cursor) : Event → Option Cursor
  | .start tag => some ⟨.opened tag, cur.inner :: cur.outer⟩
  | .empty tag => some { cur with inner := cur.inner.addChild (Frame.opened tag).node }
  | .finish =>
    match cur.outer with
    | [] => none
    | around :: outer => some ⟨around.addChild cur.inner.node, outer⟩
  | .text s | .verbatim s => some { cur with inner := cur.inner.addText s }
  | .aside => some cur

/-- The cursor after some events. -/
def run? (cur : Cursor) : List Event → Option Cursor
  | [] => some cur
  | event :: rest => (step? cur event).bind fun after => run? after rest

end Cursor

/-- The node of a list of events in which every element ends. -/
def ofEvents? (events : List Event) : Option Node :=
  match Cursor.run? .start events with
  | some ⟨document, []⟩ => some document.node
  | _ => none

/-- The node of a document. -/
def ofDocument? (document : String) : Option Node := (events? document).bind ofEvents?

/-- The first element with a name in the element. -/
def child? (n : Node) (name : String) : Option Node := n.children.find? (·.name = name)

/-- The value of an attribute. -/
def attribute? (n : Node) (name : String) : Option String :=
  (n.attributes.find? (·.1 = name)).map Prod.snd

/-- The element reached by the first elements with the names of a path. -/
def at? (n : Node) : List String → Option Node
  | [] => some n
  | name :: path => (n.child? name).bind fun child => child.at? path

/-- All elements reached by the names of a path, in the order of the document. -/
def recordsAt (n : Node) : List String → List Node
  | [] => [n]
  | name :: path => (n.children.filter (·.name = name)).flatMap fun child => child.recordsAt path

end Node

end HardwareWatch.Xml
