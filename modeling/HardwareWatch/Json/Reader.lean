import HardwareWatch.Json.Token

/-!
# Reading JSON documents

The tokens are read one by one onto a stack of the arrays and objects that are open. A document is
one value with nothing after it. Arrays and objects may be nested 127 deep; what is nested deeper
is well formed but has no value.

* `Json.read?` reads a document.
-/

namespace HardwareWatch.Json

/-- How deep arrays and objects may be nested. -/
def depthLimit : Nat := 127

/-- An array or object that is open, with what it holds in reverse. -/
inductive Frame
  | items (read : List Json)
  /-- The name that waits for its value is missing when it has no value itself. -/
  | fields (read : List (String × Json)) (name : Option String) (named : Bool)

/-- What may come next. -/
inductive Place
  /-- A value. -/
  | value
  /-- A value, or the end of the array just opened. -/
  | firstItem
  /-- The name of a field, or the end of the object just opened. -/
  | firstName
  /-- The name of a field. -/
  | name
  /-- The colon after a name. -/
  | colon
  /-- A comma or the end of what is open. -/
  | next
  /-- Nothing: the value is read. -/
  | done (v : Json)

/-- The open arrays and objects, innermost first, and what may come next. -/
structure Cursor where
  stack : List Frame
  place : Place

namespace Cursor

/-- Hand a value to what is open. -/
def deliver (v : Json) : List Frame → Cursor
  | [] => ⟨[], .done v⟩
  | .items read :: stack => ⟨.items (v :: read) :: stack, .next⟩
  | .fields read (some name) named :: stack => ⟨.fields ((name, v) :: read) none named :: stack, .next⟩
  | .fields read none _ :: stack => ⟨.fields read none false :: stack, .next⟩

/-- Close what is open innermost and hand it on. -/
def close (v : Json) (outer : List Frame) : Cursor :=
  deliver (if (outer.drop (depthLimit - 1)).isEmpty then v else .unreadable) outer

/-- Read the first token of a value. -/
def openValue? (stack : List Frame) : Token → Option Cursor
  | .openArray => some ⟨.items [] :: stack, .firstItem⟩
  | .openObject => some ⟨.fields [] none true :: stack, .firstName⟩
  | .scalar v => some (deliver v stack)
  | .quoted (some s) => some (deliver (.text s) stack)
  | .quoted none => some (deliver .unreadable stack)
  | _ => none

/-- Read the end of what is open. -/
def close? : List Frame → Token → Option Cursor
  | .items read :: outer, .closeArray => some (close (.array read.reverse) outer)
  | .fields read _ named :: outer, .closeObject =>
    some (close (if named then .object read.reverse else .unreadable) outer)
  | _, _ => none

/-- Read the name of a field. -/
def name? : List Frame → Token → Option Cursor
  | .fields read _ named :: outer, .quoted s => some ⟨.fields read s named :: outer, .colon⟩
  | _, _ => none

/-- Read one token. -/
def step? (cur : Cursor) (t : Token) : Option Cursor :=
  match cur.place with
  | .value => openValue? cur.stack t
  | .firstItem => (close? cur.stack t).orElse fun _ => openValue? cur.stack t
  | .firstName => (close? cur.stack t).orElse fun _ => name? cur.stack t
  | .name => name? cur.stack t
  | .colon => match t with
    | .colon => some ⟨cur.stack, .value⟩
    | _ => none
  | .next => match t, cur.stack with
    | .comma, .items _ :: _ => some ⟨cur.stack, .value⟩
    | .comma, .fields .. :: _ => some ⟨cur.stack, .name⟩
    | t, stack => close? stack t
  | .done _ => none

/-- Read tokens one after the other. -/
def run? (cur : Cursor) : List Token → Option Cursor
  | [] => some cur
  | t :: rest => (step? cur t).bind fun after => run? after rest

end Cursor

/-- The value of a token list. -/
def ofTokens? (tokens : List Token) : Option Json :=
  match Cursor.run? ⟨[], .value⟩ tokens with
  | some ⟨_, .done v⟩ => some v
  | _ => none

/-- The value of a document. Parts of it may be unreadable. -/
def read? (document : String) : Option Json := (Token.scan? document.toList).bind ofTokens?

/-- The value of a document all of which is looked at: no part is unreadable, and of repeated names
the last one counts. -/
def readValue? (document : String) : Option Json :=
  ((read? document).filter isReadable).map canonical

end HardwareWatch.Json
