import HardwareWatch.Json.Basic
import HardwareWatch.NameMap
import HardwareWatch.Text.Numeral

/-!
# Shapes of JSON values

Readers for the shapes that definitions have in a document. A reader gives nothing where the value
has another shape: no text is taken for a number, and `null` only stands for what may be missing.

* A record is an object, or an array of the leading fields in their order. `Json.record?` reads it
  with a `FieldReader`, which asks for the fields one by one. Other fields of an object are passed
  over, even when they are unreadable, and no field may be repeated.
* A tagged record also names its kind (`Json.tagged?`). It is held back until the kind is known, so
  that all of it has to be readable.
* `Json.word?` reads one of a list of words. What it takes for one also depends on how the part is
  come by (`Json.Standing`).
-/

namespace HardwareWatch.Json

variable {α : Type}

/-! ## Plain values -/

/-- A text. -/
def text? : Json → Option String
  | .text s => some s
  | _ => none

/-- A truth value. -/
def bool? : Json → Option Bool
  | .bool b => some b
  | _ => none

/-- A whole number from zero up to, but not including, `bound`. -/
def nat? (bound : Nat) : Json → Option Nat
  | .integer (.ofNat n) => if n < bound then some n else none
  | _ => none

/-- An array of values of one shape. -/
def list? (read : Json → Option α) : Json → Option (List α)
  | .array items => items.mapM read
  | _ => none

/-- An object with values of one shape. Of repeated names the last one counts. -/
def map? (read : Json → Option α) : Json → Option (NameMap α)
  | .object fields =>
    (fields.mapM fun f => (read f.2).map fun a => (f.1, a)).map NameMap.ofList
  | _ => none

/-- An array of names as a set. -/
def names? (v : Json) : Option NameSet := (list? text? v).map NameSet.ofNames

/-- A value that may be missing: `null` says that it is. -/
def nullable? (read : Json → Option α) : Json → Option (Option α)
  | .null => some none
  | v => (read v).map some

/-- One of the words, possibly as the only name of an object with the value `null`. In a part that
is held back the value may also be the empty object. -/
def word? (words : List (String × α)) (held : Bool) : Json → Option α
  | .text s => words.lookup s
  | .object [(s, .null)] => words.lookup s
  | .object [(s, .object [])] => if held then words.lookup s else none
  | _ => none

/-- How a part of a document is come by when it is read. -/
inductive Standing
  /-- It stands in a text. -/
  | inText
  /-- It is a value by itself. -/
  | atHand
  /-- It belongs to a part that was held back. -/
  | heldBack
  /-- It belongs to a part that was held back within a part that was held back. -/
  | heldTwice
  deriving DecidableEq, Repr

/-- Whether the part belongs to one that was held back. -/
def Standing.isHeld : Standing → Bool
  | heldBack | heldTwice => true
  | inText | atHand => false

/-! ## Records -/

/-- The fields of a record that were not asked for yet. -/
inductive Record
  | named (fields : List (String × Json))
  | listed (items : List Json)

/-- Asks for the fields of a record in their order. -/
abbrev FieldReader := StateT Record Option

namespace FieldReader

/-- The value of a field: nothing when it is missing. A repeated field is refused. -/
def value? (name : String) : FieldReader (Option Json)
  | .named fields =>
    match fields.filter (·.1 = name) with
    | [] => some (none, .named fields)
    | [(_, v)] => some (some v, .named fields)
    | _ => none
  | .listed [] => some (none, .listed [])
  | .listed (v :: rest) => some (some v, .listed rest)

/-- A field that must be there. -/
def required (name : String) (read : Json → Option α) : FieldReader α := do
  match ← value? name with
  | some v => read v
  | none => failure

/-- A field with a value of its own when it is missing. -/
def withDefault (name : String) (default : α) (read : Json → Option α) : FieldReader α := do
  match ← value? name with
  | some v => read v
  | none => pure default

/-- A field whose value may be missing. It may be left out of an object, not of an array. -/
def optional (name : String) (read : Json → Option α) : FieldReader (Option α) := fun record =>
  match record with
  | .named _ => withDefault name none (nullable? read) record
  | .listed _ => required name (nullable? read) record

end FieldReader

/-- Read a record whose fields are known. No item of an array may be left. -/
def Record.read? (reader : FieldReader α) (record : Record) : Option α :=
  match reader record with
  | some (a, .named _) => some a
  | some (a, .listed []) => some a
  | _ => none

/-- Read a record. -/
def record? (reader : FieldReader α) : Json → Option α
  | .object fields => Record.read? reader (.named fields)
  | .array items => Record.read? reader (.listed items)
  | _ => none

/-- Read a record that must be an object, with the fields themselves at hand. -/
def object? (read : List (String × Json) → Option α) : Json → Option α
  | .object fields => read fields
  | _ => none

/-- The fields without those that have a name of their own elsewhere. All of them have to be
readable. -/
def heldBack? (known : List String) (fields : List (String × Json)) :
    Option (List (String × Json)) :=
  let rest := fields.filter fun f => !known.contains f.1
  if areFieldsReadable rest then some rest else none

/-! ## Tagged records -/

/-- The name of the field with the kind. -/
def tagName : String := "type"

/-- The kind that is named. In a part that is held back it may be given by its position among the
kinds. -/
def kind? (kinds : List String) (held : Bool) : Json → Option String
  | .text s => some s
  | .integer (.ofNat n) => if held then kinds[n]? else none
  | _ => none

/-- The kind and the other fields of readable fields. -/
def taggedFields? (kinds : List String) (held : Bool) (fields : List (String × Json)) :
    Option (String × Record) :=
  match fields.filter (·.1 = tagName) with
  | [(_, tag)] =>
    (kind? kinds held tag).map fun kind => (kind, .named (fields.filter (·.1 ≠ tagName)))
  | _ => none

/-- The kind and the other fields of a tagged record. -/
def tagged? (kinds : List String) (held : Bool) (v : Json) : Option (String × Record) :=
  if !v.isReadable then none
  else match v with
    | .object fields => taggedFields? kinds held fields
    | .array (tag :: items) => (kind? kinds held tag).map fun kind => (kind, .listed items)
    | _ => none

/-! ## Writing -/

/-- A value that may be missing. -/
def ofOption (write : α → Json) : Option α → Json
  | none => .null
  | some a => write a

/-- A text that may be missing. -/
def ofText? : Option String → Json := ofOption .text

/-- A natural number. -/
def ofNat (n : Nat) : Json := .integer n

/-- A natural number that may be missing. -/
def ofNat? : Option Nat → Json := ofOption ofNat

/-- A list of texts. -/
def ofTexts (texts : List String) : Json := .array (texts.map .text)

/-- A map in ascending order of names. -/
def ofMap (write : α → Json) (m : NameMap α) : Json :=
  .object (m.toList.map fun (name, a) => (name, write a))

end HardwareWatch.Json
