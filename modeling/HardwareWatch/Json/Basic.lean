import HardwareWatch.NameMap

/-!
# JSON values

A value keeps the fields of an object as they were written, repeated names included, since some
readers refuse repeats and others take the last one. A part of a document that is well formed but
has no value, such as a number beyond all doubles, is `unreadable`: whoever looks at it fails, and
whoever passes over it does not.

* `Json.canonical` is the value with the fields of every object in ascending order and the last of
  repeated names alone.
* `Json.isReadable` says that no part is unreadable.
-/

namespace HardwareWatch

/-- A JSON value. -/
inductive Json
  | null
  | bool (b : Bool)
  /-- A number written without point and exponent, in the range of 64-bit words. -/
  | integer (n : Int)
  /-- Any other number. -/
  | double (x : Float)
  | text (s : String)
  | array (items : List Json)
  | object (fields : List (String × Json))
  /-- A well-formed part without a value. -/
  | unreadable

namespace Json

instance : Inhabited Json := ⟨null⟩

mutual

/-- Whether every part has a value. -/
def isReadable : Json → Bool
  | .array items => areReadable items
  | .object fields => areFieldsReadable fields
  | .unreadable => false
  | _ => true

/-- Whether every item has a value. -/
def areReadable : List Json → Bool
  | [] => true
  | v :: rest => v.isReadable && areReadable rest

/-- Whether every field has a value. -/
def areFieldsReadable : List (String × Json) → Bool
  | [] => true
  | (_, v) :: rest => v.isReadable && areFieldsReadable rest

end

/-- The fields in ascending order of names, the last of those with one name. -/
def sortFields (fields : List (String × Json)) : List (String × Json) :=
  (NameMap.ofList fields).toList

mutual

/-- The value with ordered fields and without repeated names. -/
def canonical : Json → Json
  | .array items => .array (canonicalItems items)
  | .object fields => .object (sortFields (canonicalFields fields))
  | v => v

/-- The items with ordered fields. -/
def canonicalItems : List Json → List Json
  | [] => []
  | v :: rest => v.canonical :: canonicalItems rest

/-- The fields with ordered fields inside. -/
def canonicalFields : List (String × Json) → List (String × Json)
  | [] => []
  | (name, v) :: rest => (name, v.canonical) :: canonicalFields rest

end

mutual

/-- The value with every text replaced by its image. Names of fields are kept. -/
def mapTexts (f : String → String) : Json → Json
  | .text s => .text (f s)
  | .array items => .array (mapItemTexts f items)
  | .object fields => .object (mapFieldTexts f fields)
  | v => v

/-- The items with every text replaced by its image. -/
def mapItemTexts (f : String → String) : List Json → List Json
  | [] => []
  | v :: rest => v.mapTexts f :: mapItemTexts f rest

/-- The fields with every text replaced by its image. -/
def mapFieldTexts (f : String → String) : List (String × Json) → List (String × Json)
  | [] => []
  | (name, v) :: rest => (name, v.mapTexts f) :: mapFieldTexts f rest

end

/-- The value of the first field with a name. -/
def field? (name : String) : List (String × Json) → Option Json := NameMap.lookup name

end Json

end HardwareWatch
