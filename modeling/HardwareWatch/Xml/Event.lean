import HardwareWatch.Text.Numeral
import HardwareWatch.Xml.Piece

/-!
# Tags and events of XML documents

A tag that opens an element has a name, up to the first blank, and attributes. An attribute is a
name, an equals sign and a value in single or double quotes. A name may not be given twice.

A reader reports a document as a list of events: an element starts, ends or is empty, characters
stand somewhere. It reads the tags and replaces the entities, and it keeps the names of the elements
that are open, since the name in a closing tag must be that of the innermost of them.

* `Xml.Tag.read?` reads a tag.
* `Xml.unescape?` replaces the entities in a text: five by name, all characters by number.
* `Xml.events?` is the list of the events of a document, unless the reader meets an error.
-/

namespace HardwareWatch.Xml

/-! ## Tags and entities -/

/-- The character with a number, in decimal or, behind an `x`, in hexadecimal digits. -/
def character? (number : Chars) : Option Char :=
  let code := match number with
    | 'x' :: digits => if digits.head? = some '+' then none else Chars.hexadecimal? word32 digits
    | digits => Chars.digits? digits
  (code.filter fun n => n ≠ 0 ∧ n.isValidChar).map Char.ofNat

/-- The character that an entity stands for. -/
def entity? : Chars → Option Char
  | '#' :: number => character? number
  | name =>
    if name = "lt".toList then some '<'
    else if name = "gt".toList then some '>'
    else if name = "amp".toList then some '&'
    else if name = "apos".toList then some '\''
    else if name = "quot".toList then some '\x22'
    else none

/-- The text less its first `skip` characters with its entities replaced. -/
def unescapeFrom? : (skip : Nat) → Chars → Option Chars
  | _, [] => some []
  | skip + 1, _ :: s => unescapeFrom? skip s
  | 0, c :: s =>
    if c != '&' then (unescapeFrom? 0 s).map (c :: ·)
    else
      let name := s.takeWhile fun c => c != '&' && c != ';'
      if (s.drop name.length).head? = some ';' then do
        let d ← entity? name
        let rest ← unescapeFrom? (name.length + 1) s
        some (d :: rest)
      else none

/-- The text with its entities replaced. -/
def unescape? (s : Chars) : Option Chars := unescapeFrom? 0 s

/-- A tag that opens an element. -/
structure Tag where
  name : String
  attributes : List (String × String)

namespace Tag

/-- The first attribute of a text without blanks at its start, and its length. The name has at least
one character, which may be any. -/
def attribute? (s : Chars) : Option ((String × String) × Nat) := do
  let name := s.take 1 ++ (s.drop 1).takeWhile fun c => c != '=' && !isBlank c
  let afterName := trimStart (s.drop name.length)
  let afterSign ← Chars.dropPrefix? ['='] afterName
  match trimStart afterSign with
  | q :: quoted =>
    if q = '\'' || q = '\x22' then do
      let (value, rest) ← Chars.breakOn? [q] quoted
      let value ← unescape? value
      some ((.ofList name, .ofList value), s.length - rest.length)
    else none
  | [] => none

/-- The attributes of a text less its first `skip` characters. -/
def attributesFrom? : (skip : Nat) → Chars → Option (List (String × String))
  | _, [] => some []
  | skip + 1, _ :: s => attributesFrom? skip s
  | 0, c :: s =>
    if isBlank c then attributesFrom? 0 s
    else do
      let (entry, length) ← attribute? (c :: s)
      let rest ← attributesFrom? (length - 1) s
      if rest.any (·.1 = entry.1) then none else some (entry :: rest)

/-- Read what stands between the brackets of a tag. -/
def read? (content : Chars) : Option Tag :=
  let name := content.takeWhile fun c => !isBlank c
  (attributesFrom? 0 (content.drop name.length)).map fun attributes => ⟨.ofList name, attributes⟩

end Tag

/-! ## Events -/

/-- What a reader reports of a document. -/
inductive Event
  /-- An element starts. -/
  | start (tag : Tag)
  /-- An element starts and ends. -/
  | empty (tag : Tag)
  /-- The innermost element ends. -/
  | finish
  /-- Characters whose entities are replaced. -/
  | text (s : Chars)
  /-- Characters as they are. -/
  | verbatim (s : Chars)
  /-- What has no meaning for the elements. -/
  | aside

/-- The name in a closing tag. Blanks behind it do not count, but blanks alone are a name. -/
def closingName (content : Chars) : Chars :=
  match trimEnd content with
  | [] => content
  | name => name

/-- The event of a piece, and the names of the elements that are open after it, the innermost
first. -/
def eventOf? (names : List String) : Piece → Option (Event × List String)
  | .text s => (unescape? s).map fun s => (.text s, names)
  | .verbatim s => some (.verbatim s, names)
  | .aside => some (.aside, names)
  | .opening content =>
    match Chars.dropSuffix? ['/'] content with
    | some content => (Tag.read? content).map fun tag => (.empty tag, names)
    | none => (Tag.read? content).map fun tag => (.start tag, tag.name :: names)
  | .closing content =>
    match names with
    | [] => none
    | name :: names => if closingName content = name.toList then some (.finish, names) else none

/-- The events of pieces inside elements with the names. -/
def eventsFrom? (names : List String) : List Piece → Option (List Event)
  | [] => some []
  | piece :: rest =>
    (eventOf? names piece).bind fun (event, names) =>
      (eventsFrom? names rest).map (event :: ·)

/-- The events of a document. -/
def events? (document : String) : Option (List Event) :=
  (pieces? document.toList).bind (eventsFrom? [])

end HardwareWatch.Xml
