import HardwareWatch.Connector.SourceDocument
import HardwareWatch.Table.Column

/-!
# Sources as templates

The texts of a source may have gaps that are filled when it runs: columns of a row where the source
runs for every row of a table, attributes of a monitor where it runs for one monitor. The source is
read anew from its filled document, which may be refused.

* `Source.forRow?` is the source for a row.
* `Source.withAttributes?` fills the gaps for attributes; `Source.forMonitor?` is the source for a
  monitor with attributes.
* `EntryMerge.merge` brings the tables of the rows together.
-/

namespace HardwareWatch

namespace AttributeGap

/-- The start of a gap for an attribute. -/
def opening : Chars := "$\x7battribute::".toList

/-- The end of a gap. -/
def closing : Char := '\x7d'

/-- The text less its first `skip` characters with its gaps filled. A missing attribute fills a gap
with nothing, and a gap that is not closed ends the search. -/
def fillFrom (attributes : NameMap String) : (skip : Nat) → Chars → Chars
  | _, [] => []
  | skip + 1, _ :: s => fillFrom attributes skip s
  | 0, c :: s =>
    match Chars.dropPrefix? opening (c :: s) with
    | none => c :: fillFrom attributes 0 s
    | some rest =>
      match Chars.breakOn? [closing] rest with
      | none => c :: s
      | some (name, _) =>
        ((attributes.get? (.ofList name)).getD "").toList
          ++ fillFrom attributes (opening.length + name.length) s

/-- The text with its gaps filled by the attributes. -/
def fill (attributes : NameMap String) (text : String) : String :=
  .ofList (fillFrom attributes 0 text.toList)

end AttributeGap

namespace Source

/-- The source with every text of its document replaced, where the document can still be read. -/
def mapTexts? (f : String → String) (s : Source) : Option Source :=
  (ofJson? .atHand (s.toJson.mapTexts f)).map fun t => { t with position := s.position }

/-- The source for one row of the table it runs over: what concerns the whole table is left out. -/
def forRow? (s : Source) (row : Row) : Option Source :=
  { s with computes := [], entries := none }.mapTexts? (Column.substitute row)

/-- Whether there is a gap for an attribute in the document of the source. -/
def hasAttributeGap (s : Source) : Bool :=
  Chars.hasInfix AttributeGap.opening s.toJson.printChars

/-- The source with its gaps filled by the attributes, missing where it has none. -/
def withAttributes? (s : Source) (attributes : NameMap String) : Option (Option Source) :=
  if s.hasAttributeGap then (s.mapTexts? (AttributeGap.fill attributes)).map some else some none

/-- The source for a monitor with the attributes. -/
def forMonitor? (s : Source) (attributes : NameMap String) : Option Source :=
  (s.withAttributes? attributes).map fun filled => filled.getD s

end Source

namespace EntryMerge

/-- The items as an array, an item per line. -/
def arrayTable (items : List String) : Table := .ofRaw ("[" ++ Text.join ",\n" items ++ "]")

/-- The item for a row and its table. -/
def extendedItem (entry : Row × Table) : String :=
  let text := entry.2.text
  "\x7b\"entry\": " ++ Json.quote (Text.join cellSeparator entry.1 ++ cellSeparator)
    ++ ", \"result\": " ++ (if Text.isBlank text then "null" else text) ++ "\x7d"

/-- The table of all rows, given each row with its table. -/
def merge (entries : List (Row × Table)) : EntryMerge → Table
  | list => .union (entries.map Prod.snd)
  | jsonArray => arrayTable ((entries.map fun e => e.2.text).filter fun text => !Text.isBlank text)
  | jsonArrayExtended => arrayTable (entries.map extendedItem)
  | custom start finish => .ofRaw (String.join (entries.map fun e =>
      Column.substitute e.1 start ++ e.2.text ++ Column.substitute e.1 finish))

end EntryMerge

end HardwareWatch
