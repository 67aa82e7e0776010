import HardwareWatch.Text.Pieces

/-!
# Pieces of XML documents

A document is cut into pieces from left to right: runs of characters, tags, and what has no meaning
for its elements (comments, instructions, the document type). Blank means one of the four XML
blanks here. A run of characters is trimmed at both ends; a character data section is not.

* `Xml.pieces?` is the list of the pieces of a document.
* `Xml.tagOf?` finds the end of a tag, which does not count inside quotes.
-/

namespace HardwareWatch.Xml

/-- A piece of a document. -/
inductive Piece
  /-- Characters with entities. -/
  | text (s : Chars)
  /-- Characters as they are. -/
  | verbatim (s : Chars)
  /-- What stands between the brackets of a tag that opens an element. -/
  | opening (content : Chars)
  /-- What stands between the slash and the bracket of a tag that closes an element. -/
  | closing (content : Chars)
  /-- A piece without meaning for the elements. -/
  | aside

/-- Whether the character is one of the XML blanks. -/
def isBlank (c : Char) : Bool := c == ' ' || c == '\t' || c == '\n' || c == '\r'

/-- The text without blanks at its start. -/
def trimStart (s : Chars) : Chars := s.dropWhile isBlank

/-- The text without blanks at its end. -/
def trimEnd (s : Chars) : Chars := (s.reverse.dropWhile isBlank).reverse

/-- What stands before the first closing bracket outside quotes, where `quote` is the quote that is
open. -/
def tagOf? (quote : Option Char) : Chars → Option Chars
  | [] => none
  | c :: s =>
    match quote with
    | some q => (tagOf? (if c = q then none else quote) s).map (c :: ·)
    | none =>
      if c = '>' then some []
      else (tagOf? (if c = '\'' || c = '\x22' then some c else none) s).map (c :: ·)

/-- What stands before the closing bracket that has no opening one. -/
def declarationOf? (depth : Nat) : Chars → Option Chars
  | [] => none
  | '<' :: s => (declarationOf? (depth + 1) s).map ('<' :: ·)
  | '>' :: s => if depth = 0 then some [] else (declarationOf? (depth - 1) s).map ('>' :: ·)
  | c :: s => (declarationOf? depth s).map (c :: ·)

/-- The word that starts a document type. -/
def doctype : Chars := "doctype".toList

/-- The piece behind an opening bracket and an exclamation mark, and its length. -/
def bang? : Chars → Option (Piece × Nat)
  | '-' :: s => do
    let s ← Chars.dropPrefix? ['-'] s
    let (content, _) ← Chars.breakOn? "-->".toList s
    some (.aside, content.length + 5)
  | '[' :: s => do
    let s ← Chars.dropPrefix? "CDATA[".toList s
    let (content, _) ← Chars.breakOn? "]]>".toList s
    some (.verbatim content, content.length + 10)
  | s => do
    let content ← declarationOf? 0 s
    if (content.take doctype.length).map Char.toLower = doctype ∧
        trimStart (content.drop doctype.length) ≠ [] then
      some (.aside, content.length + 1)
    else none

/-- The piece behind an opening bracket, and its length. -/
def markup? : Chars → Option (Piece × Nat)
  | '!' :: s => (bang? s).map fun (piece, length) => (piece, length + 1)
  | '?' :: s =>
    if s.head? = some '>' then none
    else (Chars.breakOn? "?>".toList s).map fun (content, _) => (.aside, content.length + 3)
  | '/' :: s => (tagOf? none s).map fun content => (.closing content, content.length + 2)
  | s => (tagOf? none s).map fun content => (.opening content, content.length + 1)

/-- The first piece of a text that is not empty, and its length. -/
def piece? (s : Chars) : Option (Piece × Nat) :=
  match s with
  | '<' :: rest => if rest = [] then none else (markup? rest).map fun (p, n) => (p, n + 1)
  | s =>
    let run := s.takeWhile (· != '<')
    some (.text (trimEnd (trimStart run)), run.length)

/-- The pieces of a text less its first `skip` characters. -/
def piecesFrom? : (skip : Nat) → Chars → Option (List Piece)
  | _, [] => some []
  | skip + 1, _ :: s => piecesFrom? skip s
  | 0, c :: s => do
    let (piece, length) ← piece? (c :: s)
    let rest ← piecesFrom? (length - 1) s
    some (piece :: rest)

/-- The mark that may stand in front of a document. -/
def byteOrderMark : Char := '\ufeff'

/-- The pieces of a document. -/
def pieces? (document : Chars) : Option (List Piece) :=
  piecesFrom? 0 ((Chars.dropPrefix? [byteOrderMark] document).getD document)

end HardwareWatch.Xml
