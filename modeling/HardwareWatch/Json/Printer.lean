import HardwareWatch.Decimal.Text
import HardwareWatch.Json.Basic
import HardwareWatch.Text.Pieces

/-!
# Writing JSON documents

The compact form: no gaps, fields in the order they have. In texts the quote and the backslash are
escaped, five control characters by their short escapes and the others by their codes.

* `Json.print` is the document of a value.
* `Json.quote` is the document of a text.
-/

namespace HardwareWatch.Json

/-- The digit of a value below sixteen, letters in lower case. -/
def hexDigit (n : Nat) : Char := if n < 10 then Char.ofNat (48 + n) else Char.ofNat (87 + n)

/-- A character in quotes. -/
def quoteChar (c : Char) : Chars :=
  match c with
  | '\x22' => ['\\', '\x22']
  | '\\' => ['\\', '\\']
  | '\x08' => ['\\', 'b']
  | '\x0c' => ['\\', 'f']
  | '\n' => ['\\', 'n']
  | '\r' => ['\\', 'r']
  | '\t' => ['\\', 't']
  | c =>
    if c.toNat < 0x20 then
      ['\\', 'u', '0', '0', hexDigit (c.toNat / 16), hexDigit (c.toNat % 16)]
    else [c]

/-- A text in quotes. -/
def quoteChars (s : Chars) : Chars := '\x22' :: s.flatMap quoteChar ++ ['\x22']

/-- The document of a text. -/
def quote (s : String) : String := .ofList (quoteChars s.toList)

mutual

/-- The characters of the document of a value. -/
def printChars : Json → Chars
  | .null => "null".toList
  | .bool true => "true".toList
  | .bool false => "false".toList
  | .integer n => (toString n).toList
  | .double x => (Decimal.scientific x).toList
  | .text s => quoteChars s.toList
  | .array items => '[' :: Chars.join [','] (printItems items) ++ [']']
  | .object fields => '\x7b' :: Chars.join [','] (printFields fields) ++ ['\x7d']
  | .unreadable => "null".toList

/-- The documents of the items. -/
def printItems : List Json → List Chars
  | [] => []
  | v :: rest => v.printChars :: printItems rest

/-- The fields with their names. -/
def printFields : List (String × Json) → List Chars
  | [] => []
  | (name, v) :: rest => (quoteChars name.toList ++ ':' :: v.printChars) :: printFields rest

end

/-- The compact document of a value. -/
def print (v : Json) : String := .ofList v.printChars

end HardwareWatch.Json
