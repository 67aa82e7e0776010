import HardwareWatch.Json.Number

/-!
# Tokens of JSON documents

A document is cut into tokens from left to right. Between tokens stand spaces, tabs, line feeds and
carriage returns. Letters, digits, signs and points that stand together are one word, which must be
a literal or a numeral. A text in quotes has the eight short escapes and codes of four hexadecimal
digits; two codes may be the halves of one character. A half that stands alone leaves the text
without a value.

* `Token.scan?` is the token list of a document.
-/

namespace HardwareWatch.Json

/-- A token. -/
inductive Token
  | openArray | closeArray | openObject | closeObject | colon | comma
  /-- A literal or a number. -/
  | scalar (v : Json)
  /-- A text in quotes, missing when half of a character stands alone in it. -/
  | quoted (s : Option String)

namespace Token

/-- What has been read of the token that is being read. -/
inductive Progress
  /-- Between two tokens. -/
  | idle
  /-- In a word, with its characters in reverse. -/
  | word (seen : Chars)
  /-- In quotes, with the codes of the characters in reverse. -/
  | quotes (codes : List Nat)
  /-- Behind a backslash in quotes. -/
  | escape (codes : List Nat)
  /-- Behind `\u` in quotes, with the value of the digits so far and the number of those to come. -/
  | code (codes : List Nat) (value left : Nat)

/-- Join the halves of characters. -/
def joinHalves : List Nat → Option Chars
  | [] => some []
  | c :: s =>
    if 0xD800 ≤ c && c < 0xDC00 then
      match s with
      | d :: s =>
        if 0xDC00 ≤ d && d < 0xE000 then
          (joinHalves s).map (Char.ofNat (0x10000 + (c - 0xD800) * 0x400 + (d - 0xDC00)) :: ·)
        else none
      | [] => none
    else if 0xDC00 ≤ c && c < 0xE000 then none
    else (joinHalves s).map (Char.ofNat c :: ·)

/-- Whether the character may stand in a word. -/
def inWord (c : Char) : Bool := c.isAlphanum || c == '-' || c == '+' || c == '.'

/-- Whether the character may stand between tokens. -/
def isGap (c : Char) : Bool := c == ' ' || c == '\t' || c == '\n' || c == '\r'

/-- The token of one character. -/
def mark? : Char → Option Token
  | '[' => some openArray
  | ']' => some closeArray
  | '\x7b' => some openObject
  | '\x7d' => some closeObject
  | ':' => some colon
  | ',' => some comma
  | _ => none

/-- The token of a word. -/
def ofWord? (word : Chars) : Option Token :=
  if word = "null".toList then some (scalar .null)
  else if word = "true".toList then some (scalar (.bool true))
  else if word = "false".toList then some (scalar (.bool false))
  else (Numeral.parse? word).map fun n => scalar n.value

/-- The character of a short escape. -/
def escaped? : Char → Option Char
  | '\x22' => some '\x22'
  | '\\' => some '\\'
  | '/' => some '/'
  | 'b' => some '\x08'
  | 'f' => some '\x0c'
  | 'n' => some '\n'
  | 'r' => some '\r'
  | 't' => some '\t'
  | _ => none

/-- Read a character between two tokens: the token that it completes and what is read next. -/
def start? (c : Char) : Option (Option Token × Progress) :=
  if isGap c then some (none, .idle)
  else if c = '\x22' then some (none, .quotes [])
  else if inWord c then some (none, .word [c])
  else (mark? c).map fun t => (some t, .idle)

/-- Read one character: the tokens that it completes and what is read next. -/
def advance? (p : Progress) (c : Char) : Option (List Token × Progress) :=
  match p with
  | .idle => (start? c).map fun (t, p) => (t.toList, p)
  | .word seen =>
    if inWord c then some ([], .word (c :: seen))
    else do
      let t ← ofWord? seen.reverse
      let (t', p) ← start? c
      some (t :: t'.toList, p)
  | .quotes codes =>
    if c = '\x22' then some ([quoted ((joinHalves codes.reverse).map .ofList)], .idle)
    else if c = '\\' then some ([], .escape codes)
    else if c.toNat < 0x20 then none
    else some ([], .quotes (c.toNat :: codes))
  | .escape codes =>
    if c = 'u' then some ([], .code codes 0 4)
    else (escaped? c).map fun d => ([], .quotes (d.toNat :: codes))
  | .code codes value left =>
    (Chars.hexValue? c).map fun d =>
      if left ≤ 1 then ([], .quotes ((16 * value + d) :: codes))
      else ([], .code codes (16 * value + d) (left - 1))

/-- The token that ends with the document. -/
def finish? : Progress → Option (List Token)
  | .idle => some []
  | .word seen => (ofWord? seen.reverse).map ([·])
  | _ => none

/-- The tokens of what follows. -/
def scanFrom? (p : Progress) : Chars → Option (List Token)
  | [] => finish? p
  | c :: s => do
    let (tokens, p) ← advance? p c
    let rest ← scanFrom? p s
    some (tokens ++ rest)

/-- The tokens of a document. -/
def scan? (s : Chars) : Option (List Token) := scanFrom? .idle s

end Token

end HardwareWatch.Json
