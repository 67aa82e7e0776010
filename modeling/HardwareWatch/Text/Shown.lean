import HardwareWatch.Text.Property

/-!
# Characters by the latest version

The sets that patterns ask for go by version 16.0 of the Unicode standard. Names in patterns, and how
a text is shown, go by version 17.0, which added characters and changed none of these properties.

* `Chars.isAlphabetic` and `Chars.isNumeric` ask for one character.
* `Chars.shown` writes a text between quotes. Quotes and backslashes, characters that cannot be seen
  and marks that would join the character before them are written as escapes.
-/

namespace HardwareWatch

namespace CharSet

/-- The characters that version 17.0 of the standard added. -/
def addedLater : CharSet := .ofDistances
  ["88f 1 3cc 1 7f 1 df2 f 2 c 5d5 1 ad4 1 7c37 2 2 1 1 1 1c 1 53d1 10 1bd 2 36 7 b71 1a 56b 3",
   "8 9 21 2 c64 8 248 2c 4 a 50b6 19 2 19 11e 5 1801 8 509 16 61 73 3f07 3 1bd 17 f 11 17cf 1f",
   "1 16 8 2 fd8 1 9e 4 155 9 17b 4 32 1 3 1 39 1 4 1 1c 1 4 1 10a 1 bb3f 6 1762 c 5502 10ca"]

/-- Those of them that are alphabetic. -/
def alphabeticLater : CharSet := .ofDistances
  ["88f 1 3cc 1 7f 1 9af1 2 2 1 1 1 1c 1 614e 1a 56b 3 32 2 c64 8 248 2c 50c4 19 2 19 11e 5",
   "1801 8 509 16 61 73 58cd 1f 1 16 8 2 d03a 6 1762 c 5502 10ca"]

/-- Those of them that stand for numbers. -/
def numericLater : CharSet := .ofDistances
  ["11de0 a 520a 3"]

/-- Those of them that extend the cluster before them. -/
def graphemeExtendLater : CharSet := .ofDistances
  ["1acf f 2 c f40e 2 c64 1 1 3 1 1 cb7c 1 2 1 7 2 5 1"]

/-- The characters that can be seen, apart from the blank of ASCII. -/
def visible : CharSet :=
  addedLater.union (ofCategories fun k => k.major != 'C' && k.major != 'Z')

end CharSet

namespace Chars

/-- Whether the character is a letter, a letter number or a sign that counts as one. -/
def isAlphabetic (c : Char) : Bool :=
  CharSet.alphabetic.has c || CharSet.alphabeticLater.has c

/-- Whether the character stands for a number. -/
def isNumeric (c : Char) : Bool := CharSet.numeric.has c || CharSet.numericLater.has c

/-- Whether the character extends the cluster before it. -/
def isGraphemeExtend (c : Char) : Bool :=
  CharSet.graphemeExtend.has c || CharSet.graphemeExtendLater.has c

/-- Whether the character is shown as it is. -/
def isShown (c : Char) : Bool := c == ' ' || (CharSet.visible.has c && !isGraphemeExtend c)

/-- A character by its number in hexadecimal digits. -/
def numberEscape (c : Char) : Chars :=
  "\\u\x7b".toList ++ Nat.toDigits 16 c.toNat ++ ['\x7d']

/-- A character of a text between quotes. -/
def shownChar (c : Char) : Chars :=
  if c = '\x00' then ['\\', '0']
  else if c = '\t' then ['\\', 't']
  else if c = '\r' then ['\\', 'r']
  else if c = '\n' then ['\\', 'n']
  else if c = '\\' || c = '"' then ['\\', c]
  else if isShown c then [c]
  else numberEscape c

/-- The text between quotes. -/
def shown (s : Chars) : Chars := ['"'] ++ s.flatMap shownChar ++ ['"']

end Chars

/-- The text between quotes. -/
def Text.shown (s : String) : String := .ofList (Chars.shown s.toList)

end HardwareWatch
