import HardwareWatch.Text.AgeTable
import HardwareWatch.Text.PropertyTable
import HardwareWatch.Text.Category

/-!
# Properties of characters

The sets of characters that the Unicode standard derives from the general categories, from scripts
and from listed properties, and the short ones that need no table. `CharSet.addedBy?` is the set of
the characters that a version of the standard has.

* `Chars.isWordChar` asks for one character.
-/

namespace HardwareWatch

namespace CharSet

/-- The set of single code points and ranges, ends included. -/
def ofPairs (pairs : List (Nat × Nat)) : CharSet := unions (pairs.map fun r => ofCodePoints r.1 r.2)

/-! ### Letters and their case -/

/-- The property `Alphabetic`. -/
def alphabetic : CharSet := unions [ofClass 'L', ofCategory 'N' 'l', otherAlphabetic]

/-- The property `Lowercase`. -/
def lowercase : CharSet := (ofCategory 'L' 'l').union otherLowercase

/-- The property `Uppercase`. -/
def uppercase : CharSet := (ofCategory 'L' 'u').union otherUppercase

/-- The titlecase letters. -/
def titlecase : CharSet := ofCategory 'L' 't'

/-- The property `Cased`. -/
def cased : CharSet := unions [lowercase, uppercase, titlecase]

/-- The characters that may stand inside a word before what is a part of it: the values `MidLetter`,
`MidNumLet` and `Single_Quote` of the property `Word_Break`. -/
def wordInner : CharSet :=
  ofPairs [(0x27, 0x27), (0x2e, 0x2e), (0x3a, 0x3a), (0xb7, 0xb7), (0x387, 0x387), (0x55f, 0x55f),
    (0x5f4, 0x5f4), (0x2018, 0x2019), (0x2024, 0x2024), (0x2027, 0x2027), (0xfe13, 0xfe13),
    (0xfe52, 0xfe52), (0xfe55, 0xfe55), (0xff07, 0xff07), (0xff0e, 0xff0e), (0xff1a, 0xff1a)]

/-- The property `Case_Ignorable`. -/
def caseIgnorable : CharSet :=
  (ofCategories fun k =>
    k ∈ [⟨'M', 'n'⟩, ⟨'M', 'e'⟩, ⟨'C', 'f'⟩, ⟨'L', 'm'⟩, ⟨'S', 'k'⟩]).union wordInner

/-- The property `Changes_When_Lowercased`. -/
def changesWhenLowercased : CharSet := (uppercase.union titlecase).diff withoutLowercase

/-- The property `Changes_When_Uppercased`. -/
def changesWhenUppercased : CharSet := (lowercase.union titlecase).diff withoutUppercase

/-- The property `Changes_When_Titlecased`. Four capitals of two letters have a form in titlecase. -/
def changesWhenTitlecased : CharSet :=
  (changesWhenUppercased.diff withoutTitlecase).union (ofPoints [0x1c4, 0x1c7, 0x1ca, 0x1f1])

/-- The property `Changes_When_Casefolded`. The capitals of Cherokee represent the small letters. -/
def changesWhenCasefolded : CharSet :=
  (changesWhenLowercased.diff (ofCodePoints 0x13a0 0x13f5)).union foldedOnly

/-- The property `Changes_When_Casemapped`. -/
def changesWhenCasemapped : CharSet :=
  unions [changesWhenLowercased, changesWhenUppercased, changesWhenTitlecased]

/-! ### Blanks, signs and digits -/

/-- The property `White_Space`. -/
def whiteSpace : CharSet :=
  ofPairs [(0x9, 0xd), (0x20, 0x20), (0x85, 0x85), (0xa0, 0xa0), (0x1680, 0x1680), (0x2000, 0x200a),
    (0x2028, 0x2029), (0x202f, 0x202f), (0x205f, 0x205f), (0x3000, 0x3000)]

/-- The property `ASCII_Hex_Digit`. -/
def asciiHexDigit : CharSet := ofRanges [('0', '9'), ('A', 'F'), ('a', 'f')]

/-- The property `Hex_Digit`. -/
def hexDigit : CharSet :=
  asciiHexDigit.union (ofPairs [(0xff10, 0xff19), (0xff21, 0xff26), (0xff41, 0xff46)])

/-- The property `Dash`. -/
def dash : CharSet := (ofCategory 'P' 'd').union (ofPoints [0x2053, 0x207b, 0x208b, 0x2212])

/-- The property `Math`. -/
def math : CharSet := (ofCategory 'S' 'm').union otherMath

/-- The property `Join_Control`. -/
def joinControl : CharSet := ofCodePoints 0x200c 0x200d

/-- The property `Bidi_Control`. -/
def bidiControl : CharSet :=
  ofPairs [(0x61c, 0x61c), (0x200e, 0x200f), (0x202a, 0x202e), (0x2066, 0x2069)]

/-- The property `Variation_Selector`. -/
def variationSelector : CharSet :=
  ofPairs [(0x180b, 0x180d), (0x180f, 0x180f), (0xfe00, 0xfe0f), (0xe0100, 0xe01ef)]

/-- The property `Default_Ignorable_Code_Point`. -/
def defaultIgnorable : CharSet :=
  (unions [otherDefaultIgnorable, ofCategory 'C' 'f', variationSelector]).diff
    (unions [whiteSpace, prependedConcatenationMark, ofCodePoints 0xfff9 0xfffb,
      ofCodePoints 0x13430 0x13440])

/-- The property `Noncharacter_Code_Point`: a block of 32 and the last two of every plane. -/
def noncharacter : CharSet :=
  unions (ofCodePoints 0xfdd0 0xfdef ::
    (List.range 17).map fun p => ofCodePoints (0x10000 * p + 0xfffe) (0x10000 * p + 0xffff))

/-- The property `Regional_Indicator`. -/
def regionalIndicator : CharSet := ofCodePoints 0x1f1e6 0x1f1ff

/-- The property `Emoji_Modifier`. -/
def emojiModifier : CharSet := ofCodePoints 0x1f3fb 0x1f3ff

/-! ### Ideographs -/

/-- The property `Ideographic`. -/
def ideographic : CharSet := unifiedIdeograph.union otherIdeograph

/-- The property `Radical`. -/
def radical : CharSet := ofPairs [(0x2e80, 0x2e99), (0x2e9b, 0x2ef3), (0x2f00, 0x2fd5)]

/-- The property `IDS_Unary_Operator`. -/
def idsUnaryOperator : CharSet := ofCodePoints 0x2ffe 0x2fff

/-- The property `IDS_Binary_Operator`. -/
def idsBinaryOperator : CharSet := ofPairs [(0x2ff0, 0x2ff1), (0x2ff4, 0x2ffd), (0x31ef, 0x31ef)]

/-- The property `IDS_Trinary_Operator`. -/
def idsTrinaryOperator : CharSet := ofCodePoints 0x2ff2 0x2ff3

/-! ### Clusters and identifiers -/

/-- The property `Grapheme_Extend`. -/
def graphemeExtend : CharSet :=
  unions [ofCategory 'M' 'e', ofCategory 'M' 'n', otherGraphemeExtend]

/-- The property `Grapheme_Base`. -/
def graphemeBase : CharSet :=
  (ofCategories fun k => k.major != 'C' && k != ⟨'Z', 'l'⟩ && k != ⟨'Z', 'p'⟩).diff graphemeExtend

/-- The property `Pattern_White_Space`. -/
def patternWhiteSpace : CharSet :=
  ofPairs [(0x9, 0xd), (0x20, 0x20), (0x85, 0x85), (0x200e, 0x200f), (0x2028, 0x2029)]

/-- The characters that are part of patterns and of no identifier. -/
def ofPatterns : CharSet := patternSyntax.union patternWhiteSpace

/-- The property `ID_Start`. -/
def idStart : CharSet :=
  (unions [ofClass 'L', ofCategory 'N' 'l', otherIdStart]).diff ofPatterns

/-- The property `ID_Continue`. -/
def idContinue : CharSet :=
  (unions [idStart, otherIdContinue,
    ofCategories fun k => k ∈ [⟨'M', 'n'⟩, ⟨'M', 'c'⟩, ⟨'N', 'd'⟩, ⟨'P', 'c'⟩]]).diff ofPatterns

/-- The property `XID_Start`. -/
def xidStart : CharSet := idStart.diff idOnly

/-- The property `XID_Continue`. -/
def xidContinue : CharSet := idContinue.diff idContinueOnly

/-! ### Words and numbers -/

/-- The characters of words: letters with their marks, digits, connectors. -/
def word : CharSet :=
  unions [alphabetic, joinControl,
    ofCategories fun k => k.major == 'M' || k == ⟨'N', 'd'⟩ || k == ⟨'P', 'c'⟩]

/-- The decimal digits of all scripts. -/
def decimalDigit : CharSet := ofCategory 'N' 'd'

/-- The characters that stand for numbers. -/
def numeric : CharSet := ofClass 'N'

/-! ### Ages -/

/-- The characters that the standard has from a version on. -/
def addedBy? (major minor : Nat) : Option CharSet :=
  if Text.ages.any fun row => row.major = major ∧ row.minor = minor then
    some (unions ((Text.ages.filter fun row =>
      row.major < major ∨ (row.major = major ∧ row.minor ≤ minor)).map fun row =>
        ofDistances row.distances))
  else none

end CharSet

/-- Whether the character belongs to words. -/
def Chars.isWordChar (c : Char) : Bool := CharSet.word.has c

end HardwareWatch
