import HardwareWatch.Text.Property

/-!
# Where text can be divided

The rules by which the Unicode standard divides a text into clusters, words and sentences go by three
properties, each of which gives every character a value. The sets of the characters with a value are
derived from general categories, scripts and other properties.

* `CharSet.clusterBreak?`, `CharSet.wordBreak?` and `CharSet.sentenceBreak?` take the name of a
  value, in lower case and without blanks and hyphens, to its set.
-/

namespace HardwareWatch.CharSet

/-- The joiner of characters into one. -/
def joiner : CharSet := single '\u200d'

/-- The syllables of Hangul. -/
def hangulSyllable : CharSet := ofCodePoints 0xac00 0xd7a3

/-- The syllables of Hangul without a final consonant: every 28th. -/
def openSyllable : CharSet := ofPoints ((List.range 399).map (0xac00 + 28 * ·))

/-! ### Clusters -/

/-- The characters that extend a cluster. -/
def clusterExtend : CharSet := graphemeExtend.union emojiModifier

/-- The characters that a cluster neither begins nor ends with, line ends apart. -/
def clusterControl : CharSet :=
  (unions [ofCategory 'Z' 'l', ofCategory 'Z' 'p', ofCategory 'C' 'c', ofCategory 'C' 'f',
    unassigned.inter defaultIgnorable]).diff
    (unions [ofPoints [0xa, 0xd], graphemeExtend, joiner, prependedConcatenationMark])

/-- The spacing marks of clusters. -/
def clusterSpacingMark : CharSet :=
  (((ofCategory 'M' 'c').diff clusterExtend).diff unspacedMark).union (ofPoints [0xe33, 0xeb3])

/-- The set of a value of the property `Grapheme_Cluster_Break`. -/
def clusterBreak? : String → Option CharSet
  | "cn" | "control" => some clusterControl
  | "cr" => some (single '\r')
  | "lf" => some (single '\n')
  | "ex" | "extend" => some clusterExtend
  | "l" => some (ofPairs [(0x1100, 0x115f), (0xa960, 0xa97c)])
  | "v" =>
    some (ofPairs [(0x1160, 0x11a7), (0xd7b0, 0xd7c6), (0x16d63, 0x16d63), (0x16d67, 0x16d6a)])
  | "t" => some (ofPairs [(0x11a8, 0x11ff), (0xd7cb, 0xd7fb)])
  | "lv" => some openSyllable
  | "lvt" => some (hangulSyllable.diff openSyllable)
  | "pp" | "prepend" => some (prependedConcatenationMark.union prependedLetter)
  | "ri" | "regionalindicator" => some regionalIndicator
  | "sm" | "spacingmark" => some clusterSpacingMark
  | "zwj" => some joiner
  | _ => none

/-! ### Words -/

/-- The characters that extend a word without a say of their own. -/
def wordExtend : CharSet := clusterExtend.union (ofCategory 'M' 'c')

/-- The format characters inside words. -/
def wordFormat : CharSet :=
  (ofCategory 'C' 'f').diff
    (unions [prependedConcatenationMark, wordExtend, ofPoints [0x200b, 0x200d]])

/-- The digits and the signs that belong to numbers. -/
def wordNumeric : CharSet :=
  unions [decimalDigit, ofCodePoints 0x600 0x605,
    ofPoints [0x66b, 0x6dd, 0x890, 0x891, 0x8e2, 0x19da, 0x110bd, 0x110cd]]

/-- The characters of Katakana and the signs written with them. -/
def wordKatakana : CharSet :=
  (ofScript ⟨"Kana".toList⟩).union
    (unions [ofCodePoints 0x3031 0x3035, ofPoints [0x309b, 0x309c, 0x30a0, 0x30fc, 0xff70]])

/-- The letters of Hebrew. -/
def hebrewLetter : CharSet := (ofScript ⟨"Hebr".toList⟩).inter (ofCategory 'L' 'o')

/-- The letters of which words are made: those of scripts that separate words. -/
def wordLetter : CharSet :=
  (alphabetic.diff (unions
    ([ideographic, wordKatakana, hebrewLetter, wordExtend, complexContext] ++
      ["Hira", "Thai", "Laoo", "Mymr", "Khmr"].map fun s => ofScript ⟨s.toList⟩))).union
    letterLikeSign

/-- The set of a value of the property `Word_Break`. -/
def wordBreak? : String → Option CharSet
  | "le" | "aletter" => some wordLetter
  | "cr" => some (single '\r')
  | "lf" => some (single '\n')
  | "dq" | "doublequote" => some (single '"')
  | "sq" | "singlequote" => some (single '\'')
  | "extend" => some wordExtend
  | "ex" | "extendnumlet" => some ((ofCategory 'P' 'c').union (single '\u202f'))
  | "fo" | "format" => some wordFormat
  | "hl" | "hebrewletter" => some hebrewLetter
  | "ka" | "katakana" => some wordKatakana
  | "ml" | "midletter" =>
    some (ofPoints [0x3a, 0xb7, 0x387, 0x55f, 0x5f4, 0x2027, 0xfe13, 0xfe55, 0xff1a])
  | "mn" | "midnum" =>
    some (ofPoints [0x2c, 0x3b, 0x37e, 0x589, 0x60c, 0x60d, 0x66c, 0x7f8, 0x2044, 0xfe50, 0xfe54,
      0xff0c, 0xff1b])
  | "mb" | "midnumlet" => some (ofPoints [0x2e, 0x2018, 0x2019, 0x2024, 0xfe52, 0xff07, 0xff0e])
  | "nl" | "newline" => some (ofPoints [0xb, 0xc, 0x85, 0x2028, 0x2029])
  | "nu" | "numeric" => some wordNumeric
  | "ri" | "regionalindicator" => some regionalIndicator
  | "wsegspace" => some ((ofCategory 'Z' 's').diff (ofPoints [0xa0, 0x2007, 0x202f]))
  | "zwj" => some joiner
  | _ => none

/-! ### Sentences -/

/-- The characters that extend a sentence without a say of their own. -/
def sentenceExtend : CharSet := (wordExtend.diff emojiModifier).union joiner

/-- The format characters inside sentences. -/
def sentenceFormat : CharSet :=
  ((ofCategory 'C' 'f').diff (unions [wordNumeric, sentenceExtend]))

/-- The small letters of sentences: not those of Georgian, whose sentences do not begin with
capitals. -/
def sentenceLower : CharSet :=
  lowercase.diff (unions [graphemeExtend, ofPairs [(0x10d0, 0x10fa), (0x10fd, 0x10ff)]])

/-- The capital letters of sentences. -/
def sentenceUpper : CharSet :=
  (uppercase.union titlecase).diff (ofPairs [(0x1c90, 0x1cba), (0x1cbd, 0x1cbf)])

/-- The full stops. -/
def fullStop : CharSet := ofPoints [0x2e, 0x2024, 0xfe52, 0xff0e]

/-- The brackets and quotation marks. -/
def sentenceClose : CharSet :=
  (unions [ofCategory 'P' 's', ofCategory 'P' 'e', ofCategory 'P' 'i', ofCategory 'P' 'f',
    quotationMark, ornamentalClose]).diff (ofPoints [0xff02, 0xff07])

/-- The set of a value of the property `Sentence_Break`. -/
def sentenceBreak? : String → Option CharSet
  | "at" | "aterm" => some fullStop
  | "cl" | "close" => some sentenceClose
  | "cr" => some (single '\r')
  | "lf" => some (single '\n')
  | "ex" | "extend" => some sentenceExtend
  | "fo" | "format" => some sentenceFormat
  | "le" | "oletter" =>
    some ((alphabetic.diff (unions [sentenceLower, sentenceUpper, sentenceExtend])).union
      (ofPoints [0x5f3]))
  | "lo" | "lower" => some sentenceLower
  | "nu" | "numeric" => some (wordNumeric.union (ofPoints [0x66c]))
  | "sc" | "scontinue" => some sentenceContinue
  | "se" | "sep" => some (ofPoints [0x85, 0x2028, 0x2029])
  | "sp" => some (whiteSpace.diff (ofPoints [0xa, 0xd, 0x85, 0x2028, 0x2029]))
  | "st" | "sterm" => some (sentenceTerminal.diff fullStop)
  | "up" | "upper" => some sentenceUpper
  | _ => none

end HardwareWatch.CharSet
