import HardwareWatch.Text.Fold
import HardwareWatch.Text.Lowercase
import HardwareWatch.Text.Segment

/-!
# Properties by name

The names under which a pattern may ask for a set of characters. Blanks, hyphens, underscores, the
case of ASCII letters and a leading `is` do not count.

* `CharSet.ofName?` is the set of a single name, that of a property, a category or a script, and
  `CharSet.ofValue?` the set of a property and a value.
* `CharSet.ofPosixName?` is the set of a name between `[:` and `:]`.
-/

namespace HardwareWatch.CharSet

/-- The part of a name that counts. -/
def bareName (name : Chars) : String :=
  let dropIs : Chars → Chars
    | 'i' :: 's' :: rest => rest
    | s => s
  let lowered := Chars.lowercaseAscii name
  let bare := (dropIs lowered).filter fun c => c != ' ' && c != '_' && c != '-' && c.toNat < 0x80
  if bare = ['c'] ∧ dropIs lowered ≠ lowered then "isc" else .ofList bare

/-- The names of the general categories. -/
def categoryNames : List (List String × Char × Option Char) :=
  [(["c", "other"], 'C', none), (["cc", "control", "cntrl"], 'C', some 'c'),
    (["cf", "format"], 'C', some 'f'), (["cn", "unassigned"], 'C', some 'n'),
    (["co", "privateuse"], 'C', some 'o'), (["l", "letter"], 'L', none),
    (["ll", "lowercaseletter"], 'L', some 'l'), (["lm", "modifierletter"], 'L', some 'm'),
    (["lo", "otherletter"], 'L', some 'o'), (["lt", "titlecaseletter"], 'L', some 't'),
    (["lu", "uppercaseletter"], 'L', some 'u'), (["m", "mark", "combiningmark"], 'M', none),
    (["mc", "spacingmark"], 'M', some 'c'), (["me", "enclosingmark"], 'M', some 'e'),
    (["mn", "nonspacingmark"], 'M', some 'n'), (["n", "number"], 'N', none),
    (["nd", "decimalnumber", "digit"], 'N', some 'd'), (["nl", "letternumber"], 'N', some 'l'),
    (["no", "othernumber"], 'N', some 'o'), (["p", "punctuation", "punct"], 'P', none),
    (["pc", "connectorpunctuation"], 'P', some 'c'), (["pd", "dashpunctuation"], 'P', some 'd'),
    (["pe", "closepunctuation"], 'P', some 'e'), (["pf", "finalpunctuation"], 'P', some 'f'),
    (["pi", "initialpunctuation"], 'P', some 'i'), (["po", "otherpunctuation"], 'P', some 'o'),
    (["ps", "openpunctuation"], 'P', some 's'), (["s", "symbol"], 'S', none),
    (["sc", "currencysymbol"], 'S', some 'c'), (["sk", "modifiersymbol"], 'S', some 'k'),
    (["sm", "mathsymbol"], 'S', some 'm'), (["so", "othersymbol"], 'S', some 'o'),
    (["z", "separator"], 'Z', none), (["zl", "lineseparator"], 'Z', some 'l'),
    (["zp", "paragraphseparator"], 'Z', some 'p'), (["zs", "spaceseparator"], 'Z', some 's')]

/-- The characters of ASCII. -/
def ascii : CharSet := range '\x00' '\x7f'

/-- The set of a general category. -/
def ofCategoryName? (name : String) : Option CharSet :=
  match name with
  | "any" => some all
  | "assigned" => some unassigned.compl
  | "ascii" => some ascii
  | "lc" | "casedletter" =>
    some (ofCategories fun k => k ∈ [⟨'L', 'l'⟩, ⟨'L', 'u'⟩, ⟨'L', 't'⟩])
  | name =>
    (categoryNames.find? (·.1.contains name)).map fun (_, major, kind) =>
      match kind with
      | some kind => ofCategory major kind
      | none => ofClass major

/-- The set of a property that a character has or has not. -/
def ofPropertyName? : String → Option CharSet
  | "ahex" | "asciihexdigit" => some asciiHexDigit
  | "alpha" | "alphabetic" => some alphabetic
  | "bidic" | "bidicontrol" => some bidiControl
  | "bidim" | "bidimirrored" => some bidiMirrored
  | "ci" | "caseignorable" => some caseIgnorable
  | "cased" => some cased
  | "cwcf" | "changeswhencasefolded" => some changesWhenCasefolded
  | "cwcm" | "changeswhencasemapped" => some changesWhenCasemapped
  | "cwl" | "changeswhenlowercased" => some changesWhenLowercased
  | "cwt" | "changeswhentitlecased" => some changesWhenTitlecased
  | "cwu" | "changeswhenuppercased" => some changesWhenUppercased
  | "dash" => some dash
  | "di" | "defaultignorablecodepoint" => some defaultIgnorable
  | "dep" | "deprecated" => some deprecated
  | "dia" | "diacritic" => some diacritic
  | "emoji" => some emoji
  | "ecomp" | "emojicomponent" => some emojiComponent
  | "emod" | "emojimodifier" => some emojiModifier
  | "ebase" | "emojimodifierbase" => some emojiModifierBase
  | "epres" | "emojipresentation" => some emojiPresentation
  | "extpict" | "extendedpictographic" => some extendedPictographic
  | "ext" | "extender" => some extender
  | "grbase" | "graphemebase" => some graphemeBase
  | "grext" | "graphemeextend" => some graphemeExtend
  | "grlink" | "graphemelink" => some graphemeLink
  | "hex" | "hexdigit" => some hexDigit
  | "hyphen" => some hyphen
  | "idsb" | "idsbinaryoperator" => some idsBinaryOperator
  | "idst" | "idstrinaryoperator" => some idsTrinaryOperator
  | "idsu" | "idsunaryoperator" => some idsUnaryOperator
  | "idcompatmathcontinue" => some idCompatMathContinue
  | "idcompatmathstart" => some idCompatMathStart
  | "idc" | "idcontinue" => some idContinue
  | "ids" | "idstart" => some idStart
  | "ideo" | "ideographic" => some ideographic
  | "joinc" | "joincontrol" => some joinControl
  | "loe" | "logicalorderexception" => some logicalOrderException
  | "lower" | "lowercase" => some lowercase
  | "math" => some math
  | "mcm" | "modifiercombiningmark" => some modifierCombiningMark
  | "nchar" | "noncharactercodepoint" => some noncharacter
  | "oalpha" | "otheralphabetic" => some otherAlphabetic
  | "odi" | "otherdefaultignorablecodepoint" => some otherDefaultIgnorable
  | "ogrext" | "othergraphemeextend" => some otherGraphemeExtend
  | "oidc" | "otheridcontinue" => some otherIdContinue
  | "oids" | "otheridstart" => some otherIdStart
  | "olower" | "otherlowercase" => some otherLowercase
  | "omath" | "othermath" => some otherMath
  | "oupper" | "otheruppercase" => some otherUppercase
  | "patsyn" | "patternsyntax" => some patternSyntax
  | "patws" | "patternwhitespace" => some patternWhiteSpace
  | "pcm" | "prependedconcatenationmark" => some prependedConcatenationMark
  | "qmark" | "quotationmark" => some quotationMark
  | "radical" => some radical
  | "ri" | "regionalindicator" => some regionalIndicator
  | "sterm" | "sentenceterminal" => some sentenceTerminal
  | "sd" | "softdotted" => some softDotted
  | "term" | "terminalpunctuation" => some terminalPunctuation
  | "uideo" | "unifiedideograph" => some unifiedIdeograph
  | "upper" | "uppercase" => some uppercase
  | "vs" | "variationselector" => some variationSelector
  | "space" | "wspace" | "whitespace" => some whiteSpace
  | "xidc" | "xidcontinue" => some xidContinue
  | "xids" | "xidstart" => some xidStart
  | _ => none

/-- The set of a name: a property, a general category or a script. -/
def ofName? (name : Chars) : Option CharSet :=
  let bare := bareName name
  (ofPropertyName? bare).orElse fun _ =>
    (ofCategoryName? bare).orElse fun _ => (WritingScript.ofName? bare).map ofScript

/-- The set of the characters that the standard has from a version on, which is written as two
numbers with a point between them, or as its name, in which there is no point. -/
def ofAge? (version : String) : Option CharSet :=
  let row := Text.ages.find? fun row =>
    let major := toString row.major
    let minor := toString row.minor
    version == major ++ "." ++ minor || version == "v" ++ major ++ minor
  row.bind fun row => addedBy? row.major row.minor

/-- The set of the characters whose property has a value. -/
def ofValue? (property value : Chars) : Option CharSet :=
  let value := bareName value
  match bareName property with
  | "generalcategory" | "gc" => ofCategoryName? value
  | "script" | "sc" => (WritingScript.ofName? value).map ofScript
  | "scriptextensions" | "scx" => (WritingScript.ofName? value).map usedIn
  | "age" => ofAge? value
  | "graphemeclusterbreak" | "gcb" => clusterBreak? value
  | "wordbreak" | "wb" => wordBreak? value
  | "sentencebreak" | "sb" => sentenceBreak? value
  | _ => none

/-- The decimal digits of ASCII. -/
def asciiDigit : CharSet := range '0' '9'

/-- The characters of words in ASCII. -/
def asciiWord : CharSet := ofRanges [('0', '9'), ('A', 'Z'), ('_', '_'), ('a', 'z')]

/-- The blanks of ASCII. -/
def asciiBlank : CharSet := ofRanges [('\t', '\r'), (' ', ' ')]

/-- The set of a name between `[:` and `:]`. -/
def ofPosixName? : String → Option CharSet
  | "alnum" => some (ofRanges [('0', '9'), ('A', 'Z'), ('a', 'z')])
  | "alpha" => some (ofRanges [('A', 'Z'), ('a', 'z')])
  | "ascii" => some ascii
  | "blank" => some (ofRanges [('\t', '\t'), (' ', ' ')])
  | "cntrl" => some (ofRanges [('\x00', '\x1f'), ('\x7f', '\x7f')])
  | "digit" => some asciiDigit
  | "graph" => some (range '!' '~')
  | "lower" => some (range 'a' 'z')
  | "print" => some (range ' ' '~')
  | "punct" => some (ofRanges [('!', '/'), (':', '@'), ('[', '\x60'), ('\x7b', '~')])
  | "space" => some asciiBlank
  | "upper" => some (range 'A' 'Z')
  | "word" => some asciiWord
  | "xdigit" => some (ofRanges [('0', '9'), ('A', 'F'), ('a', 'f')])
  | _ => none

end HardwareWatch.CharSet
