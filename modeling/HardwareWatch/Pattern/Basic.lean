import HardwareWatch.Pattern.Property

/-!
# Patterns

Regular expressions. Whether a text has a match anywhere does not depend on which match is
preferred, so that greedy and lazy repetition are one.

Patterns are built by functions that keep them simple: sequences and choices are flat, neighbouring
characters are one text, a choice between characters is a set, and what several alternatives start
with is written once.

* `Pattern.ofSet`, `Pattern.concat`, `Pattern.choice` and `Pattern.repeated` build patterns.
* `Pattern.minLength?` is the length of the shortest text that a pattern can match, and
  `Pattern.matchesEmptyOnly` says that there is no longer one.
-/

namespace HardwareWatch

/-- A condition on the characters around a place. -/
inductive Look
  | textStart | textEnd
  /-- The start of a line, which carriage returns may also end. -/
  | lineStart (carriageReturns : Bool)
  | lineEnd (carriageReturns : Bool)
  /-- A place between a character of a word and another one; `ascii` says that words are of ASCII
  characters. -/
  | wordEdge (ascii : Bool)
  | noWordEdge (ascii : Bool)
  | wordStart (ascii : Bool)
  | wordEnd (ascii : Bool)
  /-- No character of a word stands before the place. -/
  | noWordBefore (ascii : Bool)
  | noWordAfter (ascii : Bool)
  deriving DecidableEq, Repr

namespace Look

/-- Whether there is a character and it belongs to a word. -/
def inWord (ascii : Bool) : Option Char → Bool
  | some c => if ascii then CharSet.asciiWord.has c else Chars.isWordChar c
  | none => false

/-- Whether the condition holds between two characters, either of which may be missing. -/
def holds (before after : Option Char) : Look → Bool
  | textStart => before.isNone
  | textEnd => after.isNone
  | lineStart false => before.isNone || before == some '\n'
  | lineStart true =>
    before.isNone || before == some '\n' || (before == some '\r' && after != some '\n')
  | lineEnd false => after.isNone || after == some '\n'
  | lineEnd true =>
    after.isNone || after == some '\r' || (after == some '\n' && before != some '\r')
  | wordEdge ascii => inWord ascii before != inWord ascii after
  | noWordEdge ascii => inWord ascii before == inWord ascii after
  | wordStart ascii => !inWord ascii before && inWord ascii after
  | wordEnd ascii => inWord ascii before && !inWord ascii after
  | noWordBefore ascii => !inWord ascii before
  | noWordAfter ascii => !inWord ascii after

end Look

/-- A regular expression. -/
inductive Pattern
  /-- A text that stands for itself. -/
  | text (s : Chars)
  | one (set : CharSet)
  | look (condition : Look)
  | seq (p q : Pattern)
  | alt (p q : Pattern)
  /-- At least `least` and at most `most` times. -/
  | times (p : Pattern) (least : Nat) (most : Option Nat)
  /-- A group that is counted, by its number. -/
  | group (number : Nat) (p : Pattern)
  deriving DecidableEq, Repr

namespace Pattern

/-- The pattern of the empty text. -/
def empty : Pattern := text []

/-- The character of a text of one character. -/
def singleChar? : Pattern → Option Char
  | text [c] => some c
  | _ => none

/-- The set of a pattern that is one. -/
def set? : Pattern → Option CharSet
  | one set => some set
  | _ => none

/-- A pattern that matches one character of a set. -/
def ofSet (set : CharSet) : Pattern :=
  match set.ranges with
  | [(first, last)] => if first = last then text [Char.ofNat first] else one set
  | _ => one set

/-- The length of the shortest text that the pattern can match, as far as repetitions tell; none if
a part of it matches nothing. -/
def minLength? : Pattern → Option Nat
  | text s => some s.length
  | one set => if set = .empty then none else some 1
  | look _ => some 0
  | seq p q => p.minLength?.bind fun m => q.minLength?.map (m + ·)
  | alt p q => p.minLength?.bind fun m => q.minLength?.map (min m ·)
  | times p least _ => p.minLength?.map (least * ·)
  | group _ p => p.minLength?

/-- Whether the pattern can match no text but the empty one. -/
def matchesEmptyOnly : Pattern → Bool
  | text s => s.isEmpty
  | one _ => false
  | look _ => true
  | seq p q => p.matchesEmptyOnly && q.matchesEmptyOnly
  | alt p q => p.matchesEmptyOnly && q.matchesEmptyOnly
  | times p _ most => most.isSome && p.matchesEmptyOnly
  | group _ p => p.matchesEmptyOnly

/-- The parts of a sequence. -/
def parts : Pattern → List Pattern
  | seq p q => p.parts ++ q.parts
  | text [] => []
  | p => [p]

/-- The alternatives of a choice. -/
def alternatives : Pattern → List Pattern
  | alt p q => p.alternatives ++ q.alternatives
  | p => [p]

/-- Put a part in front of others; neighbouring texts become one. -/
def consPart : Pattern → List Pattern → List Pattern
  | text s, text t :: rest => text (s ++ t) :: rest
  | p, rest => p :: rest

/-- The sequence of parts. -/
def ofParts : List Pattern → Pattern
  | [] => empty
  | [p] => p
  | p :: rest => seq p (ofParts rest)

/-- The sequence of patterns. -/
def concat (patterns : List Pattern) : Pattern :=
  ofParts ((patterns.flatMap parts).foldr consPart [])

/-- The choice between alternatives. -/
def ofAlternatives : List Pattern → Pattern
  | [] => one .empty
  | [p] => p
  | p :: rest => alt p (ofAlternatives rest)

/-- What two lists start with. -/
def commonStart : List Pattern → List Pattern → List Pattern
  | p :: ps, q :: qs => if p = q then p :: commonStart ps qs else []
  | _, _ => []

/-- What all alternatives start with, where each is a sequence of several parts. -/
def sharedStart : List Pattern → List Pattern
  | [] => []
  | p :: rest =>
    if (p :: rest).all (2 ≤ ·.parts.length) then
      rest.foldl (fun start q => commonStart start q.parts) p.parts
    else []

/-- The choice between patterns, in which shared starts are lifted at most `depth` times. -/
def choiceWithin : (depth : Nat) → List Pattern → Pattern
  | depth, patterns =>
    let branches := patterns.flatMap alternatives
    match branches, branches.mapM singleChar?, branches.mapM set? with
    | [p], _, _ => p
    | _, some chars, _ => ofSet (.ofPoints (chars.map Char.toNat))
    | _, _, some sets => ofSet (.unions sets)
    | _, none, none =>
      match depth, sharedStart branches with
      | depth + 1, first :: start =>
        let rests := branches.map fun p => concat (p.parts.drop (start.length + 1))
        concat (first :: start ++ [choiceWithin depth rests])
      | _, _ => ofAlternatives branches

/-- The number of its texts, sets and conditions. -/
def weight : Pattern → Nat
  | text _ => 1
  | one _ => 1
  | look _ => 1
  | seq p q => p.weight + q.weight
  | alt p q => p.weight + q.weight
  | times p _ _ => p.weight
  | group _ p => p.weight

/-- The choice between patterns. -/
def choice (patterns : List Pattern) : Pattern :=
  choiceWithin ((patterns.map weight).foldl (· + ·) 0) patterns

/-- The repetition of a pattern. There is no more than one of what matches the empty text only. -/
def repeated (p : Pattern) (least : Nat) (most : Option Nat) : Pattern :=
  let (least, most) :=
    if p.matchesEmptyOnly then (min least 1, some (min (most.getD 1) 1)) else (least, most)
  if most = some 0 then empty
  else if least = 1 ∧ most = some 1 then p
  else times p least most

end Pattern

end HardwareWatch
