import HardwareWatch.Pattern.Basic
import HardwareWatch.Pattern.OctetPath

/-!
# How large a pattern is

A pattern is searched with an automaton on octets, forward to find the end of a match and backward
to find its start. Each of them has a limited size, counted in octets: 32 for a state, 8 for a
transition of a state that has several, 4 for an alternative.

* `Pattern.size` is what a pattern adds to the automaton of one direction.
* `Pattern.fits` says whether both automata keep to the limit.
-/

namespace HardwareWatch.Pattern

/-- The direction in which the text is read. -/
inductive Direction
  | forward | backward
  deriving DecidableEq, Repr

/-- The size of a state. -/
def stateSize : Nat := 32

/-- The size of a state with several transitions. -/
def transitionsSize (n : Nat) : Nat := stateSize + 8 * n

/-- The size of a state with several alternatives. -/
def alternativesSize (n : Nat) : Nat := stateSize + 4 * n

/-- The octets of a text in the order in which they are read. -/
def octets (dir : Direction) (s : Chars) : List UInt8 :=
  let forward := (String.ofList s).toUTF8.toList
  match dir with
  | .forward => forward
  | .backward => forward.reverse

/-- The size of the states for one character of a set. -/
def setSize (dir : Direction) (set : CharSet) : Nat :=
  if set.isAscii then stateSize + transitionsSize set.ranges.length
  else
    let paths := set.octetPaths
    match dir with
    | .forward => stateSize + ((OctetPath.sharedSizes paths).map transitionsSize).foldl (· + ·) 0
    | .backward =>
      alternativesSize paths.length + stateSize + stateSize * OctetPath.branchCount 4 paths

/-- What follows the different first octets of texts, where an empty text divides those before it
from those behind it. The list of the parts is never empty. -/
def divided : List (List UInt8) → List (List (UInt8 × List (List UInt8)))
  | [] => [[]]
  | [] :: rest => [] :: divided rest
  | (c :: s) :: rest =>
    match divided rest with
    | [] => [[(c, [s])]]
    | part :: parts =>
      if part.any (·.1 == c) then
        part.map (fun (d, tails) => if d = c then (d, s :: tails) else (d, tails)) :: parts
      else ((c, [s]) :: part) :: parts

/-- The size of the states for a choice between texts, up to a length. -/
def textsSize : (length : Nat) → List (List UInt8) → Nat
  | 0, _ => 0
  | length + 1, texts =>
    if texts.all List.isEmpty then 0
    else
      let parts := divided texts
      let taken := parts.filter (!·.isEmpty)
      let partSizes := taken.map fun part =>
        (if part.length = 1 then stateSize else transitionsSize part.length) +
          (part.map fun (_, tails) => textsSize length tails).foldl (· + ·) 0
      partSizes.foldl (· + ·) 0 + alternativesSize (taken.length + (parts.length - 1))

/-- The texts of a choice, if all its alternatives are texts that are not empty. -/
def texts? : Pattern → Option (List Chars)
  | text [] => none
  | text s => some [s]
  | alt p q => p.texts?.bind fun a => q.texts?.map (a ++ ·)
  | _ => none

/-- The size of the repetition of a pattern of the given size. -/
def timesSize (size : Nat) (consumes : Bool) : (least : Nat) → (most : Option Nat) → Nat
  | 0, some 1 => alternativesSize 2 + size + stateSize
  | 0, none =>
    if consumes then alternativesSize 2 + size else size + 2 * alternativesSize 2 + stateSize
  | least, none => least * size + alternativesSize 2
  | least, some most =>
    if least = most then least * size
    else
      (if least = 0 then stateSize else least * size) + stateSize +
        (most - least) * (alternativesSize 2 + size)

/-- The size of the states for a pattern; `branch` says that it is part of a choice, whose own
states are counted apart. -/
def sizeIn (dir : Direction) (branch : Bool) : Pattern → Nat
  | text [] => stateSize
  | text s => stateSize * (octets dir s).length
  | one set => setSize dir set
  | look _ => stateSize
  | seq p q => p.sizeIn dir false + q.sizeIn dir false
  | alt p q =>
    let whole := alt p q
    match whole.texts?, branch with
    | some texts, false =>
      let texts := texts.map (octets dir)
      stateSize + textsSize ((texts.map List.length).foldl (· + ·) 0 + 1) texts
    | _, false =>
      alternativesSize whole.alternatives.length + stateSize + (p.sizeIn dir true + q.sizeIn dir true)
    | _, true => p.sizeIn dir true + q.sizeIn dir true
  | times p least most =>
    timesSize (p.sizeIn dir false) (p.minLength?.any (0 < ·)) least most
  | group _ p =>
    match dir with
    | .forward => 2 * stateSize + p.sizeIn dir false
    | .backward => p.sizeIn dir false

/-- Whether every match starts at the start of the text. -/
def startsText : Pattern → Bool
  | look condition => condition = .textStart
  | seq p q => p.startsText || (p.matchesEmptyOnly && q.startsText)
  | alt p q => p.startsText && q.startsText
  | times p least _ => 0 < least && p.startsText
  | group _ p => p.startsText
  | _ => false

/-- Whether every match ends at the end of the text. -/
def endsText : Pattern → Bool
  | look condition => condition = .textEnd
  | seq p q => q.endsText || (q.matchesEmptyOnly && p.endsText)
  | alt p q => p.endsText && q.endsText
  | times p least _ => 0 < least && p.endsText
  | group _ p => p.endsText
  | _ => false

/-- The size of the states that look for a match everywhere in the text. -/
def searchSize (fixed : Bool) : Nat :=
  if fixed then stateSize else alternativesSize 2 + stateSize + transitionsSize 1

/-- The size of the automaton for a pattern. -/
def size (dir : Direction) (p : Pattern) : Nat :=
  match dir with
  | .forward => searchSize p.startsText + (group 0 p).sizeIn dir false + stateSize
  | .backward => searchSize p.endsText + (group 0 p).sizeIn dir false + stateSize

/-- The size that the automaton of either direction may have: ten mebioctets. -/
def sizeLimit : Nat := 10 * Nat.pow 2 20

/-- Whether the pattern keeps to the limit. -/
def fits (p : Pattern) : Bool := p.size .forward ≤ sizeLimit && p.size .backward ≤ sizeLimit

end HardwareWatch.Pattern
