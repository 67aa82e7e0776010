import HardwareWatch.Pattern.Basic

/-!
# Matching by marks

A pattern is matched by marks on its characters: a character of the pattern is marked when it is the
last one of a text that the pattern has matched so far. Each character of the text moves all marks
at once, and a new match may start everywhere. Every part of a pattern keeps a summary of its marks,
so that parts without marks cost nothing.

* `Marked.ofPattern` is a pattern without marks, `Marked.step` moves the marks by a character.
* `Pattern.occursIn` says whether a text has a match.
-/

namespace HardwareWatch

/-- What is known about a part of a pattern at a place of a text. -/
structure Summary where
  /-- The part holds a mark. -/
  live : Bool
  /-- A match of the part ends at the place. -/
  arrived : Bool
  /-- The part matches the empty text at the place. -/
  passable : Bool
  /-- The part has a condition on the place. -/
  looks : Bool
  deriving DecidableEq, Repr

/-- A pattern with marks, at a place of a text. -/
inductive Marked
  | nothing
  | one (set : CharSet) (mark : Bool)
  | look (condition : Look) (met : Bool)
  | seq (summary : Summary) (p q : Marked)
  | alt (summary : Summary) (p q : Marked)
  /-- Once or more often. -/
  | many (summary : Summary) (p : Marked)

namespace Marked

/-- What is known about a pattern. -/
def summary : Marked → Summary
  | nothing => ⟨false, false, true, false⟩
  | one _ mark => ⟨mark, mark, false, false⟩
  | look _ met => ⟨false, false, met, true⟩
  | seq summary _ _ => summary
  | alt summary _ _ => summary
  | many summary _ => summary

/-- One pattern behind another. -/
def join (p q : Marked) : Marked :=
  let a := p.summary
  let b := q.summary
  seq ⟨a.live || b.live, b.arrived || (a.arrived && b.passable), a.passable && b.passable,
    a.looks || b.looks⟩ p q

/-- One of two patterns. -/
def either (p q : Marked) : Marked :=
  let a := p.summary
  let b := q.summary
  alt ⟨a.live || b.live, a.arrived || b.arrived, a.passable || b.passable, a.looks || b.looks⟩ p q

/-- A pattern once or more often. -/
def oftener (p : Marked) : Marked := many p.summary p

/-- A pattern that may be left out. -/
def optional (p : Marked) : Marked := either p nothing

/-- A pattern `n` times. Halves are shared. -/
def power (p : Marked) (n : Nat) : Marked :=
  if n = 0 then nothing
  else if n = 1 then p
  else
    let half := power p (n / 2)
    if n % 2 = 0 then join half half else join p (join half half)
termination_by n

/-- A pattern that is repeated. -/
def repeated (p : Marked) (least : Nat) : (most : Option Nat) → Marked
  | some most => join (power p least) (power (optional p) (most - least))
  | none => if least = 0 then optional (oftener p) else join (power p (least - 1)) (oftener p)

/-- A pattern without marks. -/
def ofPattern : Pattern → Marked
  | .text s => s.foldr (fun c p => join (one (.single c) false) p) nothing
  | .one set => one set false
  | .look condition => look condition false
  | .seq p q => join (ofPattern p) (ofPattern q)
  | .alt p q => either (ofPattern p) (ofPattern q)
  | .times p least most => repeated (ofPattern p) least most
  | .group _ p => ofPattern p

/-- The pattern at a place between two characters, either of which may be missing. -/
def settle (before after : Option Char) : Marked → Marked
  | nothing => nothing
  | one set mark => one set mark
  | look condition _ => look condition (condition.holds before after)
  | seq s p q =>
    if s.looks then join (p.settle before after) (q.settle before after) else seq s p q
  | alt s p q =>
    if s.looks then either (p.settle before after) (q.settle before after) else alt s p q
  | many s p => if s.looks then oftener (p.settle before after) else many s p

/-- The pattern behind a character. Matches go on, and if `enter` they start in front of it. -/
def step (c : Char) (enter : Bool) : Marked → Marked
  | nothing => nothing
  | one set _ => one set (enter && set.has c)
  | look condition met => look condition met
  | seq s p q =>
    if enter || s.live then
      join (p.step c enter) (q.step c (p.summary.arrived || (enter && p.summary.passable)))
    else seq s p q
  | alt s p q =>
    if enter || s.live then either (p.step c enter) (q.step c enter) else alt s p q
  | many s p =>
    if enter || s.live then oftener (p.step c (enter || s.arrived)) else many s p

/-- Whether a match ends somewhere in the text, in front of which `before` stands. -/
def occursFrom (before : Option Char) (p : Marked) : Chars → Bool
  | [] =>
    let s := (p.settle before none).summary
    s.arrived || s.passable
  | c :: rest =>
    let p := p.settle before (some c)
    p.summary.arrived || p.summary.passable || occursFrom (some c) (p.step c true) rest

end Marked

/-- Whether the text has a match. -/
def Pattern.occursIn (p : Pattern) (text : String) : Bool :=
  (Marked.ofPattern p).occursFrom none text.toList

end HardwareWatch
