import HardwareWatch.Pattern.Escape

/-!
# Sets in brackets

A set in brackets is the union of what stands in it: characters, ranges, escapes, named classes and
further sets in brackets. Unions may be combined by `&&`, `--` and `~~`, from left to right. A caret
in front takes the characters outside the set. Hyphens in front, and a closing bracket that would be
the first item, stand for themselves.

* `Pattern.bracket?` reads a set in brackets, with the depth of its nesting.
-/

namespace HardwareWatch.Pattern

/-- How two sets are combined. -/
inductive SetOp
  | intersection | difference | symmetricDifference
  deriving DecidableEq, Repr

/-- The combination of two sets. -/
def SetOp.apply : SetOp → CharSet → CharSet → CharSet
  | intersection => .inter
  | difference => .diff
  | symmetricDifference => .symmDiff

/-- A set with the depth of nesting of its expression. -/
structure Nested where
  set : CharSet
  depth : Nat

/-- A bracket that is open: the combination that waits for its right side, and the union that is
being read. -/
structure Bracket where
  negated : Bool
  left : Option (SetOp × Nested)
  union : CharSet
  count : Nat
  depth : Nat

namespace Bracket

/-- The bracket with one more item. -/
def add (b : Bracket) (item : Nested) : Bracket :=
  { b with union := b.union.union item.set, count := b.count + 1, depth := max b.depth item.depth }

/-- What has been read. -/
def value (b : Bracket) (flags : Flags) : Nested :=
  let right : Nested := ⟨b.union, if 2 ≤ b.count then b.depth + 1 else b.depth⟩
  match b.left with
  | none => right
  | some (op, left) =>
    ⟨op.apply (flags.fold left.set) (flags.fold right.set), max left.depth right.depth + 1⟩

/-- The bracket behind an operator. -/
def operator (b : Bracket) (flags : Flags) (op : SetOp) : Bracket :=
  ⟨b.negated, some (op, b.value flags), .empty, 0, 0⟩

/-- The set when the bracket is closed. -/
def close? (b : Bracket) (flags : Flags) : Option Nested :=
  let v := b.value flags
  (flags.finish? b.negated (flags.fold v.set)).map fun set => ⟨set, v.depth + 1⟩

/-- The set of one character. -/
def single (c : Char) : Nested := ⟨.single c, 0⟩

/-- Open a bracket: what follows it, less its caret and the characters that stand for themselves. -/
def start (flags : Flags) (s : Chars) : Bracket × Chars :=
  let s := flags.gap s
  let (negated, s) := match s with
    | '^' :: s => (true, flags.gap s)
    | s => (false, s)
  let (hyphens, s) := flags.span (· == '-') s
  let opened : Bracket := ⟨negated, none, .empty, 0, 0⟩
  match hyphens, s with
  | [], ']' :: rest => (opened.add (single ']'), rest)
  | hyphens, s => (hyphens.foldl (fun b c => b.add (single c)) opened, s)

end Bracket

/-- A class such as `[:alpha:]`, behind its bracket. -/
def posixClass? (flags : Flags) (s : Chars) : Option (Option CharSet × Chars) := do
  let s ← Chars.dropPrefix? [':'] s
  let negated := s.head? = some '^'
  let s := if negated then s.drop 1 else s
  let name := s.takeWhile (· != ':')
  let rest ← Chars.dropPrefix? ":]".toList (s.drop name.length)
  let set ← CharSet.ofPosixName? (.ofList name)
  some (flags.finish? negated (flags.fold set), rest)

/-- Read an item that is a character or an escape. -/
def bracketAtom? (flags : Flags) : Chars → Option (Atom × Chars)
  | '\\' :: s => escape? flags s
  | c :: s => some (.char c false, s)
  | [] => none

/-- A character in brackets. With the words of ASCII it has to be one of ASCII. -/
def bracketChar? (flags : Flags) : Atom → Option Char
  | .char c _ => if flags.ascii && 0x80 ≤ c.toNat then none else some c
  | _ => none

/-- What tells whether a hyphen makes a range: the character behind it, or behind the blanks there.
Behind the sign that starts a comment, it is the first character of the comment. -/
def behindHyphen (flags : Flags) (s : Chars) : Option Char :=
  if flags.verbose then
    match s.dropWhile Chars.isBlank with
    | '#' :: comment => (comment.dropWhile Chars.isBlank).head?
    | s => s.head?
  else s.head?

/-- Read a character, an escape or a range. -/
def bracketRange? (flags : Flags) (s : Chars) : Option (Nested × Chars) := do
  let (first, s) ← bracketAtom? flags s
  match flags.gap s with
  | [] => none
  | '-' :: behind =>
    let next := behindHyphen flags behind
    if next = some ']' || next = some '-' then single? first ('-' :: behind)
    else do
      let (last, s) ← bracketAtom? flags (flags.gap behind)
      let a ← bracketChar? flags first
      let b ← bracketChar? flags last
      if a ≤ b then some (⟨.range a b, 0⟩, s) else none
  | behind => single? first behind
where
  /-- The item that is no range. -/
  single? : Atom → Chars → Option (Nested × Chars)
    | .char c b, s => (bracketChar? flags (.char c b)).map fun c => (Bracket.single c, s)
    | .set set, s => some (⟨set, 0⟩, s)
    | .look _, _ => none

/-- Read on in brackets, the innermost apart from those around it. Each step reads at least one
character, so that `fuel` need not be more than their number. -/
def bracketsFrom? (flags : Flags) : (fuel : Nat) → Bracket → List Bracket → Chars →
    Option (Nested × Chars)
  | 0, _, _, _ => none
  | fuel + 1, inner, outer, s =>
    match flags.gap s with
    | [] => none
    | '[' :: s =>
      match posixClass? flags s with
      | some (set, rest) =>
        set.bind fun set => bracketsFrom? flags fuel (inner.add ⟨set, 0⟩) outer rest
      | none =>
        let (b, rest) := Bracket.start flags s
        bracketsFrom? flags fuel b (inner :: outer) rest
    | ']' :: s =>
      (inner.close? flags).bind fun closed =>
        match outer with
        | [] => some (closed, s)
        | around :: outer => bracketsFrom? flags fuel (around.add closed) outer s
    | '&' :: '&' :: s => bracketsFrom? flags fuel (inner.operator flags .intersection) outer s
    | '-' :: '-' :: s => bracketsFrom? flags fuel (inner.operator flags .difference) outer s
    | '~' :: '~' :: s =>
      bracketsFrom? flags fuel (inner.operator flags .symmetricDifference) outer s
    | s =>
      (bracketRange? flags s).bind fun (item, rest) =>
        bracketsFrom? flags fuel (inner.add item) outer rest

/-- Read a set in brackets, behind the bracket that opens it. -/
def bracket? (flags : Flags) (s : Chars) : Option (Nested × Chars) :=
  let (b, rest) := Bracket.start flags s
  bracketsFrom? flags (rest.length + 1) b [] rest

end HardwareWatch.Pattern
