import HardwareWatch.Pattern.Bracket
import HardwareWatch.Pattern.Size
import HardwareWatch.Text.Shown

/-!
# Reading patterns

A pattern is read item by item with a stack of the groups that are open. There are neither
conditions on what follows or precedes, nor references to groups: such patterns have no reading, as
have those that are nested too deep or too large.

* `Pattern.read?` reads a pattern.
* `Pattern.readIgnoringCase?` reads a pattern for which case does not count.
-/

namespace HardwareWatch.Pattern

/-- How deep a pattern may be nested. -/
def nestLimit : Nat := 250

/-- An item of a sequence: the depth of its nesting, and whether it can be repeated. -/
structure Item where
  pattern : Pattern
  depth : Nat
  repeatable : Bool

/-- What has been read of a group: the alternatives that are complete, and the items of the one that
is being read, both in reverse. -/
structure Group where
  alternatives : List Item
  items : List Item

namespace Group

/-- A group that was just opened. -/
def opened : Group := ⟨[], []⟩

/-- Join items, given in reverse, into one, which is nested deeper if there are several. -/
def joined (join : List Pattern → Pattern) (items : List Item) : Item :=
  let depth := items.foldl (fun n item => max n item.depth) 0
  ⟨join (items.reverse.map (·.pattern)), if 2 ≤ items.length then depth + 1 else depth, true⟩

/-- The alternative that is being read. -/
def alternative (g : Group) : Item := joined .concat g.items

/-- The group when it ends here. -/
def value (g : Group) : Item := joined .choice (g.alternative :: g.alternatives)

/-- The group with one more item. -/
def add (g : Group) (item : Item) : Group := { g with items := item :: g.items }

/-- The group with its last item repeated. -/
def repeat? (g : Group) (least : Nat) (most : Option Nat) : Option Group :=
  match g.items with
  | item :: before =>
    if item.repeatable then
      some { g with items := ⟨.repeated item.pattern least most, item.depth + 1, true⟩ :: before }
    else none
  | [] => none

/-- The group with a new alternative. -/
def next (g : Group) : Group := ⟨g.alternative :: g.alternatives, []⟩

end Group

/-- A group that is open around another one: what has been read of it, the flags that hold in it, and
the number of the other one, if it is counted. -/
structure Surrounding where
  group : Group
  flags : Flags
  number : Option Nat

/-- The groups that are open, the innermost apart from those around it, the flags that hold, the
number of the groups that are counted, and the names of groups. -/
structure Cursor where
  inner : Group
  outer : List Surrounding
  flags : Flags
  count : Nat
  names : List Chars

namespace Cursor

/-- Add an item that is nested not at all. -/
def addPattern (cur : Cursor) (p : Pattern) : Cursor :=
  { cur with inner := cur.inner.add ⟨p, 0, true⟩ }

/-- Open a group that is not counted. -/
def openGroup (cur : Cursor) (flags : Flags) : Cursor :=
  { cur with
    inner := .opened
    outer := ⟨cur.inner, cur.flags, none⟩ :: cur.outer
    flags := flags }

/-- Open a group that is counted. -/
def openCounted (cur : Cursor) : Cursor :=
  { cur with
    inner := .opened
    outer := ⟨cur.inner, cur.flags, some (cur.count + 1)⟩ :: cur.outer
    count := cur.count + 1 }

/-- Close a group. -/
def closeGroup? (cur : Cursor) : Option Cursor :=
  match cur.outer with
  | [] => none
  | around :: outer =>
    let v := cur.inner.value
    let pattern := match around.number with
      | some n => .group n v.pattern
      | none => v.pattern
    some { cur with
      inner := around.group.add ⟨pattern, v.depth + 1, true⟩
      outer := outer
      flags := around.flags }

/-- A character that stands for itself. -/
def literal? (cur : Cursor) (c : Char) (byte : Bool) : Option Cursor :=
  if cur.flags.ascii && 0x80 ≤ c.toNat then
    if byte then none else some (cur.addPattern (.text [c]))
  else some (cur.addPattern (.ofSet (cur.flags.fold (.single c))))

/-- The characters that a dot stands for. -/
def dot (flags : Flags) : CharSet :=
  if flags.dotMatchesAll then .all
  else if flags.carriageReturns then CharSet.compl (.ofRanges [('\n', '\n'), ('\r', '\r')])
  else CharSet.compl (.single '\n')

/-- Whether the text can be the name of a group. -/
def isGroupName (name : Chars) : Bool :=
  match name with
  | [] => false
  | c :: s =>
    (c == '_' || Chars.isAlphabetic c) &&
      s.all fun c =>
        c == '_' || c == '.' || c == '[' || c == ']' || Chars.isAlphabetic c || Chars.isNumeric c

/-- Open a group with a name. -/
def namedGroup? (cur : Cursor) (s : Chars) : Option (Cursor × Chars) := do
  let (name, rest) ← Chars.breakOn? ['>'] s
  if isGroupName name && !cur.names.contains name then
    some ({ cur.openCounted with names := name :: cur.names }, rest)
  else none

/-- Set flags, for the rest of the group or for a group of their own. -/
def setFlags? (cur : Cursor) (s : Chars) : Option (Cursor × Chars) := do
  let letters := s.takeWhile fun c => c != ':' && c != ')'
  let flags ← cur.flags.update? letters
  match s.drop letters.length with
  | ':' :: rest => some (cur.openGroup flags, rest)
  | ')' :: rest =>
    if letters = [] then none
    else some ({ cur with inner := cur.inner.add ⟨.empty, 0, false⟩, flags := flags }, rest)
  | _ => none

/-- Read what follows an opening parenthesis. -/
def group? (cur : Cursor) (s : Chars) : Option (Cursor × Chars) :=
  match cur.flags.gap s with
  | '?' :: '=' :: _ => none
  | '?' :: '!' :: _ => none
  | '?' :: '<' :: '=' :: _ => none
  | '?' :: '<' :: '!' :: _ => none
  | '?' :: 'P' :: '<' :: s => cur.namedGroup? s
  | '?' :: '<' :: s => cur.namedGroup? s
  | '?' :: s => cur.setFlags? s
  | s => some (cur.openCounted, s)

/-- The text without the mark of a lazy repetition. -/
def dropLazy : Chars → Chars
  | '?' :: s => s
  | s => s

/-- Repeat the last item. -/
def repeat? (cur : Cursor) (least : Nat) (most : Option Nat) (s : Chars) :
    Option (Cursor × Chars) :=
  (cur.inner.repeat? least most).map fun g => ({ cur with inner := g }, dropLazy s)

/-- Read a number in the braces of a repetition, with blanks around it; none if there is none or if
it is too large. -/
def number (flags : Flags) (s : Chars) : Option Nat × Chars :=
  let (digits, rest) := flags.span Chars.isDigit (s.dropWhile Chars.isBlank)
  ((Chars.digits? digits).filter (· < word32), flags.gap (rest.dropWhile Chars.isBlank))

/-- Repeat the last item as often as the braces say. -/
def counted? (cur : Cursor) (s : Chars) : Option (Cursor × Chars) := do
  let flags := cur.flags
  let (least, rest) := number flags (flags.gap s)
  let least ← least
  match rest with
  | '\x7d' :: rest => cur.repeat? least (some least) (flags.gap rest)
  | ',' :: rest =>
    match flags.gap rest with
    | '\x7d' :: rest => cur.repeat? least none (flags.gap rest)
    | rest => do
      let (most, rest) := number flags rest
      let most ← most
      match rest with
      | '\x7d' :: rest =>
        if least ≤ most then cur.repeat? least (some most) (flags.gap rest) else none
      | _ => none
  | _ => none

/-- Read one item. -/
def step? (cur : Cursor) (c : Char) (s : Chars) : Option (Cursor × Chars) :=
  let flags := cur.flags
  if flags.verbose && (Chars.isBlank c || c == '#') then some (cur, flags.gap (c :: s))
  else
    match c with
    | '(' => cur.group? s
    | ')' => cur.closeGroup?.map (·, s)
    | '|' => some ({ cur with inner := cur.inner.next }, s)
    | '[' =>
      (bracket? flags s).map fun (b, rest) =>
        ({ cur with inner := cur.inner.add ⟨.ofSet b.set, b.depth, true⟩ }, rest)
    | '?' => cur.repeat? 0 (some 1) s
    | '*' => cur.repeat? 0 none s
    | '+' => cur.repeat? 1 none s
    | '\x7b' => cur.counted? s
    | '.' => if flags.ascii then none else some (cur.addPattern (.ofSet (dot flags)), s)
    | '^' =>
      let condition := if flags.multiLine then .lineStart flags.carriageReturns else .textStart
      some (cur.addPattern (.look condition), s)
    | '$' =>
      let condition := if flags.multiLine then .lineEnd flags.carriageReturns else .textEnd
      some (cur.addPattern (.look condition), s)
    | '\\' =>
      (escape? flags s).bind fun (atom, rest) =>
        match atom with
        | .char c byte => (cur.literal? c byte).map (·, rest)
        | .set set => some (cur.addPattern (.ofSet set), rest)
        | .look condition => some (cur.addPattern (.look condition), rest)
    | c => (cur.literal? c false).map (·, s)

/-- Read on in a text less its first `skip` characters. -/
def runFrom? (cur : Cursor) : (skip : Nat) → Chars → Option Cursor
  | _, [] => some cur
  | skip + 1, _ :: s => runFrom? cur skip s
  | 0, c :: s => (step? cur c s).bind fun (after, rest) => runFrom? after (s.length - rest.length) s

end Cursor

/-- Read a pattern that starts with the given flags. -/
def read? (flags : Flags) (text : String) : Option Pattern :=
  match Cursor.runFrom? ⟨.opened, [], flags, 0, []⟩ 0 text.toList with
  | some ⟨g, [], _, _, _⟩ =>
    let v := g.value
    if v.depth ≤ nestLimit ∧ v.pattern.fits then some v.pattern else none
  | _ => none

/-- Read a pattern for which the case of letters does not count. -/
def readIgnoringCase? (text : String) : Option Pattern := read? .ignoringCase text

end HardwareWatch.Pattern
