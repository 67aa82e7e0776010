import HardwareWatch.Pattern.Basic

/-!
# Flags and escapes of patterns

Flags change what a pattern means from where they stand to the end of the group. A backslash starts
an escape: a character by its number, a set of characters by its letter or name, a condition, or a
character that would mean something else.

* `Pattern.Flags` are the flags, `Flags.update?` reads a list of them.
* `Pattern.escape?` reads an escape.
-/

namespace HardwareWatch.Pattern

/-- What the flags say. -/
structure Flags where
  ignoreCase : Bool
  multiLine : Bool
  dotMatchesAll : Bool
  /-- Greedy and lazy repetition change places, which makes no difference here. -/
  swapGreed : Bool
  /-- Classes and words are those of ASCII. -/
  ascii : Bool
  carriageReturns : Bool
  /-- Blanks and comments in the pattern do not count. -/
  verbose : Bool

namespace Flags

/-- The flags of a pattern without flags. -/
def none : Flags := ⟨false, false, false, false, false, false, false⟩

/-- The flags of a pattern that is read without regard to case. -/
def ignoringCase : Flags := { none with ignoreCase := true }

/-- Switch the flag with a letter. -/
def switch? (flags : Flags) (on : Bool) : Char → Option Flags
  | 'i' => some { flags with ignoreCase := on }
  | 'm' => some { flags with multiLine := on }
  | 's' => some { flags with dotMatchesAll := on }
  | 'U' => some { flags with swapGreed := on }
  | 'u' => some { flags with ascii := !on }
  | 'R' => some { flags with carriageReturns := on }
  | 'x' => some { flags with verbose := on }
  | _ => Option.none

/-- Switch the flags of a list on, and off behind a hyphen. -/
def switchAll? (flags : Flags) (on : Bool) : Chars → Option Flags
  | [] => some flags
  | '-' :: s => switchAll? flags false s
  | c :: s => (flags.switch? on c).bind fun flags => flags.switchAll? on s

/-- The flags after a list of flags, in which no letter may be repeated and no hyphen be last. -/
def update? (flags : Flags) (letters : Chars) : Option Flags :=
  if letters.Nodup ∧ letters.getLast? ≠ some '-' then flags.switchAll? true letters
  else Option.none

/-- The text without the blanks and comments at its start, inside a comment or not. -/
def dropComments (comment : Bool) : Chars → Chars
  | [] => []
  | c :: s =>
    if comment then dropComments (c != '\n') s
    else if Chars.isBlank c then dropComments false s
    else if c = '#' then dropComments true s
    else c :: s

/-- The text without what does not count at its start. -/
def gap (flags : Flags) (s : Chars) : Chars := if flags.verbose then dropComments false s else s

/-- The characters that count at the start of the text as long as they fulfil a condition, inside a
comment or not, and what follows them. -/
def spanFrom (p : Char → Bool) (verbose comment : Bool) : Chars → Chars × Chars
  | [] => ([], [])
  | c :: s =>
    if comment then spanFrom p verbose (c != '\n') s
    else if verbose && Chars.isBlank c then spanFrom p verbose false s
    else if verbose && c == '#' then spanFrom p verbose true s
    else if p c then
      let (read, rest) := spanFrom p verbose false s
      (c :: read, rest)
    else ([], c :: s)

/-- The characters that count at the start of the text as long as they fulfil a condition, and what
follows them. -/
def span (flags : Flags) (p : Char → Bool) (s : Chars) : Chars × Chars :=
  spanFrom p flags.verbose false s

/-- The characters that count up to a closing brace, and what follows it. -/
def braced? (flags : Flags) (s : Chars) : Option (Chars × Chars) :=
  match flags.span (· != '\x7d') s with
  | (content, _ :: rest) => some (content, rest)
  | (_, []) => Option.none

/-- The set with all characters that differ in case only, where case does not count. -/
def fold (flags : Flags) (set : CharSet) : CharSet :=
  if flags.ignoreCase then
    if flags.ascii then set.ignoreAsciiCase else set.ignoreCase
  else set

/-- The set, or the characters outside it. With the words of ASCII nothing else may be left in. -/
def finish? (flags : Flags) (negated : Bool) (set : CharSet) : Option CharSet :=
  let set := if negated then set.compl else set
  if flags.ascii && set.has '\x80' then Option.none else some set

end Flags

/-- What an escape stands for. -/
inductive Atom
  /-- A character; `byte` says that it was given by two hexadecimal digits. -/
  | char (c : Char) (byte : Bool)
  | set (s : CharSet)
  | look (condition : Look)

/-- The character with a number. -/
def character? (n : Nat) : Option Char := if n.isValidChar then some (Char.ofNat n) else none

/-- The number of exactly `n` hexadecimal digits. -/
def hexDigits? (flags : Flags) : (n : Nat) → (value : Nat) → Chars → Option (Nat × Chars)
  | 0, value, s => some (value, s)
  | n + 1, value, s =>
    match flags.gap s with
    | c :: s => (Chars.hexValue? c).bind fun d => hexDigits? flags n (16 * value + d) s
    | [] => none

/-- A character by its number: `n` digits, or any number of them in braces. -/
def numbered? (flags : Flags) (n : Nat) (s : Chars) : Option (Atom × Chars) :=
  match flags.gap s with
  | '\x7b' :: s => do
    let (digits, rest) ← flags.braced? s
    if digits.all fun c => (Chars.hexValue? c).isSome then
      let value ← Chars.hexadecimal? word32 digits
      (character? value).map fun c => (.char c false, rest)
    else none
  | s => do
    let (value, rest) ← hexDigits? flags n 0 s
    (character? value).map fun c => (.char c (n = 2), rest)

/-- The set of a name in braces, possibly with a property in front, and whether it is negated. -/
def namedSet? (name : Chars) : Option (CharSet × Bool) :=
  match Chars.breakOn? "!=".toList name with
  | some (property, value) => (CharSet.ofValue? property value).map (·, true)
  | none =>
    match (Chars.breakOn? [':'] name).orElse fun _ => Chars.breakOn? ['='] name with
    | some (property, value) => (CharSet.ofValue? property value).map (·, false)
    | none => (CharSet.ofName? name).map (·, false)

/-- A set by the name of a property or category. -/
def propertySet? (flags : Flags) (negated : Bool) (s : Chars) : Option (Atom × Chars) := do
  let (name, rest) ← match flags.gap s with
    | '\x7b' :: s => flags.braced? s
    | '\\' :: _ => none
    | c :: s => some ([c], s)
    | [] => none
  let (set, negative) ← namedSet? name
  if flags.ascii then none
  else some (.set (if negated != negative then (flags.fold set).compl else flags.fold set), rest)

/-- A set by its letter. -/
def letterSet? (flags : Flags) (negated : Bool) (ascii unicode : CharSet) (s : Chars) :
    Option (Atom × Chars) :=
  (flags.finish? negated (if flags.ascii then ascii else unicode)).map fun set => (.set set, s)

/-- Whether the character may stand in the name of a condition. -/
def inConditionName (c : Char) : Bool := c.isAlpha || c == '-'

/-- The condition behind `\b`, which may have a name in braces. -/
def edge? (flags : Flags) (s : Chars) : Option (Atom × Chars) :=
  let plain := some (.look (.wordEdge flags.ascii), s)
  match s with
  | '\x7b' :: inner =>
    match flags.gap inner with
    | [] => none
    | c :: _ =>
      if !inConditionName c then plain
      else
        (flags.braced? inner).bind fun (name, rest) =>
          match String.ofList name with
          | "start" => some (.look (.wordStart flags.ascii), rest)
          | "end" => some (.look (.wordEnd flags.ascii), rest)
          | "start-half" => some (.look (.noWordBefore flags.ascii), rest)
          | "end-half" => some (.look (.noWordAfter flags.ascii), rest)
          | _ => none
  | _ => plain

/-- Read what follows a backslash. -/
def escape? (flags : Flags) : Chars → Option (Atom × Chars)
  | [] => none
  | c :: s =>
    match c with
    | 'x' => numbered? flags 2 s
    | 'u' => numbered? flags 4 s
    | 'U' => numbered? flags 8 s
    | 'p' => propertySet? flags false s
    | 'P' => propertySet? flags true s
    | 'd' => letterSet? flags false .asciiDigit .decimalDigit s
    | 'D' => letterSet? flags true .asciiDigit .decimalDigit s
    | 's' => letterSet? flags false .asciiBlank .whiteSpace s
    | 'S' => letterSet? flags true .asciiBlank .whiteSpace s
    | 'w' => letterSet? flags false .asciiWord .word s
    | 'W' => letterSet? flags true .asciiWord .word s
    | 'a' => some (.char '\x07' false, s)
    | 'f' => some (.char '\x0c' false, s)
    | 't' => some (.char '\t' false, s)
    | 'n' => some (.char '\n' false, s)
    | 'r' => some (.char '\r' false, s)
    | 'v' => some (.char '\x0b' false, s)
    | 'A' => some (.look .textStart, s)
    | 'z' => some (.look .textEnd, s)
    | 'b' => edge? flags s
    | 'B' => some (.look (.noWordEdge flags.ascii), s)
    | '<' => some (.look (.wordStart flags.ascii), s)
    | '>' => some (.look (.wordEnd flags.ascii), s)
    | c => if c.isAlphanum || 0x80 ≤ c.toNat then none else some (.char c false, s)

end HardwareWatch.Pattern
