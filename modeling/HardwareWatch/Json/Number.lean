import HardwareWatch.Decimal.Text
import HardwareWatch.Json.Basic

/-!
# Numbers of JSON documents

A numeral without point and exponent is an integer when it fits in a 64-bit word, unsigned or
signed. Every other numeral is a double. Its digits are read into a word as long as they fit, and
the word is then scaled by one power of ten, so that the double may differ from the nearest one in
its last bit. A numeral beyond all doubles has no value.

* `Numeral.parse?` splits a numeral into its parts.
* `Numeral.value` is its value.
-/

namespace HardwareWatch.Json

/-- The parts of a numeral: `- whole . fraction e ± power`. -/
structure Numeral where
  negative : Bool
  whole : Chars
  fraction : Option Chars
  /-- The sign of the power and its digits. -/
  power : Option (Bool × Chars)

/-- The significand and the power of ten that are read off the digits. -/
structure Scaled where
  significand : Nat
  exponent : Int

namespace Numeral

/-- Read the power of ten after its letter. -/
def power? (s : Chars) : Option (Bool × Chars) :=
  let (negative, digits) := match s with
    | '-' :: s => (true, s)
    | '+' :: s => (false, s)
    | s => (false, s)
  if digits != [] && digits.all Chars.isDigit then some (negative, digits) else none

/-- Split a numeral into its parts. There is no zero in front of other digits, and the point and
the letter have digits after them. -/
def parse? (s : Chars) : Option Numeral := do
  let (negative, s) := match s with
    | '-' :: s => (true, s)
    | s => (false, s)
  let whole := s.takeWhile Chars.isDigit
  let rest := s.dropWhile Chars.isDigit
  guard (whole != [] && (whole.length == 1 || whole.head? != some '0'))
  let (fraction, rest) ← match rest with
    | '.' :: rest =>
      let digits := rest.takeWhile Chars.isDigit
      if digits = [] then none else some (some digits, rest.dropWhile Chars.isDigit)
    | rest => some (none, rest)
  match rest with
  | [] => some ⟨negative, whole, fraction, none⟩
  | c :: rest =>
    guard (c == 'e' || c == 'E')
    some ⟨negative, whole, fraction, some (← power? rest)⟩

/-- Read digits into the word until one does not fit. The digits that are left are counted. -/
def fill (word : Nat) : Chars → Nat × Nat
  | [] => (word, 0)
  | c :: s =>
    let next := 10 * word + Chars.digitValue c
    if next < word64 then fill next s else (word, s.length + 1)

/-- The leading digits that fit in a word. Digits of the whole part that are left raise the power
of ten, digits of the fraction that are left are dropped. -/
def scaled (n : Numeral) : Scaled :=
  let (word, left) := fill 0 n.whole
  match n.fraction with
  | none => ⟨word, left⟩
  | some digits =>
    let (word, dropped) := fill word digits
    ⟨word, left - (digits.length - dropped : Nat)⟩

/-- Scale a double by a power of ten in the table of powers up to `10 ^ 308`, in several divisions
where the power is smaller. -/
def scale : (steps : Nat) → Float → Int → Option Float
  | 0, x, _ => some x
  | steps + 1, x, e =>
    if e.natAbs ≤ 308 then
      let power := Float.ofScientific 1 false e.natAbs
      if 0 ≤ e then (some (x * power)).filter Float.isFinite else some (x / power)
    else if x == 0 then some x
    else if 0 ≤ e then none
    else scale steps (x / Float.ofScientific 1 false 308) (e + 308)

/-- The power of ten that is written, as far as it fits in 31 bits. -/
def written? (n : Numeral) : Option Int :=
  match n.power with
  | none => some 0
  | some (negative, digits) =>
    let p := Chars.digitsValue digits
    if p < Nat.pow 2 31 then some (if negative then -p else p) else none

/-- The value of a numeral that is a double. -/
def double? (n : Numeral) : Option Float :=
  let s := n.scaled
  let magnitude : Option Float :=
    match n.written? with
    | some p => scale 8 (Float.ofNat s.significand) (s.exponent + p)
    | none =>
      if s.significand != 0 && !(n.power.any (·.1)) then none else some 0
  magnitude.map fun x => if n.negative then -x else x

/-- The value of a numeral. -/
def value (n : Numeral) : Json :=
  let asDouble := match n.double? with
    | some x => Json.double x
    | none => .unreadable
  match n.fraction, n.power with
  | none, none =>
    let m := Chars.digitsValue n.whole
    if n.negative then
      if 0 < m && m ≤ Nat.pow 2 63 then .integer (-m) else asDouble
    else if m < word64 then .integer m
    else asDouble
  | _, _ => asDouble

end Numeral

end HardwareWatch.Json
