import HardwareWatch.Decimal.Shortest
import HardwareWatch.Text.Numeral

/-!
# Doubles in text

Doubles are written in three ways, all with the fewest digits that read back.

* `plain` never uses an exponent and writes whole numbers without a point: table cells and
  reported values.
* `amount` is the form of arithmetic results: a whole number below `10 ^ 15` has one decimal.
* `scientific` is the form of JSON documents: a point in every number of at most sixteen places,
  an exponent in all others.

`read?` reads a decimal numeral, rounded to the nearest double.
-/

namespace HardwareWatch.Decimal

/-- The digits of a number. -/
def digitChars (n : Nat) : Chars := Nat.toDigits 10 n

/-- As many zeros. -/
def zeros (n : Nat) : Chars := List.replicate n '0'

/-- The sign in front of a negative number, the negative zero included. -/
def signed (negative : Bool) (s : Chars) : Chars := if negative then '-' :: s else s

/-- The texts of the values that are not finite. -/
def unbounded (x : Float) : String :=
  if x.isNaN then "NaN" else if x < 0 then "-inf" else "inf"

/-- The decimal without an exponent. -/
def Decimal.positional (d : Decimal) : Chars :=
  let s := digitChars d.digits
  if 0 ≤ d.exponent then s ++ zeros d.exponent.toNat
  else
    let places := (-d.exponent).toNat
    if places < s.length then s.take (s.length - places) ++ '.' :: s.drop (s.length - places)
    else '0' :: '.' :: zeros (places - s.length) ++ s

/-- The fewest digits that read back, never with an exponent. Of two equally near decimals the
greater is taken. -/
def plain (x : Float) : String :=
  match Binary.ofFloat? x with
  | none => unbounded x
  | some b => .ofList (signed b.negative (b.shortest .up).positional)

/-- Whether the double is a whole number. -/
def isWhole (x : Float) : Bool := (Binary.ofFloat? x).any Binary.isWhole

/-- The plain text, with one decimal on whole numbers below `10 ^ 15`. -/
def amount (x : Float) : String :=
  if isWhole x && x.abs < 1e15 then plain x ++ ".0" else plain x

/-- The decimal with a point, or with a signed exponent when it would take more than sixteen places
or start with more than four zeros after the point. -/
def Decimal.withExponent (d : Decimal) : Chars :=
  let s := digitChars d.digits
  let point : Int := s.length + d.exponent
  if 0 ≤ d.exponent ∧ point ≤ 16 then s ++ zeros d.exponent.toNat ++ ['.', '0']
  else if 0 < point ∧ point ≤ 16 then s.take point.toNat ++ '.' :: s.drop point.toNat
  else if -5 < point ∧ point ≤ 0 then '0' :: '.' :: zeros (-point).toNat ++ s
  else
    let sign := if 0 < point then ['+'] else []
    let exponent := sign ++ (toString (point - 1)).toList
    match s with
    | [] => []
    | [c] => c :: 'e' :: exponent
    | c :: rest => c :: '.' :: rest ++ 'e' :: exponent

/-- The number of a JSON document. Of two equally near decimals the one with the even last digit is
taken, and zero has one decimal. A value that is not finite has no number there. -/
def scientific (x : Float) : String :=
  match Binary.ofFloat? x with
  | none => "null"
  | some b => .ofList (signed b.negative (b.shortest .even).withExponent)

/-- The double nearest to `± digits · 10 ^ exponent`, infinite when out of range. -/
def toFloat (negative : Bool) (digits : Nat) (exponent : Int) : Float :=
  let places : Int := (digitChars digits).length + exponent
  let x : Float :=
    if digits = 0 ∨ places < -400 then 0
    else if 400 < places then 1 / 0
    else if 0 ≤ exponent then Float.ofScientific digits false exponent.toNat
    else Float.ofScientific digits true (-exponent).toNat
  if negative then -x else x

/-- The exponent after the letter of a numeral. -/
def exponent? : Chars → Option Int
  | '-' :: s => (Chars.digits? s).map fun n => -(n : Int)
  | s => (Chars.digits? (Chars.dropPlus s)).map fun n => (n : Int)

/-- A numeral without a sign: digits with at most one point among them, at least one digit, and
possibly an exponent. -/
def unsigned? (negative : Bool) (s : Chars) : Option Float :=
  let whole := s.takeWhile Chars.isDigit
  let rest := s.dropWhile Chars.isDigit
  let (fraction, rest) := match rest with
    | '.' :: rest => (rest.takeWhile Chars.isDigit, rest.dropWhile Chars.isDigit)
    | rest => ([], rest)
  let digits := whole ++ fraction
  let value (exponent : Int) : Float :=
    toFloat negative (Chars.digitsValue digits) (exponent - fraction.length)
  if digits = [] then none
  else
    match rest with
    | [] => some (value 0)
    | c :: rest => if c = 'e' ∨ c = 'E' then (exponent? rest).map value else none

/-- The finite double nearest to a numeral, blanks around it ignored. -/
def read? (s : Chars) : Option Float :=
  let x := match Chars.trim s with
    | '-' :: s => unsigned? true s
    | '+' :: s => unsigned? false s
    | s => unsigned? false s
  x.filter Float.isFinite

end HardwareWatch.Decimal

namespace HardwareWatch.Text

/-- The finite double nearest to a numeral, blanks around it ignored. -/
def number? (s : String) : Option Float := Decimal.read? s.toList

end HardwareWatch.Text
