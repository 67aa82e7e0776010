import HardwareWatch.Text.Blank

/-!
# Whole numbers in text

Decimal and hexadecimal numerals of ASCII digits that must fit in a range. A sign `+` may stand in
front, a sign `-` only where negative numbers are in the range.

* `Chars.natural?` and `Chars.integer?` read a decimal numeral.
* `Chars.hexadecimal?` reads a hexadecimal one.
* `word64` and `word32` are the bounds of the unsigned ranges.
-/

namespace HardwareWatch

/-- The least number with no 64-bit word. -/
def word64 : Nat := Nat.pow 2 64

/-- The least number with no 32-bit word. -/
def word32 : Nat := Nat.pow 2 32

namespace Chars

/-- Whether the character is an ASCII digit. -/
def isDigit (c : Char) : Bool := 48 ≤ c.toNat && c.toNat ≤ 57

/-- The value of an ASCII digit. -/
def digitValue (c : Char) : Nat := c.toNat - 48

/-- The number written by a row of digits. -/
def digitsValue (s : Chars) : Nat := s.foldl (fun n c => 10 * n + digitValue c) 0

/-- The value of a hexadecimal digit in either case. -/
def hexValue? (c : Char) : Option Nat :=
  let n := c.toNat
  if 48 ≤ n && n ≤ 57 then some (n - 48)
  else if 97 ≤ n && n ≤ 102 then some (n - 87)
  else if 65 ≤ n && n ≤ 70 then some (n - 55)
  else none

/-- A non-empty row of digits as a number. -/
def digits? (s : Chars) : Option Nat :=
  if s != [] && s.all isDigit then some (digitsValue s) else none

/-- The text without one `+` at its start. -/
def dropPlus : Chars → Chars
  | '+' :: s => s
  | s => s

/-- A decimal numeral below `bound`. -/
def natural? (bound : Nat) (s : Chars) : Option Nat :=
  (digits? (dropPlus s)).filter (· < bound)

/-- A decimal numeral that fits in a signed 64-bit word. -/
def integer? : Chars → Option Int
  | '-' :: s => ((digits? s).filter (· ≤ Nat.pow 2 63)).map fun n => -(n : Int)
  | s => ((digits? (dropPlus s)).filter (· < Nat.pow 2 63)).map fun n => (n : Int)

/-- A hexadecimal numeral below `bound`. -/
def hexadecimal? (bound : Nat) (s : Chars) : Option Nat :=
  let digits := dropPlus s
  if digits = [] then none
  else ((digits.mapM hexValue?).map (·.foldl (16 * · + ·) 0)).filter (· < bound)

end Chars

namespace Text

/-- A decimal numeral below `bound`. -/
def natural? (bound : Nat) (s : String) : Option Nat := Chars.natural? bound s.toList

/-- A decimal numeral that fits in a signed 64-bit word. -/
def integer? (s : String) : Option Int := Chars.integer? s.toList

end Text

end HardwareWatch
