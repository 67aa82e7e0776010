import HardwareWatch.Decimal.Text
import HardwareWatch.Operator.Context
import HardwareWatch.Table.Column

/-!
# Operators on numbers

Arithmetic on doubles and operations on the bits of 64-bit words. The operand is a column or a
number; a row in which one of the two numbers is missing stays as it is.

* `Arithmetic.apply` refuses to divide by zero, and `Arithmetic.onColumn` leaves the table as it is
  when the operand is neither a column nor a number.
* `readWord?` reads a whole number, also in the form of a double.
-/

namespace HardwareWatch

namespace Decimal

/-- The whole part of a finite double. -/
def truncate (x : Float) : Int :=
  match Binary.ofFloat? x with
  | none => 0
  | some b =>
    let n : Nat :=
      if 0 ≤ b.exponent then b.significand * Nat.pow 2 b.exponent.toNat
      else b.significand / Nat.pow 2 (-b.exponent).toNat
    if b.negative then -n else n

end Decimal

namespace Arithmetic

/-- The result of an operation, missing for a division by zero. -/
def apply : Arithmetic → Float → Float → Option Float
  | add, x, y => some (x + y)
  | subtract, x, y => some (x - y)
  | multiply, x, y => some (x * y)
  | divide, x, y => if y == 0 then none else some (x / y)

/-- The operand: a column or a number. -/
def operand? (value : String) : Option Operand :=
  match Operand.parse value with
  | .column n => some (.column n)
  | .literal text => (Text.number? text).map fun _ => .literal text

/-- Calculate with the numbers in a column. -/
def onColumn (op : Arithmetic) (column : Nat) (value : String) (t : Table) : Table :=
  match operand? value with
  | none => t
  | some operand =>
    t.mapColumn column fun position row cell =>
      let result := do
        op.apply (← Text.number? cell) (← Text.number? (← operand.resolve row))
      match result with
      | some x => row.set position (Decimal.amount x)
      | none => row

end Arithmetic

/-- A whole number that fits in a signed word, also in the form of a double. -/
def readWord? (s : String) : Option Int :=
  let s := Text.trim s
  (Text.integer? s).orElse fun _ =>
    ((Text.number? s).filter fun x => Decimal.isWhole x && x.abs < 9223372036854775808.0).map
      Decimal.truncate

namespace Bitwise

/-- The result of an operation on two words. -/
def apply (op : Bitwise) (x y : Int) : Int :=
  match op with
  | and => (Int64.ofInt x &&& Int64.ofInt y).toInt
  | or => (Int64.ofInt x ||| Int64.ofInt y).toInt

/-- Combine the words in a column with an operand. -/
def onColumn (op : Bitwise) (column : Nat) (value : String) (t : Table) : Table :=
  let operand := Operand.parse value
  t.mapColumn column fun position row cell =>
    match readWord? cell, (operand.resolve row).bind readWord? with
    | some x, some y => row.set position (toString (op.apply x y))
    | _, _ => row

end Bitwise

end HardwareWatch
