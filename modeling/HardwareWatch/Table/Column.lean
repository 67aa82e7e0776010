import HardwareWatch.Table.Basic
import HardwareWatch.Text.Numeral

/-!
# References to columns

`$n` stands for the `n`-th cell of a row, counted from one. Inside a longer text `$$` stands for a
dollar, and a reference is the longest row of digits that does not start with zero.

* `Column.parse?` reads a text that is one reference as a whole.
* `Column.substitute` replaces the references in a text; cells that are put in are not read again.
* `Operand` is a reference or a literal, resolved row by row.
-/

namespace HardwareWatch

namespace Column

/-- The number of a text that is one reference, blanks around it ignored. -/
def parse? (s : String) : Option Nat :=
  match Chars.trim s.toList with
  | '$' :: digits => ((Chars.digits? digits).filter (· < word64)).filter (0 < ·)
  | _ => none

/-- The cell with a number, counted from one. -/
def cell? (row : Row) (n : Nat) : Option String := if n = 0 then none else row[n - 1]?

/-- Whether the digits at the start of a text form the number of a column. -/
def startsNumber : Chars → Bool
  | c :: _ => Chars.isDigit c && c != '0'
  | [] => false

/-- The text less its first `skip` characters with its references replaced by the cells. A
reference beyond the row leaves nothing. -/
def substituteFrom (row : Row) : (skip : Nat) → Chars → Chars
  | _, [] => []
  | skip + 1, _ :: s => substituteFrom row skip s
  | 0, c :: s =>
    if c != '$' then c :: substituteFrom row 0 s
    else if s.head? == some '$' then '$' :: substituteFrom row 1 s
    else if startsNumber s then
      let digits := s.takeWhile Chars.isDigit
      ((cell? row (Chars.digitsValue digits)).getD "").toList ++ substituteFrom row digits.length s
    else '$' :: substituteFrom row 0 s

/-- Whether there is a reference in the text less its first `skip` characters. -/
def occursFrom : (skip : Nat) → Chars → Bool
  | _, [] => false
  | skip + 1, _ :: s => occursFrom skip s
  | 0, c :: s =>
    if c != '$' then occursFrom 0 s
    else if s.head? == some '$' then occursFrom 1 s
    else startsNumber s || occursFrom 0 s

/-- The text with every reference replaced by the cell of the row. -/
def substitute (row : Row) (text : String) : String :=
  .ofList (substituteFrom row 0 text.toList)

/-- Whether the text has a reference that is not behind an escaped dollar. -/
def occursIn (text : String) : Bool := occursFrom 0 text.toList

end Column

/-- A value given as a column or as itself. -/
inductive Operand
  | column (n : Nat)
  | literal (value : String)
  deriving DecidableEq, Repr

namespace Operand

/-- A text that is one column reference names the column, any other text is itself. -/
def parse (value : String) : Operand :=
  match Column.parse? value with
  | some n => .column n
  | none => .literal value

/-- The value for a row, missing where the row has no such column. -/
def resolve (row : Row) : Operand → Option String
  | .column n => Column.cell? row n
  | .literal value => some value

end Operand

end HardwareWatch
