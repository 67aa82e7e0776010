import HardwareWatch.Operator.Arithmetic

/-!
# Translations and conversions

Replacing cells, their elements or their bits by what a translation says, and two conversions of a
cell.

* `Translation.find?` looks a value up without regard to case, with the entry `default` for all
  others.
* `translateBits` joins the translations of the listed bits of a number.
* `hexToDecimal?` and `worstState` are the conversions.
-/

namespace HardwareWatch

/-- The translation of a value, or else the default one. -/
def Translation.find? (t : Translation) (value : String) : Option String :=
  (t.get? (Text.lowercase value)).orElse fun _ => t.get? "default"

/-- Translate the cells of a column. -/
def translateColumn (ctx : OperatorContext) (column : Nat) (ref : TranslationRef) (t : Table) :
    Table :=
  match ctx.translation? ref with
  | none => t
  | some table =>
    t.mapColumn column fun position row cell =>
      match table.find? cell with
      | some value => row.put position value
      | none => row

/-- Translate the elements of a text. Elements without a translation stay, blank ones are
dropped. -/
def translateElements (table : Translation) (separator joiner text : String) : String :=
  let elements := (Text.splitOn separator text).map fun e => (table.find? e).getD e
  Text.join joiner (elements.filter fun e => !Text.isBlank e)

/-- Translate the elements of the cells of a column. -/
def translateArrayColumn (ctx : OperatorContext) (column : Nat) (ref : TranslationRef)
    (separator joiner : String) (t : Table) : Table :=
  match ctx.translation? ref with
  | none => t
  | some table =>
    if separator = "" then t
    else t.mapColumn column fun position row cell =>
      row.set position (translateElements table separator joiner cell)

/-- A comma-separated list of bit positions. -/
def bitList? (bits : String) : Option (List Nat) :=
  (Text.splitAt ',' bits).mapM fun b => (Text.natural? word32 (Text.trim b)).filter (· < 63)

/-- The bit of a number in two's complement. -/
def bitOf (n : Int) (position : Nat) : Int := (n >>> position) % 2

/-- The nearest number in the range of signed words. -/
def clampWord (n : Int) : Int := max (-(Int.pow 2 63)) (min n (Int.pow 2 63 - 1))

/-- The translations of the listed bits of a number, blank ones dropped. -/
def translateBits (table : Translation) (bits : List Nat) (n : Int) : String :=
  let values := bits.filterMap fun b => table.get? (toString b ++ "," ++ toString (bitOf n b))
  Text.join " - " (values.filter fun v => !Text.isBlank v)

/-- Replace the numbers in a column by the translations of their bits. Numbers are read as doubles
and cut off at the point. -/
def translateBitsColumn (ctx : OperatorContext) (column : Nat) (bits : String)
    (ref : TranslationRef) (t : Table) : Table :=
  match bitList? bits, ctx.translation? ref with
  | some bits, some table =>
    t.mapColumn column fun position row cell =>
      match Text.number? cell with
      | some x => row.set position (translateBits table bits (clampWord (Decimal.truncate x)))
      | none => row
  | _, _ => t

/-- The decimal form of a hexadecimal number, `0x`, colons and blanks anywhere in it ignored. -/
def hexToDecimal? (text : String) : Option String :=
  let bare := Chars.replaceAll ['0', 'X'] [] (Chars.replaceAll ['0', 'x'] [] text.toList)
  let digits := bare.filter fun c => c != ':' && !Chars.isBlank c
  (Chars.hexadecimal? word64 digits).map toString

/-- The worst of the states in a list: failed, degraded, ok. -/
def worstState (text : String) : String :=
  let states := (Text.splitBy (fun c => c == '|' || c == '\n') text).map Text.trim
  let present (state : String) : Bool := states.any (Text.sameIgnoringCase state)
  if present "failed" then "failed"
  else if present "degraded" then "degraded"
  else if present "ok" then "ok"
  else "UNKNOWN"

/-- Convert a text. -/
def Conversion.apply? : Conversion → String → Option String
  | hexToDecimal, text => hexToDecimal? text
  | worstState, text => some (HardwareWatch.worstState text)

/-- Convert the cells of a column. -/
def convertColumn (column : Nat) (conversion : Conversion) (t : Table) : Table :=
  t.mapColumn column fun position row cell =>
    match conversion.apply? cell with
    | some value => row.set position value
    | none => row

end HardwareWatch
