/-!
# The shortest decimal of a double

A finite double other than zero is `m · 2 ^ q`, and the decimals that read back as it are those of
an interval around it. Among the decimals with the fewest digits in that interval the nearest one
is taken. All arithmetic is exact, on natural numbers.

* `Binary` is the exact value of a finite double.
* `Binary.shortest` is its shortest decimal. Two decimals may be equally near; `Tie` says which
  one is taken.
* `Tie.up` and `Tie.even` are the two choices that writers make.
-/

namespace HardwareWatch.Decimal

/-- The exact value `± significand · 2 ^ exponent` of a finite double. -/
structure Binary where
  negative : Bool
  significand : Nat
  exponent : Int
  deriving DecidableEq, Repr

/-- The exact value of a double that is neither infinite nor undefined. -/
def Binary.ofFloat? (x : Float) : Option Binary :=
  let bits : Nat := x.toBits.toNat
  let field : Nat := bits / Nat.pow 2 52 % Nat.pow 2 11
  let fraction : Nat := bits % Nat.pow 2 52
  if field = 2047 then none
  else if field = 0 then some ⟨bits / Nat.pow 2 63 == 1, fraction, -1074⟩
  else some ⟨bits / Nat.pow 2 63 == 1, Nat.pow 2 52 + fraction, (field : Int) - 1075⟩

/-- Whether the value is a whole number. -/
def Binary.isWhole (x : Binary) : Bool :=
  x.significand * Nat.pow 2 x.exponent.toNat % Nat.pow 2 (-x.exponent).toNat == 0

/-- A decimal number `digits · 10 ^ exponent`. -/
structure Decimal where
  digits : Nat
  exponent : Int
  deriving DecidableEq, Repr

/-- Which of two equally near decimals is taken. -/
inductive Tie
  /-- The greater one. -/
  | up
  /-- The one whose last digit is even. -/
  | even
  deriving DecidableEq, Repr

/-- The quotient `m · 2 ^ q / 10 ^ k` as a fraction. -/
def scaled (m : Nat) (q k : Int) : Nat × Nat :=
  (m * Nat.pow 2 q.toNat * Nat.pow 10 (-k).toNat, Nat.pow 2 (-q).toNat * Nat.pow 10 k.toNat)

/-- The least `p`, from `p` on, with `m · 2 ^ q < 10 ^ p`, for as many steps as given. -/
def pointFrom (m : Nat) (q : Int) : Nat → Int → Int
  | 0, p => p
  | steps + 1, p =>
    let (num, den) := scaled m q p
    if num < den then p else pointFrom m q steps (p + 1)

/-- The number of digits before the decimal point, negative for zeros after it: the least `p` with
`m · 2 ^ q < 10 ^ p`. -/
def point (m : Nat) (q : Int) : Int :=
  pointFrom m q 3 (((m.log2 : Int) + q) * 30103 / 100000)

/-- The interval of the numbers that read back as `m · 2 ^ q`, in units of `2 ^ (q - 2)`. The
double below a power of two is half as far away as the one above. -/
def interval (m : Nat) (q : Int) : Nat × Nat :=
  (if m = Nat.pow 2 52 ∧ q ≠ -1074 then 4 * m - 1 else 4 * m - 2, 4 * m + 2)

/-- Whether `d · 10 ^ k` reads back as `m · 2 ^ q`. The ends of the interval do so exactly when `m`
is even. -/
def readsBack (m : Nat) (q : Int) (d : Nat) (k : Int) : Bool :=
  let (lo, hi) := interval m q
  let (loNum, den) := scaled lo (q - 2) k
  let (hiNum, _) := scaled hi (q - 2) k
  if m % 2 = 0 then loNum ≤ d * den && d * den ≤ hiNum else loNum < d * den && d * den < hiNum

/-- The decimal with step `10 ^ k` that reads back as `m · 2 ^ q` and is nearest to it. -/
def nearest? (tie : Tie) (m : Nat) (q k : Int) : Option Decimal :=
  let (num, den) := scaled m q k
  let below := num / den
  let rest := num % den
  match readsBack m q below k, readsBack m q (below + 1) k with
  | false, false => none
  | true, false => some ⟨below, k⟩
  | false, true => some ⟨below + 1, k⟩
  | true, true =>
    if 2 * rest < den then some ⟨below, k⟩
    else if 2 * rest > den then some ⟨below + 1, k⟩
    else match tie with
      | .up => some ⟨below + 1, k⟩
      | .even => some ⟨if below % 2 = 0 then below else below + 1, k⟩

/-- The first of the decimals with `used`, `used + 1`, … digits that reads back, for as many steps
as given. -/
def shortestFrom (tie : Tie) (m : Nat) (q p : Int) : (steps used : Nat) → Decimal
  | 0, used => ⟨(scaled m q (p - used)).1 / (scaled m q (p - used)).2, p - used⟩
  | steps + 1, used =>
    match nearest? tie m q (p - used) with
    | some d => d
    | none => shortestFrom tie m q p steps (used + 1)

/-- The digits without zeros at the end. -/
def Decimal.normalFrom (d : Decimal) : Nat → Decimal
  | 0 => d
  | steps + 1 =>
    if d.digits % 10 = 0 && d.digits != 0 then
      Decimal.normalFrom ⟨d.digits / 10, d.exponent + 1⟩ steps
    else d

/-- The shortest decimal that reads back as the value; of those with as many digits, the nearest.
Seventeen digits always suffice. -/
def Binary.shortest (tie : Tie) (x : Binary) : Decimal :=
  if x.significand = 0 then ⟨0, 0⟩
  else
    let p := point x.significand x.exponent
    (shortestFrom tie x.significand x.exponent p 17 1).normalFrom 17

end HardwareWatch.Decimal
