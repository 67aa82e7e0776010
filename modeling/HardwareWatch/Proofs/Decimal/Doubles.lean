import HardwareWatch.Operator.Arithmetic
import Mathlib

/-!
# Whole numbers in doubles

A double has 53 binary digits, so a whole number with more of them is read as a multiple of a power
of two near it.

* `Represents` is the invariant of the digits that are cut off one by one, and
  `roundWithAccuracy_eq` says what rounding makes of a number.
* `unpack_pack`: a canonical value is not changed by writing it as bits and reading it back. With it
  `Binary.ofFloat?_pack` gives the exact value of what an operation on doubles returns.
* `Holds` says that the value of a double is a whole number, and `holds_toFloat` that the numeral of
  a number is read as the one nearest to it.
* `nearest_eq_self_iff` says which numbers are read as themselves.
-/

namespace HardwareWatch.Decimal

open Float.Model Float.Model.UnpackedFloat

/-! ## Rounding -/

/-- The whole number nearest to `n / 2 ^ k`, of two equally near ones the even one. -/
def roundHalfEven (n k : Nat) : Nat :=
  let below := n / 2 ^ k
  let rest := n % 2 ^ k
  if 2 * rest < 2 ^ k then below else if 2 ^ k < 2 * rest then below + 1 else below + below % 2

theorem roundHalfEven_zero (n : Nat) : roundHalfEven n 0 = n := by
  simp [roundHalfEven, Nat.mod_one]

theorem roundHalfEven_mul_two_pow (n k j : Nat) :
    roundHalfEven (n * 2 ^ j) (k + j) = roundHalfEven n k := by
  have hj : 0 < 2 ^ j := Nat.two_pow_pos j
  unfold roundHalfEven
  rw [Nat.pow_add, Nat.mul_div_mul_right _ _ hj, Nat.mul_mod_mul_right]
  simp only [← Nat.mul_assoc, Nat.mul_lt_mul_right hj]

theorem roundHalfEven_bounds (n k : Nat) :
    n / 2 ^ k ≤ roundHalfEven n k ∧ roundHalfEven n k ≤ n / 2 ^ k + 1 := by
  unfold roundHalfEven
  dsimp only
  split_ifs <;> omega

/-- What is left of a number without its last `k` binary digits: the first of those that were cut
off is the round bit, and the sticky bit tells whether there was a one behind it. -/
structure Represents (cut : ExtendedMantissa) (n k : Nat) : Prop where
  mantissa : cut.mantissa = n / 2 ^ k
  roundBit : cut.roundBit = true ↔ 2 ^ k ≤ 2 * (n % 2 ^ k)
  stickyBit : cut.stickyBit = true ↔ 2 * (n % 2 ^ k) ≠ 0 ∧ 2 * (n % 2 ^ k) ≠ 2 ^ k

namespace Represents

variable {cut : ExtendedMantissa} {n k : Nat}

theorem exact (n : Nat) : Represents ⟨n, false, false⟩ n 0 := by
  constructor <;> simp [Nat.mod_one]

theorem shiftRightOne (h : Represents cut n k) : Represents cut.shiftRightOne n (k + 1) := by
  have hrest : n % 2 ^ k < 2 ^ k := Nat.mod_lt _ (Nat.two_pow_pos k)
  have hdigit : n % 2 ^ (k + 1) = n % 2 ^ k + 2 ^ k * (n / 2 ^ k % 2) := Nat.mod_pow_succ
  refine ⟨?_, ?_, ?_⟩
  · rw [ExtendedMantissa.shiftRightOne, h.mantissa, Nat.div_div_eq_div_mul, Nat.pow_succ]
  · rw [ExtendedMantissa.shiftRightOne, h.mantissa, hdigit, Nat.pow_succ]
    rcases Nat.mod_two_eq_zero_or_one (n / 2 ^ k) with hb | hb <;> simp [hb] <;> omega
  · rw [ExtendedMantissa.shiftRightOne, Bool.or_eq_true, h.roundBit, h.stickyBit, hdigit,
      Nat.pow_succ]
    rcases Nat.mod_two_eq_zero_or_one (n / 2 ^ k) with hb | hb <;> rw [hb] <;> omega

theorem shiftRight (n k : Nat) : Represents ((⟨n, false, false⟩ : ExtendedMantissa) >>> k) n k := by
  induction k with
  | zero => exact exact n
  | succ k ih => exact ih.shiftRightOne

theorem roundedMantissa (h : Represents cut n k) : cut.roundedMantissa = roundHalfEven n k := by
  have hrest : n % 2 ^ k < 2 ^ k := Nat.mod_lt _ (Nat.two_pow_pos k)
  obtain ⟨below, round, sticky⟩ := cut
  obtain ⟨rfl, hround, hsticky⟩ := h
  simp only at hround hsticky
  unfold roundHalfEven
  cases round <;> cases sticky <;>
    simp only [Bool.false_eq_true, false_iff, true_iff] at hround hsticky <;>
    simp only [ExtendedMantissa.roundedMantissa, ExtendedMantissa.accuracy,
      Accuracy.roundToNearestEven] <;>
    split_ifs <;> omega

end Represents

theorem targetExponent_eq (m : Nat) (e : Int) :
    Format.binary64.targetExponent (totalExponent m e) = max (m.log2 - 52 + e) (-1074) := by
  simp only [Format.targetExponent, totalExponent, Format.mantissaBits, Format.minExponent]
  norm_num
  omega

theorem shiftToTargetExponent_eq {n : Nat} {e : Int} (hn : 52 ≤ n.log2) (he : -1074 ≤ e) :
    shiftToTargetExponent Format.binary64 n e .exact =
      ((⟨n, false, false⟩ : ExtendedMantissa) >>> (n.log2 - 52), e + (n.log2 - 52 : Nat)) := by
  have hshift : (max ((n.log2 : Int) - 52 + e) (-1074) - e).toNat = n.log2 - 52 := by omega
  rw [shiftToTargetExponent, targetExponent_eq, shiftToExponent, hshift]
  rfl

theorem div_two_pow_log2 {n : Nat} (hn : 52 ≤ n.log2) :
    2 ^ 52 ≤ n / 2 ^ (n.log2 - 52) ∧ n / 2 ^ (n.log2 - 52) < 2 ^ 53 := by
  have hpos : 0 < 2 ^ (n.log2 - 52) := Nat.two_pow_pos _
  have hne : n ≠ 0 := by
    rintro rfl
    simp at hn
  rw [Nat.le_div_iff_mul_le hpos, Nat.div_lt_iff_lt_mul hpos, ← Nat.pow_add, ← Nat.pow_add,
    show 52 + (n.log2 - 52) = n.log2 by omega, show 53 + (n.log2 - 52) = n.log2 + 1 by omega]
  exact ⟨Nat.log2_self_le hne, Nat.lt_log2_self⟩

/-- A number with 53 or more binary digits is rounded to 53 of them. -/
theorem roundWithAccuracy_eq (s : Sign) {n : Nat} {e : Int} (hn : 52 ≤ n.log2) (he : -1074 ≤ e) :
    ∃ m e' hm, roundWithAccuracy Format.binary64 s n e .exact = .finite s m e' hm ∧
      2 ^ 52 ≤ m ∧ m < 2 ^ 53 ∧
      e + (n.log2 - 52 : Nat) ≤ e' ∧ e' ≤ e + (n.log2 - 52 : Nat) + 1 ∧
      (m : ℚ) * 2 ^ e' = roundHalfEven n (n.log2 - 52) * 2 ^ (e + (n.log2 - 52 : Nat)) := by
  obtain ⟨hlow, hhigh⟩ := div_two_pow_log2 hn
  have hbounds := roundHalfEven_bounds n (n.log2 - 52)
  have hfirst := (Represents.shiftRight n (n.log2 - 52)).roundedMantissa
  generalize roundHalfEven n (n.log2 - 52) = r at *
  have hlog : 52 ≤ r.log2 := (Nat.le_log2 (by omega)).2 (by omega)
  have hsecond := (Represents.shiftRight r (r.log2 - 52)).mantissa
  have hfinal := div_two_pow_log2 hlog
  have hm : r / 2 ^ (r.log2 - 52) ≠ 0 := by omega
  -- rounding up gives one digit too many only where it gives a power of two
  have hcarry : r.log2 - 52 = 0 ∨ r.log2 - 52 = 1 ∧ r = 2 ^ 53 := by
    rcases Nat.lt_or_ge r (2 ^ 53) with hlt | hge
    · have := (Nat.log2_lt (by omega)).2 hlt
      omega
    · obtain rfl : r = 2 ^ 53 := by omega
      exact .inr ⟨by rw [Nat.log2_two_pow], rfl⟩
  refine ⟨r / 2 ^ (r.log2 - 52), e + (n.log2 - 52 : Nat) + (r.log2 - 52 : Nat),
    Nat.pos_of_ne_zero hm, ?_, hfinal.1, hfinal.2, by omega, by omega, ?_⟩
  · rw [roundWithAccuracy, shiftToTargetExponent_eq hn he]
    dsimp only
    rw [hfirst, shiftToTargetExponent_eq hlog (by omega)]
    dsimp only
    simp only [hsecond, dif_neg hm]
  · rcases hcarry with hj | ⟨hj, rfl⟩
    · rw [hj]
      simp
    · rw [hj, zpow_add₀ (by norm_num)]
      norm_num
      ring

/-- A number with 53 binary digits is not changed. -/
theorem roundWithAccuracy_self (s : Sign) {m : Nat} {e : Int} (hm : m.log2 = 52)
    (he : -1074 ≤ e) :
    ∃ hpos, roundWithAccuracy Format.binary64 s m e .exact = .finite s m e hpos := by
  have hshift : shiftToTargetExponent Format.binary64 m e .exact = (⟨m, false, false⟩, e) := by
    rw [shiftToTargetExponent_eq hm.ge he, hm]
    exact congrArg _ (Int.add_zero e)
  have hne : m ≠ 0 := by
    rintro rfl
    simp at hm
  refine ⟨Nat.pos_of_ne_zero hne, ?_⟩
  rw [roundWithAccuracy, hshift]
  dsimp only
  rw [show ExtendedMantissa.roundedMantissa ⟨m, false, false⟩ = m from rfl, hshift]
  exact dif_neg hne

/-! ## Canonical values -/

/-- The value is spelled as it is in the bits of a double. -/
def Canonical : UnpackedFloat → Prop
  | .finite _ m e _ => m < 2 ^ 53 ∧ -1074 ≤ e ∧ e ≤ 971 ∧ (2 ^ 52 ≤ m ∨ e = -1074)
  | _ => True

theorem Canonical.neg {f : UnpackedFloat} (h : Canonical f) : Canonical f.neg := by
  cases f <;> exact h

theorem Canonical.abs {f : UnpackedFloat} (h : Canonical f) : Canonical f.abs := by
  cases f <;> exact h

theorem canonical_of_log2 (s : Sign) {m : Nat} {e : Int} (hpos : 0 < m) (hm : m.log2 = 52)
    (hle : -1074 ≤ e) (hge : e ≤ 971) : Canonical (.finite s m e hpos) := by
  obtain ⟨hlow, hhigh⟩ := (Nat.log2_eq_iff hpos.ne').1 hm
  exact ⟨hhigh, hle, hge, .inl hlow⟩

/-- Whether numbers with the sign are negative. -/
def isNegative : Sign → Bool
  | .negative => true
  | .positive => false

/-- The exact value, if it is finite. -/
def binary? : UnpackedFloat → Option Binary
  | .finite s m e _ => some ⟨isNegative s, m, e⟩
  | .zero s => some ⟨isNegative s, 0, -1074⟩
  | _ => none

/-- The bits of a double. -/
abbrev Bits := BitVec Format.binary64.numBits

theorem toNat_unpackMantissa (b : Bits) : (unpackMantissa b).toNat = b.toNat % 2 ^ 52 := by
  simp [unpackMantissa]

theorem toNat_unpackExponent (b : Bits) :
    (unpackExponent b).toNat = b.toNat / 2 ^ 52 % 2 ^ 11 := by
  simp [unpackExponent, Nat.shiftRight_eq_div_pow]

theorem isNegative_unpackSign (b : Bits) :
    isNegative (Sign.ofBitVec (unpackSign b)) = (b.toNat / 2 ^ 63 == 1) := by
  have hlt : b.toNat < 2 ^ 64 := b.isLt
  have hsign : (unpackSign b).toNat = b.toNat / 2 ^ 63 := by
    simp [unpackSign, Nat.shiftRight_eq_div_pow]
    omega
  rw [Sign.ofBitVec, ← hsign]
  obtain h | h : unpackSign b = 0#1 ∨ unpackSign b = 1#1 := BitVec.eq_zero_or_eq_one _ <;>
    rw [h] <;> rfl

theorem toNat_append_implicit (m : BitVec 52) : (1#1 ++ m).toNat = 2 ^ 52 + m.toNat := by
  rw [BitVec.toNat_append, ← Nat.shiftLeft_add_eq_or_of_lt m.isLt]
  simp [Nat.shiftLeft_eq]

theorem unpackExponent_eq_ones_iff (b : Bits) :
    unpackExponent b = -1#11 ↔ b.toNat / 2 ^ 52 % 2 ^ 11 = 2047 := by
  rw [← BitVec.toNat_inj, toNat_unpackExponent]
  rfl

theorem unpackExponent_eq_zero_iff (b : Bits) :
    unpackExponent b = 0#11 ↔ b.toNat / 2 ^ 52 % 2 ^ 11 = 0 := by
  rw [← BitVec.toNat_inj, toNat_unpackExponent]
  rfl

theorem unpackMantissa_eq_zero_iff (b : Bits) :
    unpackMantissa b = 0#52 ↔ b.toNat % 2 ^ 52 = 0 := by
  rw [← BitVec.toNat_inj, toNat_unpackMantissa]
  rfl

theorem binary?_unpack (b : Bits) :
    binary? (UnpackedFloat.unpack Format.binary64 b) =
      if b.toNat / 2 ^ 52 % 2 ^ 11 = 2047 then none
      else if b.toNat / 2 ^ 52 % 2 ^ 11 = 0 then
        some ⟨b.toNat / 2 ^ 63 == 1, b.toNat % 2 ^ 52, -1074⟩
      else some ⟨b.toNat / 2 ^ 63 == 1, 2 ^ 52 + b.toNat % 2 ^ 52,
        ((b.toNat / 2 ^ 52 % 2 ^ 11 : Nat) : Int) - 1075⟩ := by
  rw [UnpackedFloat.unpack, ← isNegative_unpackSign]
  dsimp only
  by_cases hones : b.toNat / 2 ^ 52 % 2 ^ 11 = 2047
  · rw [if_pos hones, if_pos ((unpackExponent_eq_ones_iff b).2 hones)]
    split <;> rfl
  rw [if_neg hones, if_neg (mt (unpackExponent_eq_ones_iff b).1 hones)]
  by_cases hzero : b.toNat / 2 ^ 52 % 2 ^ 11 = 0
  · rw [if_pos hzero, if_pos ((unpackExponent_eq_zero_iff b).2 hzero)]
    split
    · rename_i h
      rw [(unpackMantissa_eq_zero_iff b).1 h, binary?]
    · rw [(unpackExponent_eq_zero_iff b).2 hzero, binary?, toNat_unpackMantissa]
      rfl
  · rw [if_neg hzero, if_neg (mt (unpackExponent_eq_zero_iff b).1 hzero), binary?,
      toNat_append_implicit, toNat_unpackMantissa, toNat_unpackExponent]
    rfl

theorem canonical_unpack (b : Bits) : Canonical (UnpackedFloat.unpack Format.binary64 b) := by
  have hfield : b.toNat / 2 ^ 52 % 2 ^ 11 < 2 ^ 11 := Nat.mod_lt _ (by decide)
  have hfraction : b.toNat % 2 ^ 52 < 2 ^ 52 := Nat.mod_lt _ (by decide)
  rw [UnpackedFloat.unpack]
  dsimp only
  split_ifs with hones hinfinite hzero hnone
  · trivial
  · trivial
  · trivial
  · rw [hzero]
    exact ⟨by rw [toNat_unpackMantissa]; omega, by decide, by decide, .inr rfl⟩
  · rw [unpackExponent_eq_ones_iff] at hones
    rw [unpackExponent_eq_zero_iff] at hzero
    have hbias : (Format.binary64.exponentBias : Int) = 1023 := rfl
    simp only [Canonical, toNat_append_implicit, toNat_unpackExponent, toNat_unpackMantissa, hbias]
    refine ⟨?_, ?_, ?_, ?_⟩ <;> omega

theorem ofNat_ne_ofNat {width a b : Nat} (ha : a < 2 ^ width) (hb : b < 2 ^ width) (h : a ≠ b) :
    BitVec.ofNat width a ≠ BitVec.ofNat width b := by
  rwa [Ne, ← BitVec.toNat_inj, BitVec.toNat_ofNat, BitVec.toNat_ofNat, Nat.mod_eq_of_lt ha,
    Nat.mod_eq_of_lt hb]

/-- The exponent is written only in front of 53 digits. -/
theorem pack_finite (s : Sign) {m : Nat} {e : Int} (hm : 0 < m) (hlt : m < 2 ^ 53)
    (hle : -1074 ≤ e) (hge : e ≤ 971) :
    UnpackedFloat.pack Format.binary64 (.finite s m e hm) =
      if 2 ^ 52 ≤ m then packComponents Format.binary64 s (.ofNat 11 (e + 1075).toNat) (.ofNat 52 m)
      else packComponents Format.binary64 s 0#11 (.ofNat 52 m) := by
  have hdigits : m.log2 + 1 = Format.binary64.mantissaBits ↔ 2 ^ 52 ≤ m := by
    rw [show Format.binary64.mantissaBits = 53 from rfl, ← Nat.le_log2 hm.ne']
    have := (Nat.log2_lt hm.ne').2 hlt
    omega
  have hfield : e + Format.binary64.exponentBias + Format.binary64.mantissaBitsWithoutImplicit =
      e + 1075 := by
    rw [Int.add_assoc]
    rfl
  rw [UnpackedFloat.pack]
  dsimp only
  rw [hfield, if_neg (by omega)]
  simp only [hdigits]

/-- A canonical value is read back from its bits. -/
theorem unpack_pack {f : UnpackedFloat} (h : Canonical f) :
    UnpackedFloat.unpack Format.binary64 (UnpackedFloat.pack Format.binary64 f) = f := by
  cases f with
  | infinity s => cases s <;> rfl
  | notANumber => rfl
  | zero s => cases s <;> rfl
  | finite s m e hm =>
    obtain ⟨hlt, hle, hge, hnormal⟩ := h
    rw [pack_finite s hm hlt hle hge]
    split_ifs with hn
    all_goals
      simp only [UnpackedFloat.unpack, unpackMantissa_packComponents,
        unpackExponent_packComponents, unpackSign_packComponents, Sign.ofBitVec_toBitVec]
    · have hones : BitVec.ofNat 11 (e + 1075).toNat ≠ -1#11 :=
        ofNat_ne_ofNat (b := 2047) (by omega) (by decide) (by omega)
      have hzero : BitVec.ofNat 11 (e + 1075).toNat ≠ 0#11 :=
        ofNat_ne_ofNat (by omega) (by decide) (by omega)
      rw [if_neg hones, if_neg hzero]
      congr 1
      · rw [toNat_append_implicit, BitVec.toNat_ofNat]
        omega
      · rw [BitVec.toNat_ofNat, show (Format.binary64.exponentBias : Int) = 1023 from rfl]
        omega
    · have hzero : BitVec.ofNat 52 m ≠ 0#52 := ofNat_ne_ofNat (by omega) (by decide) hm.ne'
      rw [if_neg (by decide), if_pos trivial, dif_neg hzero]
      congr 1
      · rw [BitVec.toNat_ofNat]
        omega
      · exact (hnormal.resolve_left hn).symm

namespace Binary

theorem ofFloat?_eq (x : Float) : ofFloat? x = binary? x.toModel.unpack :=
  (binary?_unpack x.toModel.toBits.toBitVec).symm

theorem ofFloat?_pack {f : UnpackedFloat} (h : Canonical f) :
    ofFloat? (.ofModel (.pack f)) = binary? f := by
  rw [ofFloat?_eq]
  exact congrArg binary? (unpack_pack h)

theorem ofFloat?_neg (x : Float) :
    ofFloat? (-x) = (ofFloat? x).map fun b => { b with negative := !b.negative } := by
  have hneg (f : UnpackedFloat) :
      binary? f.neg = (binary? f).map fun b => { b with negative := !b.negative } := by
    rcases f with s | _ | s | ⟨s, m, e, hm⟩ <;> try rfl
    all_goals cases s <;> rfl
  rw [ofFloat?_eq x, ← hneg]
  exact ofFloat?_pack (canonical_unpack _).neg

theorem isFinite_eq (x : Float) : x.isFinite = (ofFloat? x).isSome := by
  rw [ofFloat?_eq, Float.isFinite, Float.Model.isFinite]
  cases x.toModel.unpack <;> rfl

theorem value_eq_iff {b : Binary} {n : Nat} :
    (b.significand : ℚ) * 2 ^ b.exponent = n ↔
      b.significand * 2 ^ b.exponent.toNat = n * 2 ^ (-b.exponent).toNat := by
  obtain ⟨negative, m, e⟩ := b
  obtain ⟨k, rfl | rfl⟩ := e.eq_nat_or_neg
  · simp only [zpow_natCast, Int.toNat_natCast, Int.toNat_neg_natCast, pow_zero, mul_one]
    exact_mod_cast Iff.rfl
  · simp only [zpow_neg, zpow_natCast, neg_neg, Int.toNat_natCast, Int.toNat_neg_natCast, pow_zero,
      mul_one]
    rw [mul_inv_eq_iff_eq_mul₀ (by positivity)]
    exact_mod_cast Iff.rfl

end Binary

/-! ## The whole part -/

/-- The value of the double is `n`, or `-n` where it is negative. -/
def Holds (x : Float) (negative : Bool) (n : Nat) : Prop :=
  ∃ b, Binary.ofFloat? x = some b ∧ b.negative = negative ∧
    (b.significand : ℚ) * 2 ^ b.exponent = n

theorem truncate_eq {x : Float} {b : Binary} (h : Binary.ofFloat? x = some b) :
    truncate x =
      let n := b.significand * 2 ^ b.exponent.toNat / 2 ^ (-b.exponent).toNat
      if b.negative then -(n : Int) else n := by
  have hwhole : (if 0 ≤ b.exponent then b.significand * Nat.pow 2 b.exponent.toNat
      else b.significand / Nat.pow 2 (-b.exponent).toNat) =
        b.significand * 2 ^ b.exponent.toNat / 2 ^ (-b.exponent).toNat := by
    split_ifs with he
    · rw [show (-b.exponent).toNat = 0 by omega, Nat.pow_zero, Nat.div_one]
      rfl
    · rw [show b.exponent.toNat = 0 by omega, Nat.pow_zero, Nat.mul_one]
      rfl
  rw [truncate, h]
  dsimp only
  rw [hwhole]

/-- A double is a whole number if its value is one. -/
theorem isWhole_iff {x : Float} : isWhole x = true ↔ ∃ negative n, Holds x negative n := by
  rw [isWhole, Option.any_eq_true]
  constructor
  · rintro ⟨b, hb, hwhole⟩
    obtain ⟨n, hn⟩ := Nat.dvd_of_mod_eq_zero (beq_iff_eq.1 hwhole)
    exact ⟨_, n, b, hb, rfl, Binary.value_eq_iff.2 (hn.trans (Nat.mul_comm _ _))⟩
  · rintro ⟨_, n, b, hb, -, hn⟩
    have hwhole : _ = n * Nat.pow 2 _ := Binary.value_eq_iff.1 hn
    refine ⟨b, hb, ?_⟩
    rw [Binary.isWhole, beq_iff_eq]
    exact Nat.mod_eq_zero_of_dvd ⟨n, hwhole.trans (Nat.mul_comm _ _)⟩

namespace Holds

variable {x : Float} {negative : Bool} {n : Nat}

theorem neg (h : Holds x negative n) : Holds (-x) (!negative) n := by
  obtain ⟨b, hb, rfl, hn⟩ := h
  exact ⟨{ b with negative := !b.negative }, by rw [Binary.ofFloat?_neg, hb]; rfl, rfl, hn⟩

theorem isFinite (h : Holds x negative n) : x.isFinite = true := by
  obtain ⟨b, hb, -⟩ := h
  rw [Binary.isFinite_eq, hb, Option.isSome_some]

theorem truncate (h : Holds x negative n) :
    truncate x = if negative then -(n : Int) else n := by
  obtain ⟨b, hb, rfl, hn⟩ := h
  rw [truncate_eq hb, Binary.value_eq_iff.1 hn, Nat.mul_div_cancel _ (Nat.two_pow_pos _)]

end Holds

theorem wholePart_lt {m : Nat} {e : Int} (hm : m < 2 ^ 53) (h : e < 11 ∨ e = 11 ∧ m < 2 ^ 52) :
    m * 2 ^ e.toNat / 2 ^ (-e).toNat < 2 ^ 63 := by
  refine (Nat.div_le_self _ _).trans_lt ?_
  rcases h with he | ⟨rfl, hm52⟩
  · calc m * 2 ^ e.toNat < 2 ^ 53 * 2 ^ e.toNat :=
          Nat.mul_lt_mul_of_pos_right hm (Nat.two_pow_pos _)
      _ ≤ 2 ^ 53 * 2 ^ 10 := Nat.mul_le_mul_left _ (Nat.pow_le_pow_right (by decide) (by omega))
  · exact Nat.mul_lt_mul_of_pos_right hm52 (Nat.two_pow_pos _)

theorem natAbs_truncate_lt {x : Float} (h : x.abs < 9223372036854775808.0) :
    (truncate x).natAbs < 2 ^ 63 := by
  have hlt : x.abs.toModel.unpack.lt (9223372036854775808.0 : Float).toModel.unpack = true :=
    of_decide_eq_true h
  have hbound : (9223372036854775808.0 : Float).toModel.unpack =
      .finite .positive (2 ^ 52) 11 (by decide) := by rfl
  have habs : x.abs.toModel.unpack = x.toModel.unpack.abs := unpack_pack (canonical_unpack _).abs
  have hcanonical : Canonical x.toModel.unpack := canonical_unpack _
  have hb := Binary.ofFloat?_eq x
  rw [habs, hbound] at hlt
  cases hx : x.toModel.unpack with
  | infinity s =>
    rw [truncate, hb, hx]
    exact Nat.two_pow_pos 63
  | notANumber =>
    rw [truncate, hb, hx]
    exact Nat.two_pow_pos 63
  | zero s =>
    rw [hx] at hb
    rw [truncate_eq hb, Nat.zero_mul, Nat.zero_div]
    dsimp only
    split_ifs <;> decide
  | finite s m e hm =>
    rw [hx] at hb hlt hcanonical
    have hcompare : (compare e 11).then (compare m (2 ^ 52)) = .lt := by
      simpa [UnpackedFloat.lt, UnpackedFloat.abs, UnpackedFloat.compare] using hlt
    rw [Ordering.then_eq_lt, Int.compare_eq_lt, Int.compare_eq_eq, Nat.compare_eq_lt] at hcompare
    have hwhole := wholePart_lt hcanonical.1 hcompare
    rw [truncate_eq hb]
    dsimp only
    split_ifs
    · rwa [Int.natAbs_neg, Int.natAbs_natCast]
    · rwa [Int.natAbs_natCast]

/-! ## Numerals -/

/-- The multiple of a power of two that is nearest to a number, such that 53 binary digits stand
before the zeros of the power. -/
def nearest (n : Nat) : Nat := roundHalfEven n (n.log2 - 52) * 2 ^ (n.log2 - 52)

theorem nearest_eq_self_iff {n : Nat} : nearest n = n ↔ 2 ^ (n.log2 - 52) ∣ n := by
  constructor
  · exact fun h => ⟨_, h.symm.trans (Nat.mul_comm _ _)⟩
  · rintro ⟨a, ha⟩
    have hround := roundHalfEven_mul_two_pow a 0 (n.log2 - 52)
    rw [Nat.mul_comm a, ← ha, Nat.zero_add, roundHalfEven_zero] at hround
    rw [nearest, hround, Nat.mul_comm, ← ha]

theorem log2_mul_two_pow {n : Nat} (hn : n ≠ 0) (j : Nat) : (n * 2 ^ j).log2 = n.log2 + j := by
  rw [Nat.log2_eq_iff (by positivity), Nat.pow_add, show n.log2 + j + 1 = n.log2 + 1 + j by omega,
    Nat.pow_add 2 (n.log2 + 1)]
  exact ⟨Nat.mul_le_mul_right _ (Nat.log2_self_le hn),
    Nat.mul_lt_mul_of_pos_right Nat.lt_log2_self (Nat.two_pow_pos j)⟩

/-- Zeros behind the digits of a number do not change what it is rounded to. -/
theorem roundHalfEven_shifted {n j : Nat} (hj : 52 ≤ n.log2 + j) :
    (roundHalfEven (n * 2 ^ j) (n.log2 + j - 52) : ℚ) *
      2 ^ (-(j : ℤ) + (n.log2 + j - 52 : Nat)) = nearest n := by
  rw [nearest]
  rcases Nat.le_total 52 n.log2 with hlog | hlog
  · rw [show n.log2 + j - 52 = n.log2 - 52 + j by omega, roundHalfEven_mul_two_pow,
      show -(j : ℤ) + (n.log2 - 52 + j : Nat) = (n.log2 - 52 : Nat) by omega]
    push_cast
    rw [zpow_natCast]
  · obtain ⟨k, rfl⟩ : ∃ k, j = 52 - n.log2 + k := ⟨j - (52 - n.log2), by omega⟩
    rw [show n.log2 + (52 - n.log2 + k) - 52 = 0 + k by omega, Nat.pow_add, ← Nat.mul_assoc,
      roundHalfEven_mul_two_pow, Nat.sub_eq_zero_of_le hlog, roundHalfEven_zero,
      roundHalfEven_zero,
      show -((52 - n.log2 + k : Nat) : ℤ) + (0 + k : Nat) = -(52 - n.log2 : Nat) by omega]
    push_cast
    rw [zpow_neg, zpow_natCast]
    field_simp

variable {n : Nat}

theorem holds_roundWithAccuracy {j : Nat} (hn : n < 2 ^ 64) (h0 : n ≠ 0) (hj : 52 ≤ n.log2 + j)
    (hj' : j ≤ 1074) :
    Holds (.ofModel (.pack (roundWithAccuracy Format.binary64 .positive (n * 2 ^ j) (-j) .exact)))
      false (nearest n) := by
  have hlog := log2_mul_two_pow h0 j
  have hlt : n.log2 < 64 := (Nat.log2_lt h0).2 hn
  obtain ⟨m, e, hm, heq, hlow, hhigh, hle, hge, hvalue⟩ :=
    @roundWithAccuracy_eq .positive (n * 2 ^ j) (-j) (by omega) (by omega)
  rw [heq]
  exact ⟨_, Binary.ofFloat?_pack ⟨hhigh, by omega, by omega, .inl hlow⟩, rfl,
    by rw [hvalue, hlog, roundHalfEven_shifted hj]⟩

theorem toFloat_eq (h0 : n ≠ 0) (hn : n < 2 ^ 53) :
    ∃ hpos, n.toUInt64.toFloat =
      .ofModel (.pack (.finite .positive (n * 2 ^ (52 - n.log2)) (-(52 - n.log2 : Nat)) hpos)) := by
  have hlog : n.log2 ≤ 52 := Nat.le_of_lt_succ ((Nat.log2_lt h0).2 hn)
  have htoNat : n.toUInt64.toNat = n := Nat.mod_eq_of_lt (by omega)
  have htarget : (0 - max ((n.log2 : Int) - 52 + 0) (-1074)).toNat = 52 - n.log2 := by omega
  have hcompare : compare (n : Int) 0 = .gt := Int.compare_eq_gt.2 (by omega)
  obtain ⟨hpos, hself⟩ :=
    @roundWithAccuracy_self .positive (n * 2 ^ (52 - n.log2)) (-(52 - n.log2 : Nat))
      (by rw [log2_mul_two_pow h0]; omega) (by omega)
  refine ⟨hpos, ?_⟩
  rw [UInt64.toFloat, Float.Model.ofUInt64, UnpackedFloat.ofUInt64, htoNat, UnpackedFloat.ofNat,
    UnpackedFloat.ofInt, UnpackedFloat.normalize, hcompare]
  dsimp only
  rw [Int.toNat_natCast, UnpackedFloat.round, targetExponent_eq, decreaseExponent, htarget,
    Nat.shiftLeft_eq, Int.zero_sub]
  exact congrArg _ (congrArg _ hself)

theorem toFloat_mul_one (h0 : n ≠ 0) (hn : n < 2 ^ 53) :
    n.toUInt64.toFloat * Float.exactlyRepresentablePowersOfTen[0] =
      .ofModel (.pack (roundWithAccuracy Format.binary64 .positive
        (n * 2 ^ (52 - n.log2 + 52)) (-(52 - n.log2 + 52 : Nat)) .exact)) := by
  have hlog : n.log2 ≤ 52 := Nat.le_of_lt_succ ((Nat.log2_lt h0).2 hn)
  obtain ⟨hpos, hfloat⟩ := toFloat_eq h0 hn
  have hunpack : (Float.Model.pack (.finite .positive (n * 2 ^ (52 - n.log2))
      (-(52 - n.log2 : Nat)) hpos)).unpack = _ :=
    unpack_pack (canonical_of_log2 _ _ (by rw [log2_mul_two_pow h0]; omega) (by omega) (by omega))
  have hone : Float.exactlyRepresentablePowersOfTen[0].toModel.unpack =
      .finite .positive (2 ^ 52) (-52) (by decide) := rfl
  rw [hfloat]
  change Float.ofModel (.pack (UnpackedFloat.mul _ (Float.Model.unpack _) (Float.Model.unpack _))) = _
  rw [hunpack, hone, UnpackedFloat.mul, Nat.pow_add, ← Nat.mul_assoc,
    show -((52 - n.log2 : Nat) : Int) + -52 = -(52 - n.log2 + 52 : Nat) by omega]
  rfl

theorem ofScientific_eq (h0 : n ≠ 0) :
    UnpackedFloat.ofScientific Format.binary64 n 0 =
      roundWithAccuracy Format.binary64 .positive (n * 2 ^ 53) (-(53 : Nat)) .exact := by
  have hpow : (0 : Int) ≤ 2 ^ Format.binary64.exponentBits + n.log2 := by positivity
  rw [UnpackedFloat.ofScientific, dif_neg h0, if_neg (by decide), if_neg (by omega),
    if_pos (by decide), UnpackedFloat.mul, Nat.shiftLeft_eq]
  exact congrArg₂ (roundWithAccuracy _ _ · · _) (Nat.mul_one _) rfl

theorem holds_ofScientific (hn : n < 2 ^ 64) (h0 : n ≠ 0) :
    Holds (Float.ofScientific n false 0) false (nearest n) := by
  rw [Float.ofScientific]
  by_cases h : n < 2 ^ 53 ∧ 0 ≤ 22
  · rw [dif_pos h, if_neg (by decide)]
    have hlog : n.log2 ≤ 52 := Nat.le_of_lt_succ ((Nat.log2_lt h0).2 h.1)
    exact toFloat_mul_one h0 h.1 ▸ holds_roundWithAccuracy hn h0 (by omega) (by omega)
  · rw [dif_neg h, if_neg (by decide)]
    have hslow := @holds_roundWithAccuracy n 53 hn h0 (by omega) (by omega)
    rwa [← ofScientific_eq h0] at hslow

/-- The numeral of a number is read as the multiple of a power of two that is nearest to it. -/
theorem holds_toFloat (negative : Bool) (hn : n < 2 ^ 64) :
    Holds (toFloat negative n 0) negative (nearest n) := by
  have hplaces : (digitChars n).length ≤ 20 := Nat.toDigits_length _ _ _ (by decide) (by omega)
  have hpositive : Holds (toFloat false n 0) false (nearest n) := by
    by_cases h0 : n = 0
    · subst h0
      exact ⟨⟨false, 0, -1074⟩, by decide, rfl, by simp [nearest, roundHalfEven]⟩
    · simp only [toFloat, Bool.false_eq_true, if_false]
      rw [if_neg (by omega), if_neg (by omega), if_pos (by decide)]
      exact holds_ofScientific hn h0
  cases negative with
  | false => exact hpositive
  | true => exact hpositive.neg

end HardwareWatch.Decimal
