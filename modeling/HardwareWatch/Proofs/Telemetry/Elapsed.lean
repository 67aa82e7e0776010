import HardwareWatch.Proofs.Telemetry.Recording
import Mathlib

/-!
# Elapsed time

The seconds between two instants are a double, rounded and possibly infinite. They are never more
than nothing unless the second instant is the later one. Only the sign of a double decides that, and
rounding keeps the sign of what is rounded.

* `HasSign` says of a double that it is a number, possibly infinite, with a sign. It has a rule for
  every operation of which elapsed time is made: a natural number, its negation and a quotient.
* `Instant.lt_of_secondsBetween` is the result.
-/

namespace HardwareWatch

open Float.Model Float.Model.UnpackedFloat

/-! ## Numbers with a sign -/

/-- A number with a sign: an infinity, a zero or a finite one. -/
inductive HasSign (s : Sign) : UnpackedFloat → Prop
  | infinity : HasSign s (.infinity s)
  | zero : HasSign s (.zero s)
  | finite (mantissa : Nat) (exponent : Int) (h : 0 < mantissa) :
    HasSign s (.finite s mantissa exponent h)

namespace HasSign

variable {s : Sign} {x : UnpackedFloat} {format : Format}

/-- Components with an exponent that is not reserved, or with an empty mantissa, are a number. -/
theorem unpack_packComponents (exponent : BitVec format.exponentBits)
    (mantissa : BitVec format.mantissaBitsWithoutImplicit)
    (h : exponent = -1#_ → mantissa = 0#_) :
    HasSign s (UnpackedFloat.unpack format (packComponents format s exponent mantissa)) := by
  simp only [UnpackedFloat.unpack, unpackMantissa_packComponents, unpackExponent_packComponents,
    unpackSign_packComponents, Sign.ofBitVec_toBitVec]
  split
  · rename_i he
    rw [if_pos (h he)]
    exact .infinity
  · split
    · split
      · exact .zero
      · exact .finite ..
    · exact .finite ..

/-- The encoding keeps the sign. -/
theorem unpack_pack (h : HasSign s x) :
    HasSign s (UnpackedFloat.unpack format (UnpackedFloat.pack format x)) := by
  cases h with
  | infinity => exact unpack_packComponents _ _ fun _ => rfl
  | zero => exact unpack_packComponents _ _ fun _ => rfl
  | finite m e hm =>
    rw [UnpackedFloat.pack]
    split
    · exact unpack_packComponents _ _ fun _ => rfl
    · rename_i hexponent
      split
      · -- The exponent is too small to be the reserved one.
        refine unpack_packComponents _ _ fun he => ?_
        have hvalue := congrArg BitVec.toNat he
        rw [BitVec.neg_one_eq_allOnes, BitVec.toNat_allOnes, BitVec.toNat_ofNat,
          Nat.mod_eq_of_lt (by omega)] at hvalue
        omega
      · refine unpack_packComponents _ _ fun he => ?_
        have hvalue := congrArg BitVec.toNat he
        have hbits := Nat.one_lt_two_pow (Nat.pos_iff_ne_zero.1 format.he)
        rw [BitVec.neg_one_eq_allOnes, BitVec.toNat_allOnes, BitVec.toNat_ofNat,
          Nat.zero_mod] at hvalue
        omega

theorem roundWithAccuracy (mantissa : Nat) (exponent : Int) (accuracy : Accuracy) :
    HasSign s (UnpackedFloat.roundWithAccuracy format s mantissa exponent accuracy) := by
  rw [UnpackedFloat.roundWithAccuracy]
  dsimp only
  split
  · exact .zero
  · exact .finite ..

theorem neg (h : HasSign s x) : HasSign (-s) x.neg := by
  cases h with
  | infinity => exact .infinity
  | zero => exact .zero
  | finite => exact .finite ..

theorem le_zero (h : HasSign .negative x) : x.le (.zero .positive) = true := by
  cases h <;> rfl

section positive

variable {mantissa : Nat} {exponent : Int} (h : HasSign s x) (hm : 0 < mantissa)

include h

theorem mul_positive :
    HasSign s (UnpackedFloat.mul format x (.finite .positive mantissa exponent hm)) := by
  have hsign : s * .positive = s := by cases s <;> rfl
  have hproduct : HasSign (s * .positive)
      (UnpackedFloat.mul format x (.finite .positive mantissa exponent hm)) := by
    cases h with
    | infinity => exact .infinity
    | zero => exact .zero
    | finite => exact roundWithAccuracy ..
  rwa [hsign] at hproduct

theorem div_positive :
    HasSign s (UnpackedFloat.div format x (.finite .positive mantissa exponent hm)) := by
  have hsign : s / .positive = s := by cases s <;> rfl
  have hquotient : HasSign (s / .positive)
      (UnpackedFloat.div format x (.finite .positive mantissa exponent hm)) := by
    cases h with
    | infinity => exact .infinity
    | zero => exact .zero
    | finite => exact roundWithAccuracy ..
  rwa [hsign] at hquotient

end positive

theorem ofNat (n : Nat) : HasSign .positive (UnpackedFloat.ofNat format n) := by
  rw [UnpackedFloat.ofNat, UnpackedFloat.ofInt, UnpackedFloat.normalize]
  split
  · rename_i hn
    have hneg := Int.compare_eq_lt.1 hn
    omega
  · exact .zero
  · exact roundWithAccuracy ..

theorem ofScientific (digits : Nat) (exponent : Int) :
    HasSign .positive (UnpackedFloat.ofScientific format digits exponent) := by
  rw [UnpackedFloat.ofScientific]
  split
  · exact .zero
  · split
    · exact .infinity
    · split
      · exact .zero
      · split
        · exact mul_positive (.finite ..) _
        · exact div_positive (.finite ..) _

end HasSign

/-! ## Doubles with a sign -/

/-- A double that is a number with a sign. -/
def Signed (s : Sign) (x : Float) : Prop := HasSign s x.toModel.unpack

namespace Signed

variable {s : Sign} {x y : Float} {mantissa : Nat} {exponent : Int} {hm : 0 < mantissa}

theorem ofModel_pack {x : UnpackedFloat} (h : HasSign s x) : Signed s (.ofModel (.pack x)) :=
  h.unpack_pack

theorem neg (h : Signed s x) : Signed (-s) x.neg := ofModel_pack (HasSign.neg h)

/-- A product with a positive number keeps the sign. -/
theorem mul_positive (h : Signed s x)
    (hy : y.toModel.unpack = .finite .positive mantissa exponent hm) : Signed s (x * y) := by
  have hmul : x * y = .ofModel (.pack (UnpackedFloat.mul _ x.toModel.unpack y.toModel.unpack)) :=
    rfl
  rw [hmul, hy]
  exact ofModel_pack (HasSign.mul_positive h hm)

/-- A quotient by a positive number keeps the sign. -/
theorem div_positive (h : Signed s x)
    (hy : y.toModel.unpack = .finite .positive mantissa exponent hm) : Signed s (x / y) := by
  have hdiv : x / y = .ofModel (.pack (UnpackedFloat.div _ x.toModel.unpack y.toModel.unpack)) :=
    rfl
  rw [hdiv, hy]
  exact ofModel_pack (HasSign.div_positive h hm)

theorem le_zero (h : Signed .negative x) : x ≤ 0 := by
  have hzero : (0 : Float).toModel.unpack = .zero .positive := by rfl
  refine decide_eq_true ?_
  change x.toModel.unpack.le (0 : Float).toModel.unpack = true
  rw [hzero]
  exact HasSign.le_zero h

/-- A natural number is taken times one, if it is small, and otherwise rounded as it is. -/
theorem ofNat (n : Nat) : Signed .positive (Float.ofNat n) := by
  have hone : (Float.ofBits 0x3FF0000000000000).toModel.unpack =
      .finite .positive (2 ^ 52) (-52) (by decide) := by rfl
  change Signed .positive (Float.ofScientific n false 0)
  rw [Float.ofScientific]
  split
  · exact mul_positive (ofModel_pack (HasSign.ofNat _)) hone
  · exact ofModel_pack (HasSign.ofScientific ..)

end Signed

/-- **Time that has not passed.** Between an instant and one that is not later there are no seconds,
or less than none. -/
theorem Instant.secondsBetween_le_zero {earlier later : Instant} (h : later ≤ earlier) :
    secondsBetween earlier later ≤ 0 := by
  rcases Int.lt_or_eq_of_le h with hlt | rfl
  · obtain ⟨n, hn⟩ := Int.eq_negSucc_of_lt_zero (Int.sub_neg_of_lt hlt)
    have hthousand : (1000 : Float).toModel.unpack =
      .finite .positive (1000 * 2 ^ 43) (-43) (by decide) := by rfl
    rw [secondsBetween, hn]
    exact ((Signed.ofNat (n + 1)).neg.div_positive hthousand).le_zero
  · exact secondsBetween_self later

theorem Instant.lt_of_secondsBetween {earlier later : Instant}
    (h : ¬secondsBetween earlier later ≤ 0) : earlier < later :=
  Int.not_le.1 fun hle => h (secondsBetween_le_zero hle)

end HardwareWatch
