import HardwareWatch.Decimal.Text
import Mathlib.Algebra.Ring.Int.Defs
import Mathlib.Algebra.Ring.Nat
import Mathlib.Data.List.DropRight
import Mathlib.Data.List.Forall2
import Mathlib.Data.List.TakeWhile

/-!
# Decimal numerals

The decimal of a natural number is read back as the number, and a row of digits that does not start
with zero is the decimal of its value. So the two spellings of a positive number are one.

* `mapM_eq_some_iff` says what it means to read a text character by character.
* `Chars.digitsValue_toDigits` and `Chars.toDigits_digitsValue` are the two directions.
* `Chars.StartsNoDigit` says that digits in front of a text end there.
* `Chars.read?_of_integer?` says that a whole number has the same sign and digits when it is read as
  a double, `Text.integer?_toString` that its decimal is read back.
* `Text.number?_trim` says that blanks around a numeral do not count.
-/

namespace HardwareWatch

/-- Where every element has an image there are all images, in the same order. -/
theorem mapM_eq_some_iff {α β : Type} {f : α → Option β} {l : List α} {l' : List β} :
    l.mapM f = some l' ↔ List.Forall₂ (fun a b => f a = some b) l l' := by
  induction l generalizing l' with
  | nil => cases l' <;> simp
  | cons a l ih =>
    rw [List.mapM_cons, List.forall₂_cons_left_iff]
    simp only [Option.bind_eq_bind, Option.bind_eq_some_iff, Option.pure_def, Option.some.injEq, ih]
    grind

namespace Chars

/-! ## Digits and their value -/

theorem isDigit_iff {c : Char} : isDigit c ↔ 48 ≤ c.toNat ∧ c.toNat ≤ 57 := by
  simp [isDigit]

theorem isDigit_of_mem_toDigits {n : Nat} {c : Char} (h : c ∈ Nat.toDigits 10 n) : isDigit c := by
  have hd : c.isDigit = true := Nat.isDigit_of_mem_toDigits (by decide) (by decide) h
  simpa [Char.isDigit, isDigit, UInt32.le_iff_toNat_le] using hd

theorem digitsValue_toDigits (n : Nat) : digitsValue (Nat.toDigits 10 n) = n := by
  have h := Nat.ofDigitChars_ten_toDigits (n := n)
  rwa [Nat.ofDigitChars_eq_foldl] at h

/-- No zero stands in front of other digits. -/
theorem head?_toDigits {n : Nat} (h : 0 < n) : (Nat.toDigits 10 n).head? ≠ some '0' := by
  induction n using Nat.strongRecOn with
  | ind n ih =>
    rcases Nat.lt_or_ge n 10 with hlt | hge
    · have single : ∀ d < 10, 0 < d → [d.digitChar].head? ≠ some '0' := by decide
      rw [Nat.toDigits_of_lt_base hlt]
      exact single n hlt h
    · rw [Nat.toDigits_of_base_le (by decide) hge, List.head?_append,
        List.head?_eq_some_head Nat.toDigits_ne_nil, Option.some_or,
        ← List.head?_eq_some_head Nat.toDigits_ne_nil]
      exact ih _ (Nat.div_lt_self h (by decide)) (Nat.div_pos hge (by decide))

theorem digitChar_digitValue {c : Char} (h : isDigit c) : (digitValue c).digitChar = c := by
  have hc := isDigit_iff.1 h
  apply Char.toNat_inj.1
  rw [digitValue, Nat.toNat_digitChar_of_lt_ten (by omega)]
  omega

theorem digitValue_lt {c : Char} (h : isDigit c) : digitValue c < 10 := by
  have hc := isDigit_iff.1 h
  rw [digitValue]
  omega

theorem toDigits_digitValue {c : Char} (h : isDigit c) : Nat.toDigits 10 (digitValue c) = [c] := by
  rw [Nat.toDigits_of_lt_base (digitValue_lt h), digitChar_digitValue h]

/-- Further digits behind the decimal of a positive number give a decimal again. -/
theorem toDigits_append {n : Nat} (hn : 0 < n) {s : Chars} (hs : ∀ c ∈ s, isDigit c) :
    Nat.toDigits 10 n ++ s = Nat.toDigits 10 (s.foldl (fun n c => 10 * n + digitValue c) n) := by
  induction s generalizing n with
  | nil => exact List.append_nil _
  | cons c s ih =>
    rw [List.forall_mem_cons] at hs
    calc Nat.toDigits 10 n ++ c :: s
        = Nat.toDigits 10 n ++ Nat.toDigits 10 (digitValue c) ++ s := by
          rw [toDigits_digitValue hs.1, List.append_assoc, List.singleton_append]
      _ = Nat.toDigits 10 (10 * n + digitValue c) ++ s := by
          rw [Nat.toDigits_append_toDigits (by decide) hn (digitValue_lt hs.1)]
      _ = _ := ih (by omega) hs.2

theorem digitValue_pos {c : Char} (h : isDigit c) (hz : c ≠ '0') : 0 < digitValue c := by
  have hc := isDigit_iff.1 h
  have hne : c.toNat ≠ 48 := fun he => hz (Char.toNat_inj.1 he)
  rw [digitValue]
  omega

/-- A row of digits that does not start with zero is the decimal of its value, which is positive. -/
theorem toDigits_digitsValue {c : Char} {s : Chars} (hc : isDigit c) (hz : c ≠ '0')
    (hs : ∀ d ∈ s, isDigit d) :
    Nat.toDigits 10 (digitsValue (c :: s)) = c :: s ∧ 0 < digitsValue (c :: s) := by
  have hpos := digitValue_pos hc hz
  have hdigits : Nat.toDigits 10 (digitsValue (c :: s)) = c :: s := by
    rw [digitsValue, List.foldl_cons, Nat.mul_zero, Nat.zero_add, ← toDigits_append hpos hs,
      toDigits_digitValue hc, List.singleton_append]
  refine ⟨hdigits, Nat.pos_of_ne_zero fun he => hz ?_⟩
  rw [he, Nat.toDigits_zero] at hdigits
  exact (List.cons.inj hdigits).1.symm

/-! ## Where digits end -/

/-- No digit stands in front. -/
def StartsNoDigit (s : Chars) : Prop := ∀ c ∈ s.head?, isDigit c = false

theorem startsNoDigit_dropWhile (s : Chars) : StartsNoDigit (s.dropWhile isDigit) := by
  intro c hc
  have h := List.head?_dropWhile_not isDigit s
  rwa [Option.mem_def.1 hc] at h

variable {s : Chars}

theorem dropWhile_isDigit (h : StartsNoDigit s) : s.dropWhile isDigit = s := by
  cases s with
  | nil => rfl
  | cons c s => exact List.dropWhile_cons_of_neg (Bool.not_eq_true _ ▸ h c rfl)

theorem takeWhile_isDigit (h : StartsNoDigit s) : s.takeWhile isDigit = [] := by
  cases s with
  | nil => rfl
  | cons c s => exact List.takeWhile_cons_of_neg (Bool.not_eq_true _ ▸ h c rfl)

theorem takeWhile_toDigits_append (h : StartsNoDigit s) (n : Nat) :
    (Nat.toDigits 10 n ++ s).takeWhile isDigit = Nat.toDigits 10 n := by
  rw [List.takeWhile_append_of_pos fun _ => isDigit_of_mem_toDigits, takeWhile_isDigit h,
    List.append_nil]

theorem dropWhile_toDigits_append (h : StartsNoDigit s) (n : Nat) :
    (Nat.toDigits 10 n ++ s).dropWhile isDigit = s := by
  rw [List.dropWhile_append_of_pos fun _ => isDigit_of_mem_toDigits, dropWhile_isDigit h]

/-! ## Blanks around a numeral -/

theorem trim_trim (s : Chars) : trim (trim s) = trim s := by
  have hstart : trimStart (trim s) = trim s := by
    refine List.dropWhile_eq_self_iff.2 fun hlen => ?_
    have hprefix : trim s <+: trimStart s := List.rdropWhile_prefix _ _
    have hne : trimStart s ≠ [] := List.ne_nil_of_length_pos (hlen.trans_le hprefix.length_le)
    rw [List.IsPrefix.getElem hprefix hlen]
    exact List.dropWhile_get_zero_not _ _ (List.length_pos_iff.2 hne)
  rw [trim, hstart]
  exact List.rdropWhile_idempotent _ _

theorem trim_cons {c : Char} {s : Chars} (hc : isBlank c = false) (hs : trim s = s) :
    trim (c :: s) = c :: s := by
  have hend : trimEnd s = s := by
    have h : trimEnd (trim s) = trim s := List.rdropWhile_idempotent _ _
    rwa [hs] at h
  have hstart : trimStart (c :: s) = c :: s := by rw [trimStart, List.dropWhile_cons, hc]; rfl
  rw [trim, hstart]
  refine List.rdropWhile_eq_self_iff.2 fun hne => ?_
  cases s with
  | nil => simp [hc]
  | cons d s =>
    rw [List.getLast_cons (List.cons_ne_nil d s)]
    exact List.rdropWhile_eq_self_iff.1 hend _

theorem trim_of_digits (h : ∀ c ∈ s, isDigit c = true) : trim s = s := by
  induction s with
  | nil => rfl
  | cons c s ih =>
    refine trim_cons ?_ (ih fun d hd => h d (List.mem_cons_of_mem _ hd))
    have hc := isDigit_iff.1 (h c List.mem_cons_self)
    simp [isBlank]
    omega

/-! ## Whole numbers -/

theorem digits?_eq_some_iff {n : Nat} :
    digits? s = some n ↔ s ≠ [] ∧ (∀ c ∈ s, isDigit c = true) ∧ digitsValue s = n := by
  simp [digits?]
  tauto

theorem digits?_toDigits (n : Nat) : digits? (Nat.toDigits 10 n) = some n :=
  digits?_eq_some_iff.2
    ⟨Nat.toDigits_ne_nil, fun _ => isDigit_of_mem_toDigits, digitsValue_toDigits n⟩

theorem dropPlus_of_ne (hs : ∀ r, s ≠ '+' :: r) : dropPlus s = s := by
  unfold dropPlus
  split
  · rename_i r
    exact absurd rfl (hs r)
  · rfl

theorem integer?_minus_eq_some_iff {v : Int} :
    integer? ('-' :: s) = some v ↔ ∃ n : Nat, digits? s = some n ∧ n ≤ 2 ^ 63 ∧ v = -n := by
  rw [integer?]
  cases digits? s with
  | none => simp
  | some n =>
    simp [Option.filter]
    grind

theorem integer?_eq_some_iff {v : Int} (hs : ∀ r, s ≠ '-' :: r) :
    integer? s = some v ↔ ∃ n : Nat, digits? (dropPlus s) = some n ∧ n < 2 ^ 63 ∧ v = n := by
  unfold integer?
  split
  · rename_i r
    exact absurd rfl (hs r)
  · cases digits? (dropPlus s) with
    | none => simp
    | some n =>
      simp [Option.filter]
      grind

theorem unsigned?_of_digits? {n : Nat} (h : digits? s = some n) (negative : Bool) :
    Decimal.unsigned? negative s = some (Decimal.toFloat negative n 0) := by
  obtain ⟨hne, hdigits, rfl⟩ := digits?_eq_some_iff.1 h
  rw [Decimal.unsigned?, List.takeWhile_eq_self_iff.2 hdigits, List.dropWhile_eq_nil_iff.2 hdigits]
  simp [hne]

/-- A whole number in a text is its sign and its digits to the reader of doubles, too. -/
theorem read?_of_integer? {v : Int} (h : integer? (trim s) = some v) :
    ∃ (negative : Bool) (n : Nat), v = (if negative then -(n : Int) else n) ∧ n ≤ 2 ^ 63 ∧
      (negative = false → n < 2 ^ 63) ∧
      Decimal.read? s = (some (Decimal.toFloat negative n 0)).filter Float.isFinite := by
  rw [Decimal.read?]
  split
  · rename_i r hr
    rw [hr, integer?_minus_eq_some_iff] at h
    obtain ⟨n, hdigits, hn, rfl⟩ := h
    exact ⟨true, n, rfl, hn, nofun, by rw [unsigned?_of_digits? hdigits]⟩
  · rename_i r hr
    rw [hr, integer?_eq_some_iff (by simp)] at h
    obtain ⟨n, hdigits, hn, rfl⟩ := h
    have hunsigned : Decimal.unsigned? false r = _ := unsigned?_of_digits? hdigits false
    exact ⟨false, n, rfl, hn.le, fun _ => hn, by rw [hunsigned]⟩
  · rename_i hminus hplus
    rw [integer?_eq_some_iff hminus, dropPlus_of_ne hplus] at h
    obtain ⟨n, hdigits, hn, rfl⟩ := h
    exact ⟨false, n, rfl, hn.le, fun _ => hn, by rw [unsigned?_of_digits? hdigits]⟩

end Chars

theorem toString_injective : Function.Injective (toString : Nat → String) := fun m n h => by
  rw [← Chars.digitsValue_toDigits m, ← Chars.digitsValue_toDigits n,
    String.ofList_injective (h : String.ofList _ = String.ofList _)]

namespace Text

theorem number?_trim (s : String) : number? (trim s) = number? s := by
  rw [number?, number?, toList_trim, Decimal.read?, Decimal.read?, Chars.trim_trim]

/-- The decimal text of a number is read as the number. -/
theorem integer?_toString {v : Int} (hlow : -(2 ^ 63) ≤ v) (hhigh : v < 2 ^ 63) :
    integer? (trim (toString v)) = some v := by
  have htrim (n : Nat) : Chars.trim (Nat.toDigits 10 n) = Nat.toDigits 10 n :=
    Chars.trim_of_digits fun _ => Chars.isDigit_of_mem_toDigits
  have hdigit (n : Nat) {c : Char} (hc : ¬Chars.isDigit c = true) (r : Chars) :
      Nat.toDigits 10 n ≠ c :: r := fun h =>
    hc (Chars.isDigit_of_mem_toDigits (h ▸ List.mem_cons_self))
  rw [integer?, toList_trim]
  cases v with
  | ofNat n =>
    have htext : (toString (Int.ofNat n)).toList = Nat.toDigits 10 n := String.toList_ofList
    have hn : n < 2 ^ 63 := by
      rw [Int.ofNat_eq_natCast] at hhigh
      omega
    rw [htext, htrim, Chars.integer?_eq_some_iff (hdigit n (by decide)),
      Chars.dropPlus_of_ne (hdigit n (by decide))]
    exact ⟨n, Chars.digits?_toDigits n, hn, rfl⟩
  | negSucc n =>
    have htext : (toString (Int.negSucc n)).toList = '-' :: Nat.toDigits 10 (n + 1) := by
      rw [show toString (Int.negSucc n) = "-" ++ String.ofList (Nat.toDigits 10 (n + 1)) from rfl,
        String.toList_append]
      exact congrArg ('-' :: ·) String.toList_ofList
    have hn : n + 1 ≤ 2 ^ 63 := by
      rw [Int.negSucc_eq] at hlow
      omega
    rw [htext, Chars.trim_cons (by decide) (htrim _), Chars.integer?_minus_eq_some_iff]
    exact ⟨n + 1, Chars.digits?_toDigits _, hn, Int.negSucc_eq n⟩

end Text

end HardwareWatch
