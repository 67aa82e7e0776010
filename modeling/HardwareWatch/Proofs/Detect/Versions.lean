import HardwareWatch.Detect.Local
import HardwareWatch.Proofs.Text.Numerals

/-!
# The order of versions

A version of digits and points stands for a row of natural numbers. Versions are compared number by
number from the left, as far as the numbers have 64-bit words: a larger one counts as zero.

* `DottedVersion` is a version as it is written, `versionParts_text` says what is read of it.
* `comparePadded` compares rows of numbers, the shorter one filled up with zeros, and
  `compareParts_eq` says that this is what versions are compared by.
* `HoldsOrder` says what becomes of the comparison where large numbers count as zero,
  `holdsOrder_iff` that it is right exactly then.
* `compareVersions_dotted_iff` is the result for versions and for the criterion.
-/

namespace HardwareWatch

/-- A version as it is written: rows of digits with points between them. -/
structure DottedVersion where
  parts : List Chars
  ne_nil : parts ≠ []
  digits : ∀ part ∈ parts, part ≠ [] ∧ ∀ c ∈ part, Chars.isDigit c

namespace DottedVersion

/-- The characters of the version. -/
def text (v : DottedVersion) : String := .ofList (Chars.join ['.'] v.parts)

/-- The numbers of the version. -/
def numbers (v : DottedVersion) : List Nat := v.parts.map Chars.digitsValue

end DottedVersion

/-- The number that counts for a part of a version: zero if it has no 64-bit word. -/
def heldNumber (n : Nat) : Nat := if n < word64 then n else 0

/-! ## What is read of a version -/

theorem versionPart_of_digits {part : Chars} (hne : part ≠ []) (h : ∀ c ∈ part, Chars.isDigit c) :
    versionPart part = heldNumber (Chars.digitsValue part) := by
  have hdigits : Chars.digits? part = some (Chars.digitsValue part) :=
    Chars.digits?_eq_some_iff.2 ⟨hne, h, rfl⟩
  rw [versionPart, Chars.trim_of_digits h, List.takeWhile_eq_self_iff.2 h, hdigits, heldNumber]
  by_cases hword : Chars.digitsValue part < word64 <;> simp [Option.filter, hword]

theorem versionParts_text (v : DottedVersion) :
    versionParts v.text = v.numbers.map heldNumber := by
  have hpoint : ∀ part ∈ v.parts, '.' ∉ part := fun part hpart hmem =>
    absurd ((v.digits part hpart).2 _ hmem) (by decide)
  rw [versionParts, DottedVersion.text, String.toList_ofList,
    Chars.splitBy_join_of_forall v.ne_nil hpoint, DottedVersion.numbers, List.map_map]
  exact List.map_congr_left fun part hpart =>
    versionPart_of_digits (v.digits part hpart).1 (v.digits part hpart).2

/-! ## Rows of numbers -/

/-- Compare two rows of numbers from the left, the shorter one filled up with zeros. -/
def comparePadded (as bs : List Nat) : Ordering :=
  List.compareLex compare (as.rightpad bs.length 0) (bs.rightpad as.length 0)

theorem comparePadded_cons_cons (m n : Nat) (as bs : List Nat) :
    comparePadded (m :: as) (n :: bs) = (compare m n).then (comparePadded as bs) := by
  simp [comparePadded, List.rightpad, List.compareLex_cons_cons]

theorem comparePadded_cons_nil (m : Nat) (as : List Nat) :
    comparePadded (m :: as) [] = (compare m 0).then (comparePadded as []) := by
  simp [comparePadded, List.rightpad, List.compareLex_cons_cons, List.replicate_succ]

theorem comparePadded_nil_cons (n : Nat) (bs : List Nat) :
    comparePadded [] (n :: bs) = (compare 0 n).then (comparePadded [] bs) := by
  simp [comparePadded, List.rightpad, List.compareLex_cons_cons, List.replicate_succ]

theorem compareParts_eq (as bs : List Nat) : compareParts as bs = comparePadded as bs := by
  fun_induction compareParts as bs with
  | case1 => rfl
  | case2 a as h =>
    rw [comparePadded_cons_nil, Nat.compare_eq_gt.2 h]
    rfl
  | case3 a as h ih =>
    rw [comparePadded_cons_nil, Nat.compare_eq_eq.2 (by omega), ih]
    rfl
  | case4 b bs h =>
    rw [comparePadded_nil_cons, Nat.compare_eq_lt.2 h]
    rfl
  | case5 b bs h ih =>
    rw [comparePadded_nil_cons, Nat.compare_eq_eq.2 (by omega), ih]
    rfl
  | case6 a as b bs h =>
    rw [comparePadded_cons_cons, Nat.compare_eq_lt.2 h]
    rfl
  | case7 a as b bs _ h =>
    rw [comparePadded_cons_cons, Nat.compare_eq_gt.2 h]
    rfl
  | case8 a as b bs hlt hgt ih =>
    rw [comparePadded_cons_cons, Nat.compare_eq_eq.2 (by omega), ih]
    rfl

theorem comparePadded_of_length {as bs : List Nat} (h : as.length = bs.length) :
    comparePadded as bs = List.compareLex compare as bs := by
  simp [comparePadded, List.rightpad, h]

/-! ## Numbers without words -/

section Outcome

variable {β : Type} (outcome : Ordering → β) {m n : Nat} {as bs : List Nat}

/-- What counts of two rows that start with different numbers decides as the numbers do: they have
words, or they count alike and the rest happens to decide so. -/
def DecidesRightly (m n : Nat) (as bs : List Nat) : Prop :=
  m < word64 ∧ n < word64 ∨
    heldNumber m = heldNumber n ∧
      outcome (comparePadded (as.map heldNumber) (bs.map heldNumber)) = outcome (compare m n)

/-- Where the rows, filled up with zeros, first differ, what counts of them decides rightly. -/
def HoldsOrder (as bs : List Nat) : Prop :=
  ∀ (common : List Nat) (m n : Nat) (as' bs' : List Nat),
    as.rightpad bs.length 0 = common ++ m :: as' → bs.rightpad as.length 0 = common ++ n :: bs' →
      m ≠ n → DecidesRightly outcome m n as' bs'

theorem heldNumber_of_lt (h : m < word64) : heldNumber m = m := if_pos h

theorem map_rightpad_heldNumber (k : Nat) (as : List Nat) :
    (as.rightpad k 0).map heldNumber = (as.map heldNumber).rightpad k 0 := by
  have hzero : heldNumber 0 = 0 := by decide
  simp [List.rightpad, hzero]

/-- If one number has no word, what counts is compared the wrong way round. -/
theorem compare_heldNumber_of_ne (hne : heldNumber m ≠ heldNumber n)
    (hwords : ¬(m < word64 ∧ n < word64)) :
    compare (heldNumber m) (heldNumber n) = (compare m n).swap := by
  rw [Nat.compare_swap]
  by_cases hm : m < word64
  · have hn : ¬n < word64 := fun hn => hwords ⟨hm, hn⟩
    rw [heldNumber, heldNumber, if_pos hm, if_neg hn] at hne ⊢
    rw [Nat.compare_eq_gt.2 (by omega), Nat.compare_eq_gt.2 (by omega)]
  · by_cases hn : n < word64
    · rw [heldNumber, heldNumber, if_neg hm, if_pos hn] at hne ⊢
      rw [Nat.compare_eq_lt.2 (by omega), Nat.compare_eq_lt.2 (by omega)]
    · rw [heldNumber, heldNumber, if_neg hm, if_neg hn] at hne
      exact absurd rfl hne

theorem decidesRightly_iff (houtcome : outcome .lt ≠ outcome .gt) (hlength : as.length = bs.length)
    (hne : m ≠ n) :
    outcome (List.compareLex compare ((m :: as).map heldNumber) ((n :: bs).map heldNumber)) =
        outcome (List.compareLex compare (m :: as) (n :: bs)) ↔
      DecidesRightly outcome m n as bs := by
  have hthen {o o' : Ordering} (h : o ≠ .eq) : o.then o' = o := by cases o <;> trivial
  have hright : (compare m n).then (List.compareLex compare as bs) = compare m n :=
    hthen fun he => hne (Nat.compare_eq_eq.1 he)
  rw [List.map_cons, List.map_cons, List.compareLex_cons_cons, List.compareLex_cons_cons, hright,
    DecidesRightly, comparePadded_of_length (by simpa using hlength)]
  by_cases hheld : heldNumber m = heldNumber n
  · have hwords : ¬(m < word64 ∧ n < word64) := fun ⟨hm, hn⟩ =>
      hne (by rwa [heldNumber_of_lt hm, heldNumber_of_lt hn] at hheld)
    simp [hheld, hwords]
  · rw [hthen fun he => hheld (Nat.compare_eq_eq.1 he)]
    simp only [hheld, false_and, or_false]
    refine ⟨fun h => ?_, fun ⟨hm, hn⟩ => by rw [heldNumber_of_lt hm, heldNumber_of_lt hn]⟩
    by_contra hwords
    rw [compare_heldNumber_of_ne hheld hwords] at h
    rcases Nat.lt_or_gt_of_ne hne with hlt | hgt
    · rw [Nat.compare_eq_lt.2 hlt] at h
      exact houtcome h.symm
    · rw [Nat.compare_eq_gt.2 hgt] at h
      exact houtcome h

/-- Rows of one length are compared rightly exactly if what counts of them decides rightly where
they first differ. -/
theorem compareLex_heldNumber_iff (houtcome : outcome .lt ≠ outcome .gt)
    (hlength : as.length = bs.length) :
    outcome (List.compareLex compare (as.map heldNumber) (bs.map heldNumber)) =
        outcome (List.compareLex compare as bs) ↔
      ∀ (common : List Nat) (m n : Nat) (as' bs' : List Nat),
        as = common ++ m :: as' → bs = common ++ n :: bs' → m ≠ n →
          DecidesRightly outcome m n as' bs' := by
  induction as generalizing bs with
  | nil =>
    obtain rfl := List.eq_nil_of_length_eq_zero hlength.symm
    exact iff_of_true rfl fun common m n as' bs' h => by simp at h
  | cons m as ih =>
    cases bs with
    | nil => cases hlength
    | cons n bs =>
      have hlength' : as.length = bs.length := Nat.succ.inj hlength
      by_cases hmn : m = n
      · subst hmn
        have hsame (k : Nat) : compare k k = .eq := Nat.compare_eq_eq.2 rfl
        rw [List.map_cons, List.map_cons, List.compareLex_cons_cons, List.compareLex_cons_cons,
          hsame, hsame]
        refine (ih hlength').trans ⟨fun h common k l as' bs' has hbs hkl => ?_,
          fun h common k l as' bs' has hbs hkl => ?_⟩
        · cases common with
          | nil => exact absurd ((List.cons.inj has).1.symm.trans (List.cons.inj hbs).1) hkl
          | cons c common =>
            exact h common k l as' bs' (List.cons.inj has).2 (List.cons.inj hbs).2 hkl
        · exact h (m :: common) k l as' bs' (by rw [has]; rfl) (by rw [hbs]; rfl) hkl
      · rw [decidesRightly_iff outcome houtcome hlength' hmn]
        refine ⟨fun h common k l as' bs' has hbs hkl => ?_, fun h => h [] m n as bs rfl rfl hmn⟩
        cases common with
        | nil =>
          obtain ⟨rfl, rfl⟩ := List.cons.inj has
          obtain ⟨rfl, rfl⟩ := List.cons.inj hbs
          exact h
        | cons c common =>
          exact absurd ((List.cons.inj has).1.trans (List.cons.inj hbs).1.symm) hmn

theorem holdsOrder_iff (houtcome : outcome .lt ≠ outcome .gt) :
    outcome (comparePadded (as.map heldNumber) (bs.map heldNumber)) =
      outcome (comparePadded as bs) ↔ HoldsOrder outcome as bs := by
  have hlength : (as.rightpad bs.length 0).length = (bs.rightpad as.length 0).length := by
    rw [List.length_rightpad, List.length_rightpad, Nat.max_comm]
  rw [comparePadded, comparePadded, List.length_map, List.length_map, ← map_rightpad_heldNumber,
    ← map_rightpad_heldNumber, compareLex_heldNumber_iff outcome houtcome hlength]
  rfl

end Outcome

/-! ## Versions -/

theorem compareVersions_text (a b : DottedVersion) : compareVersions a.text b.text =
    comparePadded (a.numbers.map heldNumber) (b.numbers.map heldNumber) := by
  rw [compareVersions, versionParts_text, versionParts_text, compareParts_eq]

theorem map_heldNumber {as : List Nat} (h : ∀ n ∈ as, n < word64) : as.map heldNumber = as :=
  (List.map_congr_left fun n hn => heldNumber_of_lt (h n hn)).trans (List.map_id _)

theorem DottedVersion.isBlank_text (v : DottedVersion) : Text.isBlank v.text = false := by
  obtain ⟨part, hpart⟩ := List.exists_mem_of_ne_nil _ v.ne_nil
  obtain ⟨hne, hdigits⟩ := v.digits part hpart
  obtain ⟨c, hc⟩ := List.exists_mem_of_ne_nil _ hne
  have hblank : Chars.isBlank c = false := by
    have hdigit := Chars.isDigit_iff.1 (hdigits c hc)
    simp [Chars.isBlank]
    omega
  rw [Text.isBlank, DottedVersion.text, String.toList_ofList, Chars.allBlank, List.all_eq_false]
  exact ⟨c, Chars.mem_join hpart hc, by simp [hblank]⟩

theorem isSuccess_productResult (v : DottedVersion) (engineVersion : String) :
    (productResult (some v.text) engineVersion).isSuccess =
      (compareVersions engineVersion v.text).isGE := by
  have hfilter : ((some v.text).filter fun v => !Text.isBlank v) = some v.text := by
    rw [Option.filter, v.isBlank_text]
    rfl
  rw [productResult, hfilter]
  dsimp only
  split_ifs with h
  · rw [h]
    rfl
  · rw [Bool.not_eq_true] at h
    rw [h]
    rfl

/-- **Versions are compared number by number.** What counts of their numbers is compared from the
left, the shorter version filled up with zeros, and a version that is required of the engine is met
exactly by those that are not less. This is the order of the numbers themselves, and the criterion
follows it, if and only if what counts decides rightly where the versions first differ; it does if
all numbers have 64-bit words. -/
theorem compareVersions_dotted_iff (a b : DottedVersion) :
    compareVersions a.text b.text =
        comparePadded (a.numbers.map heldNumber) (b.numbers.map heldNumber) ∧
      (productResult (some b.text) a.text).isSuccess = (compareVersions a.text b.text).isGE ∧
      (compareVersions a.text b.text = comparePadded a.numbers b.numbers ↔
        HoldsOrder id a.numbers b.numbers) ∧
      ((productResult (some b.text) a.text).isSuccess =
          (comparePadded a.numbers b.numbers).isGE ↔
        HoldsOrder Ordering.isGE a.numbers b.numbers) ∧
      ((∀ n ∈ a.numbers ++ b.numbers, n < word64) →
        compareVersions a.text b.text = comparePadded a.numbers b.numbers ∧
          (productResult (some b.text) a.text).isSuccess =
            (comparePadded a.numbers b.numbers).isGE) := by
  rw [isSuccess_productResult, compareVersions_text]
  refine ⟨rfl, rfl, holdsOrder_iff id (by decide), holdsOrder_iff Ordering.isGE (by decide),
    fun hwords => ?_⟩
  rw [List.forall_mem_append] at hwords
  rw [map_heldNumber hwords.1, map_heldNumber hwords.2]
  exact ⟨rfl, rfl⟩

namespace EngineVersions

/-- A version with two digits at its end. -/
def ten : DottedVersion :=
  ⟨["1".toList, "2".toList, "10".toList], by decide, by simp [Chars.isDigit]⟩

/-- A version of the same length. -/
def nine : DottedVersion :=
  ⟨["1".toList, "2".toList, "9".toList], by decide, by simp [Chars.isDigit]⟩

theorem nine_met_by_ten :
    (∀ n ∈ ten.numbers ++ nine.numbers, n < word64) ∧
      compareVersions "1.2.10" "1.2.9" = .gt ∧
      (productResult (some "1.2.9") "1.2.10").isSuccess = true := by
  have hwords : ∀ n ∈ ten.numbers ++ nine.numbers, n < word64 := by decide
  obtain ⟨hcompare, hresult⟩ := (compareVersions_dotted_iff ten nine).2.2.2.2 hwords
  exact ⟨hwords, hcompare, hresult⟩

/-- The version of the engine, if no other is set. -/
def first : DottedVersion :=
  ⟨["0".toList, "1".toList, "0".toList], by decide, by simp [Chars.isDigit]⟩

/-- The first number without a word. -/
def beyond : DottedVersion := ⟨["18446744073709551616".toList], by decide, by simp [Chars.isDigit]⟩

/-- A version beyond the words is met by a version that is less. -/
theorem beyond_met_by_first :
    first.text = "0.1.0" ∧ beyond.text = "18446744073709551616" ∧
      comparePadded first.numbers beyond.numbers = .lt ∧
      compareVersions "0.1.0" "18446744073709551616" = .gt ∧
      (productResult (some "18446744073709551616") "0.1.0").isSuccess = true := by
  have hcompare : compareVersions first.text beyond.text = .gt :=
    (compareVersions_text first beyond).trans (by decide)
  have hmet : (productResult (some beyond.text) first.text).isSuccess = true := by
    rw [isSuccess_productResult, hcompare]
    rfl
  exact ⟨rfl, rfl, by decide, hcompare, hmet⟩

end EngineVersions

end HardwareWatch
