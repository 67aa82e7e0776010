import HardwareWatch.Proofs.Decimal.Doubles
import HardwareWatch.Proofs.Operators.Columns
import HardwareWatch.Proofs.Table.Merging
import HardwareWatch.Proofs.Text.Numerals

/-!
# Translated bits

The bits of the number in a cell are translated one by one. The number is read as a double and cut
off at the point, while the operators on words read whole numbers digit by digit and nothing else.
So the two do not always see the same bits.

* `wordBit` is a bit of a word, `bitTexts` what stands for the bits of a word, and
  `translateBits_eq` and `Bitwise.apply_and_two_pow` say that the two operators work on these bits.
* `heldWord` is what a double holds of a word; `heldWord_eq_self_iff` says which words it holds.
* `BitsReading` says how a cell is read, and under which condition both operators read it alike.
* `translates_held_bits` is the main statement.
-/

namespace HardwareWatch

/-! ## Bits of a word -/

/-- The bit of a number as a word in two's complement. -/
def wordBit (v : Int) (b : Nat) : Bool := (BitVec.ofInt 64 v).getLsbD b

theorem wordBit_eq (v : Int) {b : Nat} (hb : b < 64) :
    wordBit v b = decide (v / 2 ^ b % 2 = 1) := by
  have hword : ((v % ((2 ^ 64 : Nat) : Int)).toNat : Int) = v % 2 ^ 64 :=
    Int.toNat_of_nonneg (Int.emod_nonneg _ (by decide))
  -- what lies above the word is even at the bit
  have hmod : v / 2 ^ b = v % 2 ^ 64 / 2 ^ b + 2 * (2 ^ (63 - b) * (v / 2 ^ 64)) := by
    have hpow : (2 : Int) ^ 64 = 2 ^ b * (2 * 2 ^ (63 - b)) := by
      rw [← pow_succ', ← pow_add]
      congr 1
      omega
    conv_lhs => rw [← Int.emod_add_mul_ediv v (2 ^ 64), hpow, mul_assoc]
    rw [Int.add_mul_ediv_left _ _ (by positivity), ← hpow, mul_assoc]
  rw [wordBit, ← BitVec.testBit_toNat, Nat.testBit_eq_decide_div_mod_eq, BitVec.toNat_ofInt,
    decide_eq_decide, hmod, Int.add_mul_emod_self_left, ← hword]
  norm_cast

theorem bitOf_eq (v : Int) {b : Nat} (hb : b < 64) : bitOf v b = if wordBit v b then 1 else 0 := by
  rw [bitOf, Int.shiftRight_eq_div_pow, wordBit_eq v hb]
  rcases Int.emod_two_eq_zero_or_one (v / 2 ^ b) with h | h <;> simp [h]

theorem Bitwise.apply_and_two_pow (v : Int) {b : Nat} (hb : b < 63) :
    and.apply v (2 ^ b) = if wordBit v b then 2 ^ b else 0 := by
  have hpow : (Int64.ofInt (2 ^ b)).toBitVec = BitVec.twoPow 64 b := by
    apply BitVec.eq_of_toNat_eq
    rw [BitVec.toNat_twoPow, show (Int64.ofInt (2 ^ b)).toBitVec = BitVec.ofInt 64 (2 ^ b) from rfl,
      BitVec.toNat_ofInt]
    norm_cast
  rw [apply, Int64.toInt, Int64.toBitVec_and, hpow,
    show (Int64.ofInt v).toBitVec = BitVec.ofInt 64 v from rfl, BitVec.and_twoPow, ← wordBit]
  split
  · rw [BitVec.toInt_twoPow, if_neg (by omega), if_neg (by omega)]
  · rfl

/-- The name of a bit that is set or not. -/
def bitName (b : Nat) (set : Bool) : String := toString b ++ "," ++ if set then "1" else "0"

/-- The translations of the bits of a word, those that are not blank, in the order of the bits. -/
def bitTexts (table : Translation) (positions : List Nat) (v : Int) : String :=
  let texts := positions.filterMap fun b => table.get? (bitName b (wordBit v b))
  Text.join " - " (texts.filter fun text => !Text.isBlank text)

theorem translateBits_eq {positions : List Nat} (h : ∀ b ∈ positions, b < 64)
    (table : Translation) (v : Int) :
    translateBits table positions v = bitTexts table positions v := by
  have htexts : (positions.filterMap fun b =>
      table.get? (toString b ++ "," ++ toString (bitOf v b))) =
        positions.filterMap fun b => table.get? (bitName b (wordBit v b)) := by
    refine List.filterMap_congr fun b hb => ?_
    rw [bitOf_eq v (h b hb), bitName]
    cases wordBit v b <;> rfl
  rw [translateBits, htexts, bitTexts]

theorem bitName_injective {b b' : Nat} {set set' : Bool} (h : bitName b set = bitName b' set') :
    b = b' ∧ set = set' := by
  have hchars : (toString b).toList ++ [',', if set then '1' else '0'] =
      (toString b').toList ++ [',', if set' then '1' else '0'] := by
    have hlist := congrArg String.toList h
    cases set <;> cases set' <;> simpa [bitName] using hlist
  obtain ⟨hb, hset⟩ := List.append_inj' hchars rfl
  refine ⟨toString_injective (String.toList_inj.1 hb), ?_⟩
  cases set <;> cases set' <;> simp_all

theorem join_filter_eq_empty_iff {texts : List String} :
    Text.join " - " (texts.filter fun text => !Text.isBlank text) = "" ↔
      ∀ text ∈ texts, Text.isBlank text = true := by
  constructor
  · intro h text htext
    cases hnamed : texts.filter fun text => !Text.isBlank text with
    | nil => simpa using List.filter_eq_nil_iff.1 hnamed text htext
    | cons first rest =>
      have hfirst : first ≠ "" := by
        rintro rfl
        have := (List.mem_filter.1 (hnamed ▸ List.mem_cons_self : "" ∈ texts.filter _)).2
        exact absurd this (by decide)
      exact absurd (hnamed ▸ h) (Text.join_cons_ne_empty _ hfirst rest)
  · intro h
    rw [List.filter_eq_nil_iff.2 fun text htext => by simp [h text htext]]
    rfl

theorem bitTexts_eq_empty_iff {table : Translation} {positions : List Nat} {v : Int} :
    bitTexts table positions v = "" ↔ ∀ b ∈ positions, ∀ text,
      table.get? (bitName b (wordBit v b)) = some text → Text.isBlank text = true := by
  rw [bitTexts, join_filter_eq_empty_iff]
  constructor
  · exact fun h b hb text htext => h text (List.mem_filterMap.2 ⟨b, hb, htext⟩)
  · intro h text htext
    obtain ⟨b, hb, htext⟩ := List.mem_filterMap.1 htext
    exact h b hb text htext

/-- Words have the same translations for every table exactly if they have the same bits. -/
theorem forall_bitTexts_eq_iff {positions : List Nat} {v w : Int} :
    (∀ table, bitTexts table positions v = bitTexts table positions w) ↔
      ∀ b ∈ positions, wordBit v b = wordBit w b := by
  constructor
  · intro h b hb
    by_contra hne
    -- a table for the one bit, as the first word has it
    let table : Translation := NameMap.empty.insert (bitName b (wordBit v b)) "set"
    have hget (name : String) :
        table.get? name = if bitName b (wordBit v b) = name then some "set" else none :=
      NameMap.get?_insert _ _ _ _
    have hempty : bitTexts table positions w = "" := by
      refine bitTexts_eq_empty_iff.2 fun b' _ text htext => ?_
      rw [hget, Option.ite_none_right_eq_some] at htext
      obtain ⟨rfl, hbit⟩ := bitName_injective htext.1
      exact absurd hbit hne
    have hset := bitTexts_eq_empty_iff.1 ((h table).trans hempty) b hb "set"
      (by rw [hget, if_pos rfl])
    exact absurd hset (by decide)
  · intro h table
    rw [bitTexts, bitTexts, List.filterMap_congr fun b hb => by rw [h b hb]]

theorem lt_of_mem_bitList? {bits : String} {positions : List Nat}
    (h : bitList? bits = some positions) {b : Nat} (hb : b ∈ positions) : b < 63 := by
  obtain ⟨hlength, hread⟩ := List.forall₂_iff_get.1 (mapM_eq_some_iff.1 h)
  obtain ⟨i, hi, rfl⟩ := List.getElem_of_mem hb
  simpa using (Option.filter_eq_some_iff.1 (hread i (hlength ▸ hi) hi)).2

/-! ## What a double holds of a word -/

/-- What a double holds of a whole number. -/
def held (v : Int) : Int := v.sign * Decimal.nearest v.natAbs

/-- What a double holds of a word, as a word. -/
def heldWord (v : Int) : Int := clampWord (held v)

theorem held_natCast (n : Nat) : held n = Decimal.nearest n := by
  rw [held, Int.natAbs_natCast]
  rcases n.eq_zero_or_pos with rfl | hn
  · decide
  · rw [Int.sign_eq_one_of_pos (by omega), Int.one_mul]

theorem held_neg (v : Int) : held (-v) = -held v := by
  rw [held, Int.sign_neg, Int.natAbs_neg, Int.neg_mul, held]

theorem held_eq_self_iff {v : Int} : held v = v ↔ 2 ^ (v.natAbs.log2 - 52) ∣ v.natAbs := by
  rw [← Decimal.nearest_eq_self_iff]
  obtain ⟨n, rfl | rfl⟩ := v.eq_nat_or_neg
  · rw [held_natCast, Int.natAbs_natCast]
    omega
  · rw [held_neg, held_natCast, Int.natAbs_neg, Int.natAbs_natCast]
    omega

theorem clampWord_of_mem {v : Int} (hlow : -(2 ^ 63) ≤ v) (hhigh : v < 2 ^ 63) : clampWord v = v := by
  have hpow : Int.pow 2 63 = 2 ^ 63 := rfl
  rw [clampWord]
  omega

/-- A double holds the words with 53 digits in front of zeros, and the greatest word in that it is
the nearest one to the double that is read. -/
theorem heldWord_eq_self_iff {v : Int} (hlow : -(2 ^ 63) ≤ v) (hhigh : v < 2 ^ 63) :
    heldWord v = v ↔ 2 ^ (v.natAbs.log2 - 52) ∣ v.natAbs ∨ v = 2 ^ 63 - 1 := by
  rw [← held_eq_self_iff]
  have hpow : Int.pow 2 63 = 2 ^ 63 := rfl
  constructor
  · intro h
    have hleast : held (-(2 ^ 63)) = -(2 ^ 63) := by decide
    by_cases hv : v = -(2 ^ 63)
    · exact .inl (hv ▸ hleast)
    · rw [heldWord, clampWord] at h
      omega
  · rintro (h | rfl)
    · rw [heldWord, h, clampWord_of_mem hlow hhigh]
    · decide

theorem number?_of_integer? {cell : String} {v : Int}
    (h : Text.integer? (Text.trim cell) = some v) :
    -(2 ^ 63) ≤ v ∧ v < 2 ^ 63 ∧
      ∃ x, Text.number? cell = some x ∧ Decimal.isWhole x = true ∧ Decimal.truncate x = held v := by
  rw [Text.integer?, Text.toList_trim] at h
  obtain ⟨negative, n, hv, hle, hlt, hread⟩ := Chars.read?_of_integer? h
  have hholds := Decimal.holds_toFloat negative (show n < 2 ^ 64 by omega)
  have hheld : held v = if negative then -(Decimal.nearest n : Int) else Decimal.nearest n := by
    rw [hv]
    cases negative with
    | false => exact held_natCast n
    | true => exact (held_neg n).trans (congrArg _ (held_natCast n))
  have hbounds : -(2 ^ 63) ≤ v ∧ v < 2 ^ 63 := by
    cases negative <;> simp at hv hlt <;> omega
  refine ⟨hbounds.1, hbounds.2, Decimal.toFloat negative n 0, ?_,
    Decimal.isWhole_iff.2 ⟨_, _, hholds⟩, hholds.truncate.trans hheld.symm⟩
  rw [Text.number?, hread, Option.filter_some_pos hholds.isFinite]

/-! ## Cells -/

/-- The word whose bits are translated. -/
def translatedWord? (cell : String) : Option Int :=
  (Text.number? cell).map fun x => clampWord (Decimal.truncate x)

/-- How a cell is read whose bits are translated, compared with the operators on words. -/
structure BitsReading (positions : List Nat) (cell : String) : Prop where
  /-- A whole number is the word to those operators, and here what a double holds of it. That is
  the same if there are 53 digits in front of zeros, and for the greatest word. -/
  ofInteger : ∀ v, Text.integer? (Text.trim cell) = some v →
    readWord? cell = some v ∧ translatedWord? cell = some (heldWord v) ∧
      (heldWord v = v ↔ 2 ^ (v.natAbs.log2 - 52) ∣ v.natAbs ∨ v = 2 ^ 63 - 1)
  /-- A number that is not whole is none to those operators, and here its whole part. -/
  ofFraction : ∀ x, Text.number? cell = some x → (∀ negative n, ¬Decimal.Holds x negative n) →
    readWord? cell = none ∧ translatedWord? cell = some (clampWord (Decimal.truncate x))
  /-- What is no number is none to either. -/
  ofText : Text.number? cell = none → readWord? cell = none ∧ translatedWord? cell = none
  /-- The bits that those operators see are translated, whatever the translations, exactly if a
  whole number has them in a double, and they read a number in the cell at all. -/
  alike : (∀ table : Translation,
      (translatedWord? cell).elim cell (bitTexts table positions) =
        (readWord? cell).elim cell (bitTexts table positions)) ↔
    (∀ v, Text.integer? (Text.trim cell) = some v →
      ∀ b ∈ positions, wordBit (heldWord v) b = wordBit v b) ∧
    (readWord? cell = none → Text.number? cell = none)

theorem readWord?_of_integer? {cell : String} {v : Int}
    (h : Text.integer? (Text.trim cell) = some v) : readWord? cell = some v := by
  rw [readWord?, h, Option.orElse_some]

theorem readWord?_of_integer?_none {cell : String} (h : Text.integer? (Text.trim cell) = none) :
    readWord? cell = ((Text.number? cell).filter fun x =>
      Decimal.isWhole x && x.abs < 9223372036854775808.0).map Decimal.truncate := by
  rw [readWord?, h, Option.orElse_none, Text.number?_trim]

/-- Only whole numbers are words. -/
theorem readWord?_eq_none {cell : String}
    (h : ∀ x, Text.number? cell = some x → Decimal.isWhole x = false) : readWord? cell = none := by
  have hinteger : Text.integer? (Text.trim cell) = none := by
    by_contra hne
    obtain ⟨v, hv⟩ := Option.ne_none_iff_exists'.1 hne
    obtain ⟨-, -, x, hx, hwhole, -⟩ := number?_of_integer? hv
    exact absurd hwhole (Bool.eq_false_iff.1 (h x hx))
  rw [readWord?_of_integer?_none hinteger]
  cases hx : Text.number? cell with
  | none => rfl
  | some x => rw [Option.filter_some_neg (by simp [h x hx]), Option.map_none]

/-- A whole number in another form is the same word to both. -/
theorem translatedWord?_of_readWord? {cell : String} {v : Int}
    (h : Text.integer? (Text.trim cell) = none) (hread : readWord? cell = some v) :
    translatedWord? cell = some v := by
  rw [readWord?_of_integer?_none h] at hread
  obtain ⟨x, hx, rfl⟩ := Option.map_eq_some_iff.1 hread
  obtain ⟨hx, hwhole⟩ := Option.filter_eq_some_iff.1 hx
  rw [Bool.and_eq_true, decide_eq_true_eq] at hwhole
  have hlt := Decimal.natAbs_truncate_lt hwhole.2
  rw [translatedWord?, hx, Option.map_some, clampWord_of_mem (by omega) (by omega)]

theorem translatedWord?_of_integer? {cell : String} {v : Int}
    (h : Text.integer? (Text.trim cell) = some v) : translatedWord? cell = some (heldWord v) := by
  obtain ⟨-, -, x, hx, -, htruncate⟩ := number?_of_integer? h
  rw [translatedWord?, hx, Option.map_some, htruncate, heldWord]

/-- A cell that is a number is not kept under every table. -/
theorem translations_keep_iff (positions : List Nat) (cell : String) :
    (∀ table : Translation, (translatedWord? cell).elim cell (bitTexts table positions) = cell) ↔
      Text.number? cell = none := by
  constructor
  · intro h
    by_contra hne
    obtain ⟨x, hx⟩ := Option.ne_none_iff_exists'.1 hne
    have hempty : bitTexts .empty positions (clampWord (Decimal.truncate x)) = "" :=
      bitTexts_eq_empty_iff.2 fun b _ text htext => by simp [NameMap.get?_empty] at htext
    have hcell : "" = cell := by
      rw [← hempty]
      have := h .empty
      rwa [translatedWord?, hx] at this
    rw [← hcell] at hne
    exact hne (by decide)
  · intro h table
    rw [translatedWord?, h]
    rfl

theorem bitsReading (positions : List Nat) (cell : String) : BitsReading positions cell where
  ofInteger v hv :=
    have ⟨hlow, hhigh, _⟩ := number?_of_integer? hv
    ⟨readWord?_of_integer? hv, translatedWord?_of_integer? hv, heldWord_eq_self_iff hlow hhigh⟩
  ofFraction x hx hfraction := by
    refine ⟨readWord?_eq_none fun y hy => ?_, by rw [translatedWord?, hx, Option.map_some]⟩
    rw [← Option.some.inj (hx.symm.trans hy), ← Bool.not_eq_true, Decimal.isWhole_iff]
    exact fun ⟨negative, n, h⟩ => hfraction negative n h
  ofText hnone :=
    ⟨readWord?_eq_none fun x hx => absurd (hnone.symm.trans hx) (by simp),
      by rw [translatedWord?, hnone, Option.map_none]⟩
  alike := by
    cases hv : Text.integer? (Text.trim cell) with
    | some v =>
      rw [readWord?_of_integer? hv, translatedWord?_of_integer? hv]
      simp [forall_bitTexts_eq_iff]
    | none =>
      cases hread : readWord? cell with
      | some v => simp [translatedWord?_of_readWord? hv hread]
      | none => simpa using translations_keep_iff positions cell

/-- A whole number is an operand as itself. -/
theorem operand_of_integer? {text : String} {v : Int}
    (h : Text.integer? (Text.trim text) = some v) : Operand.parse text = .literal text := by
  rw [Text.integer?, Text.toList_trim] at h
  rw [Operand.parse, Column.parse?]
  split
  · rename_i n hn
    split at hn
    · rename_i digits hdigits
      rw [hdigits, Chars.integer?_eq_some_iff (by simp), Chars.dropPlus_of_ne (by simp)] at h
      obtain ⟨m, hm, -⟩ := h
      exact absurd ((Chars.digits?_eq_some_iff.1 hm).2.1 '$' List.mem_cons_self) (by decide)
    · exact absurd hn (by simp)
  · rfl

/-- **Which bits are translated.** A cell becomes the translations of the bits of the word that is
read in it as a double, and the operator `and`, with the power of a bit, keeps the bit of the word
that it reads. A cell in which it reads none stays exactly if it is no number, so fractions do not,
and in a whole number it sees the same bits exactly if the double has them. -/
theorem translates_held_bits {ctx : OperatorContext} {bits : String} {positions : List Nat}
    {ref : TranslationRef} {table : Translation} (hbits : bitList? bits = some positions)
    (htable : ctx.translation? ref = some table) (position : Nat) (t : Table) :
    ((Operator.perBitTranslation (position + 1) bits ref).apply ctx t).rows =
        t.rows.map (·.modify position fun cell =>
          (translatedWord? cell).elim cell (bitTexts table positions)) ∧
      (∀ b ∈ positions,
        ((Operator.bitwise .and (position + 1) (toString (2 ^ b : Int))).apply ctx t).rows =
          t.rows.map (·.modify position fun cell => (readWord? cell).elim cell fun v =>
            toString (if wordBit v b then 2 ^ b else 0 : Int))) ∧
      ∀ cell, BitsReading positions cell := by
  have hlt (b : Nat) (hb : b ∈ positions) : b < 63 := lt_of_mem_bitList? hbits hb
  refine ⟨?_, fun b hb => ?_, bitsReading positions⟩
  · rw [Operator.apply, translateBitsColumn, hbits, htable]
    refine Table.rows_mapColumn (fun position row cell hcell => ?_) position t
    rw [translatedWord?]
    cases Text.number? cell with
    | none => exact (Row.set_of_getElem? hcell).symm
    | some x =>
      exact congrArg _ (translateBits_eq (fun b hb => (hlt b hb).trans (by decide)) _ _)
  · have hpow : (2 : Int) ^ b < 2 ^ 63 := by
      exact_mod_cast Nat.pow_lt_pow_right (by decide) (hlt b hb)
    have hpos : (0 : Int) < 2 ^ b := by positivity
    have hinteger : Text.integer? (Text.trim (toString (2 ^ b : Int))) = some (2 ^ b) :=
      Text.integer?_toString (by omega) hpow
    rw [Operator.apply, Bitwise.onColumn, operand_of_integer? hinteger]
    refine Table.rows_mapColumn (fun position row cell hcell => ?_) position t
    rw [Operand.resolve, Option.bind_some, readWord?_of_integer? hinteger]
    cases readWord? cell with
    | none => exact (Row.set_of_getElem? hcell).symm
    | some v =>
      change row.set position (toString (Bitwise.and.apply v (2 ^ b))) = _
      rw [Bitwise.apply_and_two_pow v (hlt b hb)]
      rfl

namespace FanBits

/-- The lowest bit of a fan is set if it has failed. -/
def states : Translation := .ofList [("0,0", "OK"), ("0,1", "Fan Failure")]

def context : OperatorContext := ⟨.ofList [("states", states)], .empty, none⟩

def translation : Operator := .perBitTranslation 2 "0" (.named "states")

/-- The bits of fans, one without. -/
def table : Table := .ofRows [["left", "5"], ["right", "6"], ["rear", "n/a"]]

theorem reads_fan_bits :
    bitList? "0" = some [0] ∧ context.translation? (.named "states") = some states ∧
      (translation.apply context table).rows =
        [["left", "Fan Failure"], ["right", "OK"], ["rear", "n/a"]] ∧
      ((Operator.bitwise .and 2 (toString (2 ^ 0 : Int))).apply context table).rows =
        [["left", "1"], ["right", "0"], ["rear", "n/a"]] ∧
      (translation.apply context table).rows = table.rows.map (·.modify 1 fun cell =>
        (translatedWord? cell).elim cell (bitTexts states [0])) ∧
      ∀ cell, BitsReading [0] cell :=
  have hbits : bitList? "0" = some [0] := by decide
  have hstates : context.translation? (.named "states") = some states := by decide
  have htranslates := translates_held_bits hbits hstates 1 table
  ⟨hbits, hstates, by decide +kernel, by decide +kernel, htranslates.1, htranslates.2.2⟩

/-- A fraction is translated, and an odd number as the even one next to it. -/
theorem translates_fraction_and_neighbour :
    (translation.apply context (.ofRows [["left", "1.5"], ["right", "9007199254740993"]])).rows =
        [["left", "Fan Failure"], ["right", "OK"]] ∧
      (∃ x, Text.number? "1.5" = some x ∧ Decimal.isWhole x = false) ∧
      Text.integer? "9007199254740993" = some 9007199254740993 ∧
      wordBit 9007199254740993 0 = true :=
  ⟨by decide +kernel, ⟨Float.ofScientific 15 true 1, by decide +kernel, by decide +kernel⟩,
    by decide +kernel, by decide +kernel⟩

end FanBits

end HardwareWatch
