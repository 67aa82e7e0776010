import HardwareWatch.Json.Printer
import HardwareWatch.Json.Reader
import HardwareWatch.Json.Token
import HardwareWatch.Proofs.Text.Numerals
import Mathlib.Data.List.TakeWhile
import Mathlib.Data.Option.Basic

/-!
# Tokens of written documents, and reading them back

The document that a value is written to is cut into the tokens of the value, whatever follows it, as
long as that does not go on with a word. Values with a double or without a value are left out: a
double may be read back as another one.

* `Json.Plain P room v` says that the numbers in a value are natural numbers with `P`, and that its
  arrays and objects are nested at most `room` deep.
* `Json.tokens` are the tokens of a value.
* `Json.scanFrom?_printChars` is the main statement.
* `Json.read?_print`: the cursor reads the tokens of a value as that value, whatever is open around
  it, as long as nothing is nested too deep. So the document of a plain value is read back.
-/

namespace HardwareWatch.Json

variable {P : Nat → Prop} {room : Nat}

/-! ## Plain values -/

mutual

/-- All numbers are natural numbers with `P`, and nothing is nested deeper than `room`. -/
def Plain (P : Nat → Prop) (room : Nat) : Json → Prop
  | .integer n => ∃ m : Nat, n = m ∧ P m
  | .array items => 0 < room ∧ PlainItems P (room - 1) items
  | .object fields => 0 < room ∧ PlainFields P (room - 1) fields
  | .double _ | .unreadable => False
  | .null | .bool _ | .text _ => True

/-- All items are plain. -/
def PlainItems (P : Nat → Prop) (room : Nat) : List Json → Prop
  | [] => True
  | v :: rest => Plain P room v ∧ PlainItems P room rest

/-- The values of all fields are plain. -/
def PlainFields (P : Nat → Prop) (room : Nat) : List (String × Json) → Prop
  | [] => True
  | (_, v) :: rest => Plain P room v ∧ PlainFields P room rest

end

theorem plainItems_iff {items : List Json} :
    PlainItems P room items ↔ ∀ v ∈ items, Plain P room v := by
  induction items with
  | nil => simp [PlainItems]
  | cons v rest ih => simp [PlainItems, ih]

theorem plainFields_iff {fields : List (String × Json)} :
    PlainFields P room fields ↔ ∀ f ∈ fields, Plain P room f.2 := by
  induction fields with
  | nil => simp [PlainFields]
  | cons f rest ih => simp [PlainFields, ih]

theorem plain_array {items : List Json} (h : ∀ v ∈ items, Plain P room v) :
    Plain P (room + 1) (.array items) :=
  ⟨room.succ_pos, plainItems_iff.2 h⟩

theorem plain_object {fields : List (String × Json)} (h : ∀ f ∈ fields, Plain P room f.2) :
    Plain P (room + 1) (.object fields) :=
  ⟨room.succ_pos, plainFields_iff.2 h⟩

/-! ## The tokens of a value -/

mutual

/-- The tokens of the document of a value. -/
def tokens : Json → List Token
  | .text s => [.quoted (some s)]
  | .array items => .openArray :: (List.intercalate [.comma] (itemTokens items) ++ [.closeArray])
  | .object fields =>
    .openObject :: (List.intercalate [.comma] (fieldTokens fields) ++ [.closeObject])
  | v => [.scalar v]

/-- The tokens of the items. -/
def itemTokens : List Json → List (List Token)
  | [] => []
  | v :: rest => v.tokens :: itemTokens rest

/-- The tokens of the fields with their names. -/
def fieldTokens : List (String × Json) → List (List Token)
  | [] => []
  | (name, v) :: rest => (.quoted (some name) :: .colon :: v.tokens) :: fieldTokens rest

end

/-! ## One character -/

namespace Token

theorem scanFrom?_cons {p q : Progress} {c : Char} {ts : List Token}
    (h : advance? p c = some (ts, q)) (s : Chars) :
    scanFrom? p (c :: s) = (scanFrom? q s).map (ts ++ ·) := by
  rw [scanFrom?, h]
  exact Option.map_eq_bind.symm

theorem scanFrom?_cons_nil {p q : Progress} {c : Char} (h : advance? p c = some ([], q))
    (s : Chars) : scanFrom? p (c :: s) = scanFrom? q s := by
  rw [scanFrom?_cons h]
  exact Option.map_id_apply

theorem scanFrom?_mark {c : Char} {t : Token} (h : advance? .idle c = some ([t], .idle))
    (s : Chars) : scanFrom? .idle (c :: s) = (scanFrom? .idle s).map (t :: ·) :=
  scanFrom?_cons h s

/-! ## Texts in quotes -/

theorem hexValue?_hexDigit : ∀ n < 16, Chars.hexValue? (hexDigit n) = some n := by decide

/-- What is read of a character in quotes is its code. -/
theorem scanFrom?_quoteChar (c : Char) (codes : List Nat) (s : Chars) :
    scanFrom? (.quotes codes) (quoteChar c ++ s) = scanFrom? (.quotes (c.toNat :: codes)) s := by
  have short (e : Char) (he : e ≠ 'u') (hc : escaped? e = some c) :
      scanFrom? (.quotes codes) ('\\' :: e :: s) = scanFrom? (.quotes (c.toNat :: codes)) s := by
    rw [scanFrom?_cons_nil (q := .escape codes) rfl, scanFrom?_cons_nil]
    simp [advance?, he, hc]
  unfold quoteChar
  split
  · exact short '\x22' (by decide) rfl
  · exact short '\\' (by decide) rfl
  · exact short 'b' (by decide) rfl
  · exact short 'f' (by decide) rfl
  · exact short 'n' (by decide) rfl
  · exact short 'r' (by decide) rfl
  · exact short 't' (by decide) rfl
  · rename_i hquote hback _ _ _ _ _
    split
    · rename_i hlow
      have high := hexValue?_hexDigit (c.toNat / 16) (by omega)
      have low := hexValue?_hexDigit (c.toNat % 16) (by omega)
      have hcode : 16 * (c.toNat / 16) + c.toNat % 16 = c.toNat := by omega
      simp only [List.cons_append, List.nil_append]
      rw [scanFrom?_cons_nil (q := .escape codes) rfl,
        scanFrom?_cons_nil (q := .code codes 0 4) rfl,
        scanFrom?_cons_nil (q := .code codes 0 3) rfl,
        scanFrom?_cons_nil (q := .code codes 0 2) rfl,
        scanFrom?_cons_nil (q := .code codes (c.toNat / 16) 1) (by simp [advance?, high]),
        scanFrom?_cons_nil (q := .quotes (c.toNat :: codes)) (by simp [advance?, low, hcode])]
    · rename_i hhigh
      refine scanFrom?_cons_nil ?_ s
      rw [advance?, if_neg hquote, if_neg hback, if_neg hhigh]

theorem joinHalves_map_toNat (s : Chars) : joinHalves (s.map Char.toNat) = some s := by
  induction s with
  | nil => rfl
  | cons c s ih =>
    -- No character is half of another one.
    have valid : c.toNat < 0xD800 ∨ 0xDFFF < c.toNat ∧ c.toNat < 0x110000 := c.valid
    have noHigh : ¬(0xD800 ≤ c.toNat ∧ c.toNat < 0xDC00) := by omega
    have noLow : ¬(0xDC00 ≤ c.toNat ∧ c.toNat < 0xE000) := by omega
    rw [List.map_cons, joinHalves.eq_def]
    simp [noHigh, noLow, ih]

theorem scanFrom?_flatMap_quoteChar (s : Chars) (codes : List Nat) (rest : Chars) :
    scanFrom? (.quotes codes) (s.flatMap quoteChar ++ '\x22' :: rest) =
      (scanFrom? .idle rest).map
        (quoted ((joinHalves (codes.reverse ++ s.map Char.toNat)).map .ofList) :: ·) := by
  induction s generalizing codes with
  | nil =>
    rw [List.map_nil, List.append_nil]
    exact scanFrom?_cons (p := .quotes codes) (c := '\x22') (q := .idle) rfl rest
  | cons c s ih =>
    rw [List.flatMap_cons, List.append_assoc, scanFrom?_quoteChar, ih]
    simp

/-- A text in quotes is one token. -/
theorem scanFrom?_quoteChars (s : String) (rest : Chars) :
    scanFrom? .idle (quoteChars s.toList ++ rest) =
      (scanFrom? .idle rest).map (quoted (some s) :: ·) := by
  rw [quoteChars, List.cons_append, List.cons_append, List.append_assoc, List.singleton_append,
    scanFrom?_cons_nil (q := .quotes []) rfl, scanFrom?_flatMap_quoteChar, List.reverse_nil,
    List.nil_append, joinHalves_map_toNat]
  simp

/-! ## Words -/

/-- What follows does not go on with a word. -/
def EndsWord (rest : Chars) : Prop := ∀ c ∈ rest.head?, inWord c = false

theorem endsWord_nil : EndsWord [] := by simp [EndsWord]

theorem endsWord_cons {c : Char} (h : inWord c = false) (s : Chars) : EndsWord (c :: s) := by
  simpa [EndsWord] using h

theorem scanFrom?_word_of_endsWord {seen rest : Chars} (h : EndsWord rest) {t : Token}
    (ht : ofWord? seen.reverse = some t) :
    scanFrom? (.word seen) rest = (scanFrom? .idle rest).map (t :: ·) := by
  cases rest with
  | nil => simp [scanFrom?, finish?, ht]
  | cons c s =>
    have hc : inWord c = false := h c rfl
    simp only [scanFrom?, advance?, hc, ht]
    cases start? c with
    | none => rfl
    | some started => cases h : scanFrom? started.2 s <;> simp [h]

theorem scanFrom?_word_append {w : Chars} (hw : ∀ c ∈ w, inWord c) (seen rest : Chars) :
    scanFrom? (.word seen) (w ++ rest) = scanFrom? (.word (w.reverse ++ seen)) rest := by
  induction w generalizing seen with
  | nil => rfl
  | cons c w ih =>
    rw [List.cons_append, scanFrom?_cons_nil (q := .word (c :: seen)) (by simp [advance?, hw])]
    rw [ih fun d hd => hw d (List.mem_cons_of_mem _ hd)]
    simp

theorem start?_of_inWord {c : Char} (h : inWord c) : start? c = some (none, .word [c]) := by
  have noGap : isGap c = false := by
    refine Bool.eq_false_iff.2 fun hg => ?_
    simp only [isGap, Bool.or_eq_true, beq_iff_eq] at hg
    rcases hg with ((rfl | rfl) | rfl) | rfl <;> revert h <;> decide
  have noQuote : c ≠ '\x22' := by
    rintro rfl
    revert h
    decide
  simp [start?, noGap, noQuote, h]

/-- A word is one token. -/
theorem scanFrom?_ofWord {w : Chars} {t : Token} (hne : w ≠ []) (hw : ∀ c ∈ w, inWord c)
    (ht : ofWord? w = some t) {rest : Chars} (h : EndsWord rest) :
    scanFrom? .idle (w ++ rest) = (scanFrom? .idle rest).map (t :: ·) := by
  cases w with
  | nil => exact absurd rfl hne
  | cons c w =>
    have start : advance? .idle c = some ([], .word [c]) := by
      simp [advance?, start?_of_inWord (hw c List.mem_cons_self)]
    rw [List.cons_append, scanFrom?_cons_nil start,
      scanFrom?_word_append fun d hd => hw d (List.mem_cons_of_mem _ hd)]
    exact scanFrom?_word_of_endsWord h (by simpa using ht)

/-! ## Numerals -/

/-- A row of digits is a numeral of nothing else. -/
theorem parse?_of_isDigit {s : Chars} (hd : ∀ c ∈ s, Chars.isDigit c) (hne : s ≠ [])
    (hz : s.length = 1 ∨ s.head? ≠ some '0') : Numeral.parse? s = some ⟨false, s, none, none⟩ := by
  have htake : s.takeWhile Chars.isDigit = s := List.takeWhile_eq_self_iff.2 hd
  have hdrop : s.dropWhile Chars.isDigit = [] := List.dropWhile_eq_nil_iff.2 hd
  have hwhole : (s != [] && (s.length == 1 || s.head? != some '0')) = true := by
    simpa [hne] using hz
  unfold Numeral.parse?
  split
  rename_i hsign
  split at hsign
  · exact absurd (hd '-' List.mem_cons_self) (by decide)
  · obtain ⟨rfl, rfl⟩ := Prod.mk.inj hsign
    simp only [htake, hdrop, hwhole]
    rfl

theorem parse?_toDigits (m : Nat) :
    Numeral.parse? (Nat.toDigits 10 m) = some ⟨false, Nat.toDigits 10 m, none, none⟩ := by
  refine parse?_of_isDigit (fun c => Chars.isDigit_of_mem_toDigits) Nat.toDigits_ne_nil ?_
  rcases Nat.eq_zero_or_pos m with rfl | hm
  · exact .inl rfl
  · exact .inr (Chars.head?_toDigits hm)

theorem toList_toString_natCast (m : Nat) : (toString (m : Int)).toList = Nat.toDigits 10 m := by
  simp [Int.repr_eq_if]

theorem ofWord?_toDigits {m : Nat} (h : m < word64) :
    ofWord? (Nat.toDigits 10 m) = some (scalar (.integer m)) := by
  have noWord {w : Chars} {c : Char} (hw : c ∈ w) (hc : Chars.isDigit c = false) :
      Nat.toDigits 10 m ≠ w := by
    rintro rfl
    exact absurd (Chars.isDigit_of_mem_toDigits hw) (by simp [hc])
  rw [ofWord?, if_neg (noWord (c := 'n') (by decide) (by decide)),
    if_neg (noWord (c := 't') (by decide) (by decide)),
    if_neg (noWord (c := 'f') (by decide) (by decide)), parse?_toDigits]
  simp [Numeral.value, Chars.digitsValue_toDigits, h]

theorem inWord_of_mem_toDigits {m : Nat} {c : Char} (h : c ∈ Nat.toDigits 10 m) : inWord c := by
  have hd : c.isDigit = true := Nat.isDigit_of_mem_toDigits (by decide) (by decide) h
  simp [inWord, Char.isAlphanum, hd]

/-- A natural number is one token. -/
theorem scanFrom?_toString {m : Nat} (h : m < word64) {rest : Chars} (hr : EndsWord rest) :
    scanFrom? .idle ((toString (m : Int)).toList ++ rest) =
      (scanFrom? .idle rest).map (scalar (.integer m) :: ·) := by
  rw [toList_toString_natCast]
  exact scanFrom?_ofWord Nat.toDigits_ne_nil (fun _ => inWord_of_mem_toDigits)
    (ofWord?_toDigits h) hr

end Token

/-! ## Values -/

open Token

theorem join_cons_cons (x y : Chars) (pieces : List Chars) :
    Chars.join [','] (x :: y :: pieces) = x ++ ',' :: Chars.join [','] (y :: pieces) := by
  rw [Chars.join_cons_of_ne_nil _ _ (List.cons_ne_nil _ _)]
  simp

theorem scanFrom?_field (name : String) {s rest : Chars} {ts : List Token}
    (h : scanFrom? .idle (s ++ rest) = (scanFrom? .idle rest).map (ts ++ ·)) :
    scanFrom? .idle ((quoteChars name.toList ++ ':' :: s) ++ rest) =
      (scanFrom? .idle rest).map ((.quoted (some name) :: .colon :: ts) ++ ·) := by
  rw [List.append_assoc, List.cons_append, scanFrom?_quoteChars, scanFrom?_mark (c := ':') rfl, h]
  simp [Function.comp_def]

mutual

/-- The document of a plain value is cut into the tokens of the value. -/
theorem scanFrom?_printChars (v : Json) {room : Nat} (hv : Plain (· < word64) room v)
    {rest : Chars} (h : EndsWord rest) :
    scanFrom? .idle (v.printChars ++ rest) = (scanFrom? .idle rest).map (v.tokens ++ ·) := by
  cases v with
  | null => exact scanFrom?_ofWord (by decide) (List.all_eq_true.1 (by decide)) rfl h
  | bool b =>
    cases b <;> exact scanFrom?_ofWord (by decide) (List.all_eq_true.1 (by decide)) rfl h
  | integer n =>
    obtain ⟨m, rfl, hm⟩ := hv
    exact scanFrom?_toString hm h
  | double x => exact hv.elim
  | text s => exact scanFrom?_quoteChars s rest
  | array items =>
    rw [printChars, List.cons_append, List.cons_append, List.append_assoc, List.singleton_append,
      scanFrom?_mark (c := '[') rfl, scanFrom?_printItems items hv.2 (endsWord_cons (by decide) _),
      scanFrom?_mark (c := ']') rfl]
    simp [tokens, Function.comp_def]
  | object fields =>
    rw [printChars, List.cons_append, List.cons_append, List.append_assoc, List.singleton_append,
      scanFrom?_mark (c := '\x7b') rfl,
      scanFrom?_printFields fields hv.2 (endsWord_cons (by decide) _),
      scanFrom?_mark (c := '\x7d') rfl]
    simp [tokens, Function.comp_def]
  | unreadable => exact hv.elim

theorem scanFrom?_printItems (items : List Json) {room : Nat}
    (hv : PlainItems (· < word64) room items) {rest : Chars} (h : EndsWord rest) :
    scanFrom? .idle (Chars.join [','] (printItems items) ++ rest) =
      (scanFrom? .idle rest).map (List.intercalate [.comma] (itemTokens items) ++ ·) := by
  match items with
  | [] => simp [printItems, itemTokens, Chars.join]
  | [v] =>
    have hread := scanFrom?_printChars v hv.1 h
    simpa [printItems, itemTokens, Chars.join] using hread
  | v :: w :: more =>
    have hread := scanFrom?_printItems (w :: more) hv.2 h
    simp only [printItems, itemTokens] at hread ⊢
    rw [join_cons_cons, List.append_assoc, List.cons_append,
      scanFrom?_printChars v hv.1 (endsWord_cons (by decide) _), scanFrom?_mark (c := ',') rfl,
      hread]
    simp [Function.comp_def]

theorem scanFrom?_printFields (fields : List (String × Json)) {room : Nat}
    (hv : PlainFields (· < word64) room fields) {rest : Chars} (h : EndsWord rest) :
    scanFrom? .idle (Chars.join [','] (printFields fields) ++ rest) =
      (scanFrom? .idle rest).map (List.intercalate [.comma] (fieldTokens fields) ++ ·) := by
  match fields with
  | [] => simp [printFields, fieldTokens, Chars.join]
  | [(name, v)] =>
    have hread := scanFrom?_field name (scanFrom?_printChars v hv.1 h)
    simpa [printFields, fieldTokens, Chars.join] using hread
  | (name, v) :: f :: more =>
    have hread := scanFrom?_printFields (f :: more) hv.2 h
    obtain ⟨name', v'⟩ := f
    simp only [printFields, fieldTokens] at hread ⊢
    rw [join_cons_cons, List.append_assoc, List.cons_append,
      scanFrom?_field name (scanFrom?_printChars v hv.1 (endsWord_cons (by decide) _)),
      scanFrom?_mark (c := ',') rfl, hread]
    simp [Function.comp_def]

end

/-- The document of a plain value has the tokens of the value. -/
theorem scan?_printChars {v : Json} (hv : Plain (· < word64) room v) :
    scan? v.printChars = some v.tokens := by
  have h := scanFrom?_printChars v hv endsWord_nil
  simpa [scan?, scanFrom?, finish?] using h

end HardwareWatch.Json

/-! ## Reading written documents -/

namespace HardwareWatch.Json

variable {P : Nat → Prop}

namespace Cursor

theorem run?_cons {a b : Cursor} {t : Token} (h : step? a t = some b) (rest : List Token) :
    run? a (t :: rest) = run? b rest := by
  rw [run?, h, Option.bind_some]

/-- What is closed has a value where it is not nested too deep. -/
theorem close_eq_deliver {v : Json} {outer : List Frame} {room : Nat} (hroom : 0 < room)
    (h : outer.length + room ≤ depthLimit) : close v outer = deliver v outer := by
  have hdrop : outer.drop (depthLimit - 1) = [] := List.drop_eq_nil_of_le (by omega)
  rw [close, hdrop]
  rfl

/-- The first token of a value does not end an array. -/
theorem exists_tokens_eq_cons (v : Json) :
    ∃ t rest, v.tokens = t :: rest ∧ ∀ stack, close? stack t = none := by
  cases v <;>
    exact ⟨_, _, rfl, fun stack => by rcases stack with _ | ⟨_ | _, _⟩ <;> rfl⟩

theorem exists_intercalate_eq (sep x : List Token) (l : List (List Token)) :
    ∃ rest, List.intercalate sep (x :: l) = x ++ rest := by
  cases l with
  | nil => exact ⟨[], by simp⟩
  | cons y l => exact ⟨_, by rw [List.intercalate_cons_cons, List.append_assoc]⟩

/-- The first item of an array is read as any other value. -/
theorem run?_firstItem (v : Json) (more : List Json) (stack : List Frame) (rest : List Token) :
    run? ⟨stack, .firstItem⟩ (List.intercalate [.comma] (itemTokens (v :: more)) ++ rest) =
      run? ⟨stack, .value⟩ (List.intercalate [.comma] (itemTokens (v :: more)) ++ rest) := by
  obtain ⟨t, ts, htokens, hopen⟩ := exists_tokens_eq_cons v
  obtain ⟨behind, hbehind⟩ := exists_intercalate_eq [.comma] (t :: ts) (itemTokens more)
  simp only [itemTokens, htokens, hbehind, List.cons_append, run?, step?, hopen]
  rfl

/-- The first name in an object is read as any other name. -/
theorem run?_firstName (f : String × Json) (more : List (String × Json)) (stack : List Frame)
    (rest : List Token) :
    run? ⟨stack, .firstName⟩ (List.intercalate [.comma] (fieldTokens (f :: more)) ++ rest) =
      run? ⟨stack, .name⟩ (List.intercalate [.comma] (fieldTokens (f :: more)) ++ rest) := by
  obtain ⟨name, v⟩ := f
  obtain ⟨behind, hbehind⟩ :=
    exists_intercalate_eq [.comma] (.quoted (some name) :: .colon :: v.tokens) (fieldTokens more)
  have hopen : close? stack (.quoted (some name)) = none := by
    rcases stack with _ | ⟨_ | _, _⟩ <;> rfl
  simp only [fieldTokens, hbehind, List.cons_append, run?, step?, hopen]
  rfl

/-- The name of a field waits for its value. -/
theorem run?_name (name : String) (read : List (String × Json)) (stack : List Frame)
    (rest : List Token) :
    run? ⟨.fields read none true :: stack, .name⟩ (.quoted (some name) :: .colon :: rest) =
      run? ⟨.fields read (some name) true :: stack, .value⟩ rest :=
  (run?_cons rfl _).trans (run?_cons rfl _)

mutual

/-- The tokens of a plain value are read as the value. -/
theorem run?_tokens (v : Json) {room : Nat} (hv : Plain P room v) (stack : List Frame)
    (h : stack.length + room ≤ depthLimit) (rest : List Token) :
    run? ⟨stack, .value⟩ (v.tokens ++ rest) = run? (deliver v stack) rest := by
  match v with
  | .null | .bool _ | .integer _ | .text _ => exact run?_cons rfl rest
  | .double _ | .unreadable => exact hv.elim
  | .array [] =>
    rw [← close_eq_deliver hv.1 h]
    exact (run?_cons rfl _).trans (run?_cons rfl _)
  | .array (v :: more) =>
    rw [← close_eq_deliver hv.1 h, tokens,
      List.cons_append, List.append_assoc, List.singleton_append,
      run?_cons (b := ⟨.items [] :: stack, .firstItem⟩) rfl, run?_firstItem]
    exact run?_itemTokens (v :: more) (List.cons_ne_nil _ _) hv.2 []
      (by have := hv.1; omega) rest
  | .object [] =>
    rw [← close_eq_deliver hv.1 h]
    exact (run?_cons rfl _).trans (run?_cons rfl _)
  | .object (f :: more) =>
    rw [← close_eq_deliver hv.1 h, tokens,
      List.cons_append, List.append_assoc, List.singleton_append,
      run?_cons (b := ⟨.fields [] none true :: stack, .firstName⟩) rfl, run?_firstName]
    exact run?_fieldTokens (f :: more) (List.cons_ne_nil _ _) hv.2 []
      (by have := hv.1; omega) rest

/-- The items of an array that is open are read behind those that are read already. -/
theorem run?_itemTokens (items : List Json) (hne : items ≠ []) {room : Nat}
    (hv : PlainItems P room items) (read : List Json) {stack : List Frame}
    (h : stack.length + 1 + room ≤ depthLimit) (rest : List Token) :
    run? ⟨.items read :: stack, .value⟩
        (List.intercalate [.comma] (itemTokens items) ++ .closeArray :: rest) =
      run? (close (.array (read.reverse ++ items)) stack) rest := by
  match items with
  | [v] =>
    have hread := run?_tokens v hv.1 (.items read :: stack) h
    simp only [itemTokens, List.intercalate_singleton, hread]
    rw [← List.reverse_cons]
    exact run?_cons rfl rest
  | v :: w :: more =>
    have hread := run?_tokens v hv.1 (.items read :: stack) h
    have hmore := run?_itemTokens (w :: more) (List.cons_ne_nil _ _) hv.2 (v :: read) h rest
    simp only [itemTokens, List.intercalate_cons_cons, List.append_assoc, hread] at hmore ⊢
    rw [deliver, List.singleton_append,
      run?_cons (b := ⟨.items (v :: read) :: stack, .value⟩) rfl, hmore]
    simp

/-- The fields of an object that is open are read behind those that are read already. -/
theorem run?_fieldTokens (fields : List (String × Json)) (hne : fields ≠ []) {room : Nat}
    (hv : PlainFields P room fields) (read : List (String × Json)) {stack : List Frame}
    (h : stack.length + 1 + room ≤ depthLimit) (rest : List Token) :
    run? ⟨.fields read none true :: stack, .name⟩
        (List.intercalate [.comma] (fieldTokens fields) ++ .closeObject :: rest) =
      run? (close (.object (read.reverse ++ fields)) stack) rest := by
  match fields with
  | [(name, v)] =>
    have hread := run?_tokens v hv.1 (.fields read (some name) true :: stack) h
    simp only [fieldTokens, List.intercalate_singleton, List.cons_append, run?_name, hread]
    rw [← List.reverse_cons]
    exact run?_cons rfl rest
  | (name, v) :: (name', v') :: more =>
    have hread := run?_tokens v hv.1 (.fields read (some name) true :: stack) h
    have hmore := run?_fieldTokens ((name', v') :: more) (List.cons_ne_nil _ _) hv.2
      ((name, v) :: read) h rest
    simp only [fieldTokens, List.intercalate_cons_cons, List.append_assoc, List.cons_append,
      run?_name, hread] at hmore ⊢
    rw [deliver, List.nil_append,
      run?_cons (b := ⟨.fields ((name, v) :: read) none true :: stack, .name⟩) rfl, hmore]
    simp

end

end Cursor

/-- The document of a plain value is read back as the value. -/
theorem read?_print {v : Json} (h : Plain (· < word64) depthLimit v) : read? v.print = some v := by
  have hrun := Cursor.run?_tokens v h [] (by simp) []
  rw [List.append_nil] at hrun
  simp [read?, print, scan?_printChars h, ofTokens?, hrun, Cursor.deliver, Cursor.run?]

end HardwareWatch.Json
