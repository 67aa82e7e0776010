import HardwareWatch.Mapping.Directive
import HardwareWatch.Proofs.Text.Numerals
import Mathlib.Data.List.Basic

/-!
# Texts with references as tokens

A text with references to columns is read from left to right into tokens, in exactly one way.
Putting cells in is writing what each token stands for, so what was put in is not read again.

* `TextToken` is a dollar that is written twice, a reference, or a character that stands for itself.
  `TextToken.Reads` says which tokens a text is read into. References to the number of the row are
  tokens in directives only.
* `Column.substituteFrom_reads` and `Column.occursFrom_reads` follow the tokens one by one.
* `Column.substitute_by_tokens` is the result for references to columns.
-/

namespace HardwareWatch

/-! ## Tokens -/

/-- A part of a text with references. -/
inductive TextToken
  /-- A dollar, written twice. -/
  | dollar
  /-- A dollar and the number of a column, which stand for a cell. -/
  | column (n : Nat)
  /-- The reference to the number of the row. -/
  | rowNumber
  /-- A character that stands for itself. -/
  | letter (c : Char)
  deriving DecidableEq

namespace TextToken

/-- The reference to the number of the row, less its dollar. -/
def indexWord : Chars := ['i', 'n', 'd', 'e', 'x']

/-- How the token is written. -/
def spelling : TextToken → Chars
  | dollar => ['$', '$']
  | column n => '$' :: (toString n).toList
  | rowNumber => '$' :: indexWord
  | letter c => [c]

/-- What the token stands for in a row with a number. -/
def value (row : Row) (number : Nat) : TextToken → Chars
  | dollar => ['$']
  | column n => (row[n - 1]?.getD "").toList
  | rowNumber => (toString number).toList
  | letter c => [c]

/-- Whether the token may be read in front of a text. The number of a column is positive and goes as
far as there are digits, and a dollar stands for itself only where no other token starts with it.
References to the number of the row are read only if `numbered`. -/
def StandsBefore (numbered : Bool) (s : Chars) : TextToken → Prop
  | dollar => True
  | column n => 0 < n ∧ Chars.StartsNoDigit s
  | rowNumber => numbered = true
  | letter c => c = '$' → (∀ d ∈ s.head?, d ≠ '$' ∧ (Chars.isDigit d → d = '0')) ∧
      (numbered = true → ¬indexWord <+: s)

/-- The tokens that a text is read into from left to right. -/
inductive Reads (numbered : Bool) : List TextToken → Chars → Prop
  | nil : Reads numbered [] []
  | cons {t : TextToken} {ts : List TextToken} {s : Chars} (h : t.StandsBefore numbered s)
      (hts : Reads numbered ts s) : Reads numbered (t :: ts) (t.spelling ++ s)

end TextToken

/-! ## What stands behind a dollar -/

namespace Column

variable {row : Row} {c : Char} {s : Chars}

theorem startsNumber_iff : startsNumber s ↔ ∃ c ∈ s.head?, Chars.isDigit c ∧ c ≠ '0' := by
  cases s <;> simp [startsNumber]

theorem startsNumber_append (hs : startsNumber s) (s' : Chars) : startsNumber (s ++ s') := by
  cases s with
  | nil => cases hs
  | cons c s => exact hs

theorem startsNumber_toDigits {n : Nat} (hn : 0 < n) : startsNumber (Nat.toDigits 10 n) := by
  have hhead := List.head?_eq_some_head (Nat.toDigits_ne_nil (n := n) (b := 10))
  refine startsNumber_iff.2
    ⟨_, hhead, Chars.isDigit_of_mem_toDigits (List.head_mem _), fun he => ?_⟩
  exact Chars.head?_toDigits hn (he ▸ hhead)

/-- Digits that do not start with zero are the decimal of a positive number. -/
theorem exists_toDigits_append (h : startsNumber s) :
    ∃ n, 0 < n ∧ s = Nat.toDigits 10 n ++ s.dropWhile Chars.isDigit := by
  cases s with
  | nil => cases h
  | cons c s =>
    obtain ⟨d, hd, hdigit, hzero⟩ := startsNumber_iff.1 h
    obtain rfl : c = d := by simpa using hd
    obtain ⟨hdigits, hpos⟩ := Chars.toDigits_digitsValue hdigit hzero
      (s := s.takeWhile Chars.isDigit) fun _ => List.mem_takeWhile_imp
    refine ⟨_, hpos, ?_⟩
    rw [hdigits, List.dropWhile_cons_of_pos hdigit, List.cons_append,
      List.takeWhile_append_dropWhile]

theorem substituteFrom_drop (skip : Nat) (s : Chars) :
    substituteFrom row skip s = substituteFrom row 0 (s.drop skip) := by
  induction skip generalizing s with
  | zero => rfl
  | succ skip ih =>
    cases s with
    | nil => rfl
    | cons c s => exact ih s

theorem substituteFrom_cons_of_ne (hc : c ≠ '$') (s : Chars) :
    substituteFrom row 0 (c :: s) = c :: substituteFrom row 0 s := by
  rw [substituteFrom, if_pos (bne_iff_ne.2 hc)]

theorem head?_ne_of_startsNumber (h : startsNumber s) : s.head? ≠ some '$' := by
  intro he
  obtain ⟨d, hd, hdigit, -⟩ := startsNumber_iff.1 h
  rw [he, Option.mem_some_iff] at hd
  exact absurd (hd ▸ hdigit) (by decide)

theorem substituteFrom_number (h : startsNumber s) :
    substituteFrom row 0 ('$' :: s) =
      ((cell? row (Chars.digitsValue (s.takeWhile Chars.isDigit))).getD "").toList ++
        substituteFrom row 0 (s.dropWhile Chars.isDigit) := by
  have hdrop : s.drop (s.takeWhile Chars.isDigit).length = s.dropWhile Chars.isDigit := by
    have h : (s.takeWhile Chars.isDigit ++ s.dropWhile Chars.isDigit).drop
        (s.takeWhile Chars.isDigit).length = s.dropWhile Chars.isDigit := List.drop_left
    rwa [List.takeWhile_append_dropWhile] at h
  rw [substituteFrom, if_neg (by decide), if_neg (by simpa using head?_ne_of_startsNumber h),
    if_pos h]
  dsimp only
  rw [substituteFrom_drop, hdrop]

theorem substituteFrom_lone (hhead : s.head? ≠ some '$') (hnumber : startsNumber s = false) :
    substituteFrom row 0 ('$' :: s) = '$' :: substituteFrom row 0 s := by
  rw [substituteFrom, if_neg (by decide), if_neg (by simpa using hhead), hnumber,
    if_neg Bool.false_ne_true]

theorem occursFrom_lone (hhead : s.head? ≠ some '$') :
    occursFrom 0 ('$' :: s) = (startsNumber s || occursFrom 0 s) := by
  rw [occursFrom, if_neg (by decide), if_neg (by simpa using hhead)]

end Column

/-! ## The tokens of a text -/

namespace TextToken

variable {numbered : Bool} {t u : TextToken} {ts us : List TextToken} {s s' : Chars} {row : Row}
  {number : Nat}

theorem toList_toString (n : Nat) : (toString n).toList = Nat.toDigits 10 n := by
  rw [Nat.toString_eq_repr, Nat.toList_repr]

theorem StandsBefore.head?_ne (h : (letter '$').StandsBefore numbered s) : s.head? ≠ some '$' :=
  fun he => ((h rfl).1 _ he).1 rfl

theorem StandsBefore.startsNumber_eq (h : (letter '$').StandsBefore numbered s) :
    Column.startsNumber s = false := by
  refine Bool.not_eq_true _ ▸ fun hnumber => ?_
  obtain ⟨c, hc, hdigit, hzero⟩ := Column.startsNumber_iff.1 hnumber
  exact hzero (((h rfl).1 c hc).2 hdigit)

/-- The first token of a text, and the text behind it. -/
def first? (numbered : Bool) : Chars → Option (TextToken × Chars)
  | [] => none
  | c :: s =>
    if c ≠ '$' then some (letter c, s)
    else if s.head? = some '$' then some (dollar, s.tail)
    else if Column.startsNumber s then
      some (column (Chars.digitsValue (s.takeWhile Chars.isDigit)), s.dropWhile Chars.isDigit)
    else if numbered = true ∧ indexWord <+: s then some (rowNumber, s.drop indexWord.length)
    else some (letter c, s)

theorem first?_spelling_append (h : t.StandsBefore numbered s) :
    first? numbered (t.spelling ++ s) = some (t, s) := by
  cases t with
  | dollar => rfl
  | column n =>
    have hnumber := Column.startsNumber_append (Column.startsNumber_toDigits h.1) s
    change first? numbered ('$' :: ((toString n).toList ++ s)) = _
    rw [toList_toString, first?, if_neg (by simp), if_neg (Column.head?_ne_of_startsNumber hnumber),
      if_pos hnumber, Chars.takeWhile_toDigits_append h.2, Chars.dropWhile_toDigits_append h.2,
      Chars.digitsValue_toDigits]
  | rowNumber =>
    change first? numbered ('$' :: (indexWord ++ s)) = _
    rw [first?, if_neg (by simp), if_neg (by simp [indexWord]),
      if_neg (by simp [indexWord, Column.startsNumber, Chars.isDigit]),
      if_pos ⟨h, List.prefix_append ..⟩, List.drop_left]
  | letter d =>
    change first? numbered (d :: s) = _
    by_cases hd : d = '$'
    · subst hd
      rw [first?, if_neg (by simp), if_neg h.head?_ne, h.startsNumber_eq, if_neg Bool.false_ne_true,
        if_neg fun hindex => (h rfl).2 hindex.1 hindex.2]
    · rw [first?, if_pos hd]

/-- A text that is not empty starts with a token. -/
theorem exists_standsBefore (numbered : Bool) (c : Char) (s : Chars) :
    ∃ t r, c :: s = spelling t ++ r ∧ t.StandsBefore numbered r := by
  by_cases hc : c = '$'
  · subst hc
    by_cases hhead : s.head? = some '$'
    · obtain ⟨r, rfl⟩ := List.head?_eq_some_iff.1 hhead
      exact ⟨dollar, r, rfl, trivial⟩
    · by_cases hnumber : Column.startsNumber s
      · obtain ⟨n, hn, hs⟩ := Column.exists_toDigits_append hnumber
        refine ⟨column n, s.dropWhile Chars.isDigit, ?_, hn, Chars.startsNoDigit_dropWhile s⟩
        rw [spelling, toList_toString, List.cons_append, ← hs]
      · by_cases hindex : numbered = true ∧ indexWord <+: s
        · obtain ⟨hnumbered, r, rfl⟩ := hindex
          exact ⟨rowNumber, r, rfl, hnumbered⟩
        · refine ⟨letter '$', s, rfl, fun _ => ⟨fun d hd => ⟨fun he => hhead (he ▸ hd),
            fun hdigit => ?_⟩, fun h h' => hindex ⟨h, h'⟩⟩⟩
          by_contra hzero
          exact hnumber (Column.startsNumber_iff.2 ⟨d, hd, hdigit, hzero⟩)
  · exact ⟨letter c, s, rfl, fun he => absurd he hc⟩

/-- A text is read into one list of tokens at most. -/
theorem Reads.unique (h : Reads numbered ts s) (h' : Reads numbered us s) : us = ts := by
  induction h generalizing us with
  | nil =>
    generalize hs : ([] : Chars) = s at h'
    cases h' with
    | nil => rfl
    | @cons u _ _ hu _ => cases u <;> cases hs
  | @cons t ts s ht _ ih =>
    generalize hs : t.spelling ++ s = s' at h'
    cases h' with
    | nil => cases t <;> cases hs
    | @cons u us r hu hus =>
      have hfirst := first?_spelling_append ht
      rw [hs, first?_spelling_append hu] at hfirst
      obtain ⟨rfl, rfl⟩ := Prod.mk.inj (Option.some.inj hfirst)
      rw [ih hus]

theorem Reads.cons_letter {c : Char} (hc : c ≠ '$') (h : Reads numbered ts s) :
    Reads numbered (.letter c :: ts) (c :: s) :=
  .cons (t := .letter c) (fun he => absurd he hc) h

/-- Every text is read into tokens. -/
theorem exists_reads (numbered : Bool) (s : Chars) : ∃ ts, Reads numbered ts s := by
  induction hlen : s.length using Nat.strongRecOn generalizing s with
  | ind n ih =>
    cases s with
    | nil => exact ⟨[], .nil⟩
    | cons c s =>
      obtain ⟨t, r, hs, ht⟩ := exists_standsBefore numbered c s
      have hshort : r.length < n := by
        have hpos : 0 < t.spelling.length := by cases t <;> exact Nat.succ_pos _
        rw [← hlen, hs, List.length_append]
        omega
      obtain ⟨ts, hts⟩ := ih _ hshort r rfl
      exact ⟨t :: ts, hs ▸ .cons ht hts⟩

/-! ## What becomes of the tokens -/

theorem substituteFrom_spelling_append (h : t.StandsBefore false s) :
    Column.substituteFrom row 0 (t.spelling ++ s) =
      t.value row number ++ Column.substituteFrom row 0 s := by
  cases t with
  | dollar => rfl
  | column n =>
    have hnumber := Column.startsNumber_append (Column.startsNumber_toDigits h.1) s
    change Column.substituteFrom row 0 ('$' :: ((toString n).toList ++ s)) = _
    rw [toList_toString, Column.substituteFrom_number hnumber,
      Chars.takeWhile_toDigits_append h.2, Chars.dropWhile_toDigits_append h.2,
      Chars.digitsValue_toDigits, Column.cell?, if_neg h.1.ne', value]
  | rowNumber => cases h
  | letter d =>
    change Column.substituteFrom row 0 (d :: s) = d :: Column.substituteFrom row 0 s
    by_cases hd : d = '$'
    · subst hd
      exact Column.substituteFrom_lone h.head?_ne h.startsNumber_eq
    · exact Column.substituteFrom_cons_of_ne hd s

theorem occursFrom_spelling_append (h : t.StandsBefore false s) :
    Column.occursFrom 0 (t.spelling ++ s) ↔ (∃ n, t = column n) ∨ Column.occursFrom 0 s := by
  cases t with
  | dollar => exact (or_iff_right fun ⟨_, h⟩ => nomatch h).symm
  | column n =>
    have hnumber := Column.startsNumber_append (Column.startsNumber_toDigits h.1) s
    change Column.occursFrom 0 ('$' :: ((toString n).toList ++ s)) ↔ _
    rw [toList_toString, Column.occursFrom_lone (Column.head?_ne_of_startsNumber hnumber), hnumber]
    exact iff_of_true rfl (.inl ⟨n, rfl⟩)
  | rowNumber => cases h
  | letter d =>
    refine Iff.trans ?_ (or_iff_right fun ⟨_, h⟩ => nomatch h).symm
    change Column.occursFrom 0 (d :: s) ↔ Column.occursFrom 0 s
    by_cases hd : d = '$'
    · subst hd
      rw [Column.occursFrom_lone h.head?_ne, h.startsNumber_eq, Bool.false_or]
    · rw [Column.occursFrom, if_pos (bne_iff_ne.2 hd)]

/-- The cells are put in token by token. -/
theorem Reads.substituteFrom_eq (h : Reads false ts s) :
    Column.substituteFrom row 0 s = ts.flatMap (value row number) := by
  induction h with
  | nil => rfl
  | cons ht _ ih => rw [substituteFrom_spelling_append ht, ih, List.flatMap_cons]

/-- There is a reference exactly if one is among the tokens. -/
theorem Reads.occursFrom_iff (h : Reads false ts s) :
    Column.occursFrom 0 s ↔ ∃ n, column n ∈ ts := by
  induction h with
  | nil => simp [Column.occursFrom]
  | cons ht _ ih => simp [occursFrom_spelling_append ht, ih, exists_or, eq_comm]

/-- Only references to columns depend on the row. -/
theorem value_eq_of_ne_column (h : ∀ n, t ≠ column n) (row row' : Row) :
    t.value row number = t.value row' number := by
  cases t with
  | column n => exact absurd rfl (h n)
  | dollar | rowNumber | letter => rfl

end TextToken

open TextToken

/-- **Cells are put in token by token.** A text is read from left to right into tokens in exactly
one way. With the cells of a row put in it is what the tokens stand for, one after the other, so
what is put in is not read again. It has a reference exactly if one is among its tokens, and
otherwise it comes to the same for every row. -/
theorem Column.substitute_by_tokens (text : String) :
    ∃ ts, (∀ us, Reads false us text.toList ↔ us = ts) ∧
      (∀ row number, substitute row text = .ofList (ts.flatMap (value row number))) ∧
      (occursIn text ↔ ∃ n, .column n ∈ ts) ∧
      (occursIn text = false → ∀ row row', substitute row text = substitute row' text) := by
  obtain ⟨ts, hts⟩ := exists_reads false text.toList
  have hvalue (row : Row) (number : Nat) :
      substitute row text = .ofList (ts.flatMap (value row number)) := by
    rw [substitute, hts.substituteFrom_eq]
  have hoccurs : occursIn text ↔ ∃ n, .column n ∈ ts := hts.occursFrom_iff
  refine ⟨ts, fun us => ⟨hts.unique, fun he => he ▸ hts⟩, hvalue, hoccurs, fun hnone row row' => ?_⟩
  have hcolumn : ∀ t ∈ ts, ∀ n, t ≠ column n := fun t ht n he =>
    Bool.eq_false_iff.1 hnone (hoccurs.2 ⟨n, he ▸ ht⟩)
  rw [hvalue row 0, hvalue row' 0, List.flatMap_congr fun t ht =>
    value_eq_of_ne_column (hcolumn t ht) row row']

end HardwareWatch
