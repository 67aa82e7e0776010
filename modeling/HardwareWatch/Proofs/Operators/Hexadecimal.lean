import HardwareWatch.Proofs.Operators.Columns
import HardwareWatch.Proofs.Table.Naming
import HardwareWatch.Proofs.Text.Numerals
import Mathlib.Data.List.Infix
import Mathlib.Data.Nat.Digits.Defs

/-!
# Hexadecimal cells

A cell with a hexadecimal number is converted to a decimal one. Marks `0x` and `0X` are taken out of
the text before its colons and blanks, and wherever they stand, so the texts that are converted are
neither fewer nor more than the numerals with at most one mark in front: of some numerals the mark is
missed, and some texts are converted that are no numerals.

* `Hexadecimal.Numeral` says that a text is a numeral apart from colons and blanks.
* `Hexadecimal.Without` says what remains of a text without the marks of a letter, and
  `Hexadecimal.Reads` which number a text is converted to; `Hexadecimal.read?_eq_some_iff` says that
  this is what happens.
* `Hexadecimal.Torn` and `Hexadecimal.Stray` are the two ways in which a text goes wrong.
* `Hexadecimal.converts_numerals_iff` is the main statement.
-/

namespace HardwareWatch

namespace Hexadecimal

/-! ## Numerals -/

/-- The letters of a mark. -/
def letters : List Char := ['x', 'X']

theorem forall_letters_iff {p : Char → Prop} : (∀ x ∈ letters, p x) ↔ p 'x' ∧ p 'X' := by
  simp [letters]

/-- Neither the sign nor the letter of a mark is its zero. -/
theorem ne_zero_of_mem : ∀ c ∈ '+' :: letters, c ≠ '0' :=
  List.forall_mem_cons.2 ⟨by decide, forall_letters_iff.2 (by decide)⟩

/-- Whether the character counts. Colons and blanks do not. -/
def counts (c : Char) : Bool := c != ':' && !Chars.isBlank c

/-- The text without colons and blanks. -/
def bare (s : Chars) : Chars := s.filter counts

/-- The text is one or more hexadecimal digits of a number that fits in 64 bits. -/
def Digits (s : Chars) (n : Nat) : Prop :=
  s ≠ [] ∧ ∃ ds, List.Forall₂ (fun c d => Chars.hexValue? c = some d) s ds ∧
    Nat.ofDigits 16 ds.reverse = n ∧ n < word64

/-- Apart from colons and blanks the text is the digits of a number, possibly behind one mark. -/
def Numeral (s : Chars) (n : Nat) : Prop :=
  ∃ mark ∈ [[], ['0', 'x'], ['0', 'X']], ∃ digits, bare s = mark ++ digits ∧ Digits digits n

/-! ## Texts without their marks -/

/-- What remains of a text without the marks of a letter, in which the letter stands nowhere else. -/
inductive Without (letter : Char) : Chars → Chars → Prop
  | nil : Without letter [] []
  | mark {s r : Chars} (h : Without letter s r) : Without letter ('0' :: letter :: s) r
  | keep {c : Char} {s r : Chars} (hc : c ≠ letter) (h : Without letter s r) :
    Without letter (c :: s) (c :: r)

/-- The number that a text is converted to: that of the digits that remain without the small marks,
then without the capital ones, and without colons and blanks. A sign may stand in front of them. -/
def Reads (s : Chars) (n : Nat) : Prop :=
  ∃ r₁ r, Without 'x' s r₁ ∧ Without 'X' r₁ r ∧
    ∃ sign ∈ [[], ['+']], ∃ digits, bare r = sign ++ digits ∧ Digits digits n

/-- The text with all marks of a letter taken out. -/
def dropMarks (letter : Char) (s : Chars) : Chars := Chars.replaceAll ['0', letter] [] s

/-- The number that a text is converted to, if any. -/
def read? (s : Chars) : Option Nat :=
  Chars.hexadecimal? word64 (bare (dropMarks 'X' (dropMarks 'x' s)))

variable {letter c : Char} {s r digits : Chars} {n : Nat}

theorem dropMarks_mark (letter : Char) (s : Chars) :
    dropMarks letter ('0' :: letter :: s) = dropMarks letter s :=
  Chars.replaceAll_append (List.cons_ne_nil '0' [letter]) [] s

theorem dropMarks_cons (h : ¬['0', letter] <+: c :: s) :
    dropMarks letter (c :: s) = c :: dropMarks letter s :=
  Chars.replaceAll_cons h []

theorem dropMarks_of_unmarked (h : ¬['0', letter] <:+: s) : dropMarks letter s = s := by
  induction s with
  | nil => rfl
  | cons c s ih =>
    rw [dropMarks_cons fun hp => h hp.isInfix,
      ih fun hi => h (hi.trans (List.suffix_cons c s).isInfix)]

theorem dropMarks_of_notMem (h : letter ∉ s) : dropMarks letter s = s :=
  dropMarks_of_unmarked fun hi => h (hi.subset (by simp))

theorem dropMarks_append_of_notMem (h : letter ∉ s) (hletter : letter ≠ '0') (t : Chars) :
    dropMarks letter (s ++ '0' :: letter :: t) = s ++ dropMarks letter t := by
  induction s with
  | nil => exact dropMarks_mark letter t
  | cons c s ih =>
    rw [List.mem_cons, not_or] at h
    have hnot : ¬['0', letter] <+: c :: (s ++ '0' :: letter :: t) := by
      rintro ⟨rest, hrest⟩
      obtain ⟨-, hrest⟩ := List.cons.inj hrest
      cases s with
      | nil => exact hletter (List.cons.inj hrest).1
      | cons d s => exact h.2 ((List.cons.inj hrest).1 ▸ List.mem_cons_self)
    rw [List.cons_append, dropMarks_cons hnot, ih h.2, List.cons_append]

/-- A text starts with a mark or with a character that stays. -/
theorem dropMarks_induction {P : Chars → Prop} (letter : Char) (nil : P [])
    (mark : ∀ s, P s → P ('0' :: letter :: s))
    (keep : ∀ c s, dropMarks letter (c :: s) = c :: dropMarks letter s → P s → P (c :: s))
    (s : Chars) : P s := by
  induction hlen : s.length using Nat.strongRecOn generalizing s with
  | ind len ih =>
    cases s with
    | nil => exact nil
    | cons c s =>
      by_cases h : ['0', letter] <+: c :: s
      · obtain ⟨rest, hrest⟩ := h
        have hlt : rest.length < len := by
          have hlength := congrArg List.length hrest
          rw [hlen, List.length_append] at hlength
          exact hlength ▸ Nat.lt_add_of_pos_left (Nat.succ_pos _)
        exact hrest ▸ mark rest (ih rest.length hlt rest rfl)
      · exact keep c s (dropMarks_cons h) (ih s.length (by simp [← hlen]) s rfl)

theorem mem_dropMarks (hzero : c ≠ '0') (hletter : c ≠ letter) :
    c ∈ dropMarks letter s ↔ c ∈ s := by
  induction s using dropMarks_induction letter with
  | nil => rfl
  | mark s ih => rw [dropMarks_mark, ih, List.mem_cons, List.mem_cons]; tauto
  | keep d s hkeep ih => rw [hkeep, List.mem_cons, List.mem_cons, ih]

theorem not_without_cons (hletter : letter ≠ '0') : ¬Without letter (letter :: s) r := by
  intro h
  cases h with
  | mark h => exact hletter rfl
  | keep hc h => exact hc rfl

/-- What remains is what taking the marks out leaves, if the letter is not in it. -/
theorem without_iff (hletter : letter ≠ '0') :
    Without letter s r ↔ dropMarks letter s = r ∧ letter ∉ r := by
  constructor
  · intro h
    induction h with
    | nil => exact ⟨rfl, List.not_mem_nil⟩
    | mark h ih => rwa [dropMarks_mark]
    | @keep c s r hc h ih =>
      have hnot : ¬['0', letter] <+: c :: s := by
        rintro ⟨rest, hrest⟩
        obtain ⟨-, rfl⟩ := List.cons.inj hrest
        exact not_without_cons hletter h
      rw [dropMarks_cons hnot, ih.1, List.mem_cons, not_or]
      exact ⟨rfl, hc.symm, ih.2⟩
  · rintro ⟨rfl, h⟩
    induction s using dropMarks_induction letter with
    | nil => exact .nil
    | mark s ih =>
      rw [dropMarks_mark] at h ⊢
      exact .mark (ih h)
    | keep c s hkeep ih =>
      rw [hkeep, List.mem_cons, not_or] at h
      rw [hkeep]
      exact .keep (Ne.symm h.1) (ih h.2)

/-! ## Digits -/

theorem Digits.isSome_of_mem (h : Digits digits n) (hc : c ∈ digits) :
    (Chars.hexValue? c).isSome := by
  obtain ⟨-, ds, hds, -⟩ := h
  induction hds with
  | nil => exact absurd hc List.not_mem_nil
  | cons hd _ ih =>
    rcases List.mem_cons.1 hc with rfl | hc
    · exact Option.isSome_of_eq_some hd
    · exact ih hc

/-- The letters of marks and the sign are no digits. -/
theorem Digits.notMem (h : Digits digits n) : ∀ c ∈ '+' :: letters, c ∉ digits := by
  have hnone : ∀ c ∈ '+' :: letters, ¬(Chars.hexValue? c).isSome :=
    List.forall_mem_cons.2 ⟨by decide, forall_letters_iff.2 (by decide)⟩
  exact fun c hc hmem => hnone c hc (h.isSome_of_mem hmem)

theorem Digits.unique {n' : Nat} (h : Digits digits n) (h' : Digits digits n') : n = n' := by
  obtain ⟨-, ds, hds, rfl, -⟩ := h
  obtain ⟨-, ds', hds', rfl, -⟩ := h'
  have heq : some ds = some ds' := by rw [← mapM_eq_some_iff.2 hds, ← mapM_eq_some_iff.2 hds']
  rw [Option.some.inj heq]

theorem foldl_eq_ofDigits (ds : List Nat) :
    ds.foldl (16 * · + ·) 0 = Nat.ofDigits 16 ds.reverse := by
  rw [Nat.ofDigits_eq_foldr, List.foldr_reverse]
  simp only [Nat.cast_id, Nat.add_comm]

theorem hexadecimal?_eq_some_iff :
    Chars.hexadecimal? word64 s = some n ↔ Digits (Chars.dropPlus s) n := by
  rw [Chars.hexadecimal?, Digits]
  by_cases hs : Chars.dropPlus s = []
  · simp [hs]
  · rw [if_neg hs]
    simp only [Option.filter_eq_some_iff, Option.map_eq_some_iff, mapM_eq_some_iff,
      foldl_eq_ofDigits, decide_eq_true_eq, ne_eq, hs, not_false_eq_true, true_and]
    constructor
    · rintro ⟨⟨ds, hds, rfl⟩, hlt⟩
      exact ⟨ds, hds, rfl, hlt⟩
    · rintro ⟨ds, hds, rfl, hlt⟩
      exact ⟨⟨ds, hds, rfl⟩, hlt⟩

/-- One sign in front of the digits does not count. -/
theorem digits_dropPlus_iff :
    Digits (Chars.dropPlus s) n ↔
      ∃ sign ∈ [[], ['+']], ∃ digits, s = sign ++ digits ∧ Digits digits n := by
  constructor
  · intro h
    rw [Chars.dropPlus.eq_def] at h
    split at h
    · rename_i t
      exact ⟨['+'], by simp, t, rfl, h⟩
    · exact ⟨[], by simp, s, rfl, h⟩
  · rintro ⟨sign, hsign, digits, rfl, h⟩
    rw [List.mem_pair] at hsign
    rcases hsign with rfl | rfl
    · have hplus := h.notMem '+' List.mem_cons_self
      rw [List.nil_append, Chars.dropPlus.eq_def]
      split
      · exact absurd List.mem_cons_self hplus
      · exact h
    · exact h

/-! ## Characters that count -/

theorem counts_of_mem : ∀ c ∈ '+' :: letters, counts c = true :=
  List.forall_mem_cons.2 ⟨by decide, forall_letters_iff.2 (by decide)⟩

theorem mem_bare_iff (h : c ∈ '+' :: letters) : c ∈ bare s ↔ c ∈ s := by
  rw [bare, List.mem_filter, and_iff_left (counts_of_mem c h)]

theorem bare_append (s t : Chars) : bare (s ++ t) = bare s ++ bare t := List.filter_append ..

theorem bare_mark {x : Char} (hx : x ∈ letters) (s : Chars) :
    bare ('0' :: x :: s) = '0' :: x :: bare s := by
  rw [bare, List.filter_cons_of_pos (by decide),
    List.filter_cons_of_pos (counts_of_mem x (List.mem_cons_of_mem _ hx)), ← bare]

/-- No letter of a mark stands in a text that is a sign and digits. -/
theorem notMem_of_signed {sign : Chars} (hsign : sign ∈ [[], ['+']])
    (hbare : bare s = sign ++ digits) (h : Digits digits n) : ∀ x ∈ letters, x ∉ s := by
  intro x hx hmem
  have hx' : x ∈ '+' :: letters := List.mem_cons_of_mem _ hx
  rw [← mem_bare_iff hx', hbare, List.mem_append] at hmem
  have hnot : ∀ sign ∈ [[], ['+']], ∀ x ∈ letters, x ∉ sign := by simp [letters]
  exact hmem.elim (hnot sign hsign x hx) (h.notMem x hx')

/-- What a text is converted to. -/
theorem read?_eq_some_iff : read? s = some n ↔ Reads s n := by
  rw [read?, hexadecimal?_eq_some_iff, digits_dropPlus_iff, Reads]
  constructor
  · rintro ⟨sign, hsign, digits, hbare, h⟩
    have hletters := notMem_of_signed hsign hbare h
    have hsmall : 'x' ∉ dropMarks 'x' s := fun hmem =>
      hletters 'x' (by decide) ((mem_dropMarks (by decide) (by decide)).2 hmem)
    exact ⟨_, _, (without_iff (by decide)).2 ⟨rfl, hsmall⟩,
      (without_iff (by decide)).2 ⟨rfl, hletters 'X' (by decide)⟩, sign, hsign, digits, hbare, h⟩
  · rintro ⟨r₁, r, h₁, h₂, h⟩
    rw [((without_iff (by decide)).1 h₁).1, ((without_iff (by decide)).1 h₂).1]
    exact h

/-! ## Where numerals are converted -/

/-- The text is a numeral with a mark whose two characters do not stand side by side. -/
def Torn (s : Chars) : Prop := (∃ n, Numeral s n) ∧ ∃ x ∈ letters, x ∈ s ∧ ¬['0', x] <:+: s

/-- The text is converted although it has a sign, or a letter of a mark behind other characters than a
single zero. -/
def Stray (s : Chars) : Prop :=
  (∃ n, Reads s n) ∧
    ('+' ∈ s ∨ ∃ x ∈ letters, ∃ before after, bare s = before ++ x :: after ∧ before ≠ ['0'])

/-- What is converted of a text without marks. -/
theorem bare_dropMarks_of_notMem (h : ∀ x ∈ letters, x ∉ s) :
    bare (dropMarks 'X' (dropMarks 'x' s)) = bare s := by
  rw [dropMarks_of_notMem (h 'x' (by decide)), dropMarks_of_notMem (h 'X' (by decide))]

/-- Of a text with marks of one letter those are taken out. -/
theorem dropMarks_dropMarks {x : Char} (hx : x ∈ letters) (h : ∀ y ∈ letters, y ≠ x → y ∉ s) :
    dropMarks 'X' (dropMarks 'x' s) = dropMarks x s := by
  rw [letters, List.mem_pair] at hx
  rcases hx with rfl | rfl
  · have hcapital : 'X' ∉ dropMarks 'x' s := fun hmem =>
      h 'X' (by decide) (by decide) ((mem_dropMarks (by decide) (by decide)).1 hmem)
    exact dropMarks_of_notMem hcapital
  · rw [dropMarks_of_notMem (h 'x' (by decide) (by decide))]

/-- The only mark of a text stands where it stands in the text without colons and blanks. -/
theorem bare_around_mark {x : Char} (hx : x ∈ letters) {p q after : Chars} (hafter : x ∉ after)
    (hbare : bare (p ++ '0' :: x :: q) = '0' :: x :: after) : bare p = [] ∧ bare q = after := by
  rw [bare_append, bare_mark hx] at hbare
  match hp : bare p with
  | [] =>
    rw [hp] at hbare
    exact ⟨rfl, (List.cons.inj (List.cons.inj hbare).2).2⟩
  | [c] =>
    rw [hp] at hbare
    exact absurd (List.cons.inj (List.cons.inj hbare).2).1.symm
      (ne_zero_of_mem x (List.mem_cons_of_mem _ hx))
  | c :: d :: rest =>
    rw [hp] at hbare
    have hrest : rest ++ '0' :: x :: bare q = after := (List.cons.inj (List.cons.inj hbare).2).2
    exact absurd (hrest ▸ by simp) hafter

/-- What is converted of a text with one mark, if this stands in front: what is behind the mark, but
all of the text where the mark is torn. -/
theorem bare_dropMarks_of_mark {x : Char} (hx : x ∈ letters) {after : Chars}
    (hbare : bare s = '0' :: x :: after) (hafter : ∀ y ∈ letters, y ∉ after) :
    bare (dropMarks 'X' (dropMarks 'x' s)) = if ['0', x] <:+: s then after else bare s := by
  have hsigned : ∀ y ∈ letters, y ∈ '+' :: letters := fun y => List.mem_cons_of_mem _
  have hother : ∀ y ∈ letters, y ≠ x → y ∉ s := fun y hy hne hmem => by
    rw [← mem_bare_iff (hsigned y hy), hbare, List.mem_cons, List.mem_cons] at hmem
    exact hmem.elim (ne_zero_of_mem y (hsigned y hy)) (Or.elim · hne (hafter y hy))
  rw [dropMarks_dropMarks hx hother]
  split
  · rename_i hmark
    obtain ⟨p, q, rfl⟩ := hmark
    rw [List.append_assoc, List.cons_append, List.cons_append, List.nil_append] at hbare ⊢
    obtain ⟨hp, hq⟩ := bare_around_mark hx (hafter x hx) hbare
    have hxp : x ∉ p := by
      rw [← mem_bare_iff (hsigned x hx), hp]
      exact List.not_mem_nil
    have hxq : x ∉ q := by
      rw [← mem_bare_iff (hsigned x hx), hq]
      exact hafter x hx
    rw [dropMarks_append_of_notMem hxp (ne_zero_of_mem x (hsigned x hx)), dropMarks_of_notMem hxq,
      bare_append, hp, hq, List.nil_append]
  · rename_i hmark
    rw [dropMarks_of_unmarked hmark]

/-- A numeral has no letters, or those of one mark in front. -/
theorem Numeral.cases (h : Numeral s n) :
    (∀ x ∈ letters, x ∉ s) ∧ Digits (bare s) n ∨
      ∃ x ∈ letters, ∃ digits, bare s = '0' :: x :: digits ∧ Digits digits n := by
  obtain ⟨mark, hmark, digits, hbare, h⟩ := h
  simp only [List.mem_cons, List.not_mem_nil, or_false] at hmark
  rcases hmark with rfl | rfl | rfl
  · rw [List.nil_append] at hbare
    refine .inl ⟨fun x hx => ?_, hbare ▸ h⟩
    rw [← mem_bare_iff (List.mem_cons_of_mem _ hx), hbare]
    exact h.notMem x (List.mem_cons_of_mem _ hx)
  · exact .inr ⟨'x', by decide, digits, hbare, h⟩
  · exact .inr ⟨'X', by decide, digits, hbare, h⟩

theorem reads_iff : Reads s n ↔
    Digits (Chars.dropPlus (bare (dropMarks 'X' (dropMarks 'x' s)))) n := by
  rw [← read?_eq_some_iff, read?, hexadecimal?_eq_some_iff]

theorem dropPlus_of_notMem (h : '+' ∉ s) : Chars.dropPlus s = s :=
  Chars.dropPlus_of_ne fun _ hs => h (hs ▸ List.mem_cons_self)

/-- A numeral is converted unless its mark is torn. -/
theorem Numeral.reads (h : Numeral s n) (htorn : ¬Torn s) : Reads s n := by
  rw [reads_iff]
  rcases h.cases with ⟨hletters, hdigits⟩ | ⟨x, hx, digits, hbare, hdigits⟩
  · rw [bare_dropMarks_of_notMem hletters, dropPlus_of_notMem (hdigits.notMem _ List.mem_cons_self)]
    exact hdigits
  · have hmark : ['0', x] <:+: s := Decidable.byContradiction fun hnot =>
      htorn ⟨⟨n, h⟩, x, hx, (mem_bare_iff (List.mem_cons_of_mem _ hx)).1 (by simp [hbare]), hnot⟩
    rw [bare_dropMarks_of_mark hx hbare fun y hy => hdigits.notMem y (List.mem_cons_of_mem _ hy),
      if_pos hmark, dropPlus_of_notMem (hdigits.notMem _ List.mem_cons_self)]
    exact hdigits

/-- What is torn is not converted. -/
theorem Torn.not_reads (h : Torn s) (n : Nat) : ¬Reads s n := by
  obtain ⟨⟨m, hnumeral⟩, x, hx, hmem, hmark⟩ := h
  have hsigned : x ∈ '+' :: letters := List.mem_cons_of_mem _ hx
  rcases hnumeral.cases with ⟨hletters, -⟩ | ⟨y, hy, digits, hbare, hdigits⟩
  · exact absurd hmem (hletters x hx)
  · rw [← mem_bare_iff hsigned, hbare] at hmem
    obtain rfl : x = y := (List.mem_cons.1 ((List.mem_cons.1 hmem).resolve_left
      (ne_zero_of_mem x hsigned))).resolve_right (hdigits.notMem x hsigned)
    rw [reads_iff, bare_dropMarks_of_mark hx hbare fun z hz =>
      hdigits.notMem z (List.mem_cons_of_mem _ hz), if_neg hmark, hbare]
    exact fun hread => hread.notMem x hsigned (by simp [Chars.dropPlus])

/-- What is converted is a numeral unless it is stray. -/
theorem Reads.numeral (h : Reads s n) (hstray : ¬Stray s) : Numeral s n := by
  have hplus : '+' ∉ s := fun hmem => hstray ⟨⟨n, h⟩, .inl hmem⟩
  have hfront : ∀ x ∈ letters, ∀ before after, bare s = before ++ x :: after → before = ['0'] :=
    fun x hx before after hbare => Decidable.byContradiction fun hne =>
      hstray ⟨⟨n, h⟩, .inr ⟨x, hx, before, after, hbare, hne⟩⟩
  have hplus' : '+' ∉ bare s := fun hmem => hplus (List.mem_of_mem_filter hmem)
  rw [reads_iff] at h
  by_cases hletters : ∀ x ∈ letters, x ∉ s
  · rw [bare_dropMarks_of_notMem hletters, dropPlus_of_notMem hplus'] at h
    exact ⟨[], by simp, bare s, rfl, h⟩
  · push Not at hletters
    obtain ⟨x, hx, hmem⟩ := hletters
    have hsigned : x ∈ '+' :: letters := List.mem_cons_of_mem _ hx
    obtain ⟨before, after, hbare⟩ := List.append_of_mem ((mem_bare_iff hsigned).2 hmem)
    obtain rfl := hfront x hx before after hbare
    have hafter : ∀ y ∈ letters, y ∉ after := fun y hy hmem => by
      obtain ⟨a, b, rfl⟩ := List.append_of_mem hmem
      exact absurd (hfront y hy ('0' :: x :: a) b (by simp [hbare])) (by simp)
    rw [bare_dropMarks_of_mark hx hbare hafter] at h
    split at h
    · rw [dropPlus_of_notMem fun hmem => hplus' (by simp [hbare, hmem])] at h
      rw [letters, List.mem_pair] at hx
      exact ⟨['0', x], by rcases hx with rfl | rfl <;> simp, after, hbare, h⟩
    · rw [dropPlus_of_notMem hplus', hbare] at h
      exact absurd (by simp) (h.notMem x hsigned)

theorem Stray.not_numeral (h : Stray s) (n : Nat) : ¬Numeral s n := by
  intro hnumeral
  have hsigned : ∀ x ∈ letters, x ∈ '+' :: letters := fun x => List.mem_cons_of_mem _
  rcases hnumeral.cases with ⟨hletters, hdigits⟩ | ⟨y, hy, digits, hbare, hdigits⟩
  · rcases h.2 with hplus | ⟨x, hx, before, after, hbare, -⟩
    · exact hdigits.notMem _ List.mem_cons_self ((mem_bare_iff List.mem_cons_self).2 hplus)
    · exact hletters x hx ((mem_bare_iff (hsigned x hx)).1 (by simp [hbare]))
  · rcases h.2 with hplus | ⟨x, hx, before, after, hbefore, hne⟩
    · have hy' : ∀ y ∈ letters, '+' ≠ y := forall_letters_iff.2 (by decide)
      rw [← mem_bare_iff List.mem_cons_self, hbare, List.mem_cons, List.mem_cons] at hplus
      exact hplus.elim (ne_zero_of_mem _ List.mem_cons_self)
        (Or.elim · (hy' y hy) (hdigits.notMem _ List.mem_cons_self))
    · rw [hbare] at hbefore
      match before with
      | [] => exact ne_zero_of_mem x (hsigned x hx) (List.cons.inj hbefore).1.symm
      | [c] => exact hne (congrArg (fun c => [c]) (List.cons.inj hbefore).1.symm)
      | c :: d :: rest =>
        have hrest : digits = rest ++ x :: after := (List.cons.inj (List.cons.inj hbefore).2).2
        exact hdigits.notMem x (hsigned x hx) (by simp [hrest])

/-- A text is converted to the numbers of which it is a numeral, and to no others, exactly if it is
neither torn nor stray. -/
theorem reads_iff_numeral_iff :
    (∀ n, Reads s n ↔ Numeral s n) ↔ ¬Torn s ∧ ¬Stray s := by
  constructor
  · intro h
    refine ⟨fun htorn => ?_, fun hstray => ?_⟩
    · obtain ⟨n, hn⟩ := htorn.1
      exact htorn.not_reads n ((h n).2 hn)
    · obtain ⟨n, hn⟩ := hstray.1
      exact hstray.not_numeral n ((h n).1 hn)
  · rintro ⟨htorn, hstray⟩ n
    exact ⟨fun h => h.numeral hstray, fun h => h.reads htorn⟩

/-! ## Cells -/

theorem hexToDecimal?_eq (cell : String) :
    hexToDecimal? cell = (read? cell.toList).map toString := rfl

theorem hexToDecimal?_eq_some_iff {cell : String} :
    hexToDecimal? cell = some (toString n) ↔ Reads cell.toList n := by
  rw [hexToDecimal?_eq, Option.map_eq_some_iff, ← read?_eq_some_iff]
  constructor
  · rintro ⟨m, hm, he⟩
    rwa [← toString_injective he]
  · exact fun h => ⟨n, h, rfl⟩

/-- **Which cells are converted.** A cell is converted to the decimal of a number exactly if it has
the digits of that number without its marks, colons and blanks. These are the numerals, which have at
most one mark and this in front, exactly if the mark of the cell is not torn by colons or blanks and
the cell is not converted in spite of a sign or a mark elsewhere. Of a table the cells in the column
are converted, those that are not stay, and so does all else. -/
theorem converts_numerals_iff (cell : String) :
    (∀ text, hexToDecimal? cell = some text ↔ ∃ n, Reads cell.toList n ∧ text = toString n) ∧
      ((∀ n, hexToDecimal? cell = some (toString n) ↔ Numeral cell.toList n) ↔
        ¬Torn cell.toList ∧ ¬Stray cell.toList) ∧
      ∀ (ctx : OperatorContext) (position : Nat) (t : Table),
        ((Operator.convert (position + 1) .hexToDecimal).apply ctx t).rows =
          t.rows.map (·.modify position fun cell => (hexToDecimal? cell).getD cell) := by
  refine ⟨fun text => ?_, ?_, fun ctx position t => ?_⟩
  · rw [hexToDecimal?_eq, Option.map_eq_some_iff]
    simp only [read?_eq_some_iff, eq_comm (a := text)]
  · simp only [hexToDecimal?_eq_some_iff]
    exact reads_iff_numeral_iff
  · refine Table.rows_mapColumn (fun position row cell hcell => ?_) position t
    rw [show Conversion.apply? .hexToDecimal cell = hexToDecimal? cell from rfl]
    cases hexToDecimal? cell with
    | none => exact (Row.set_of_getElem? hcell).symm
    | some value => rfl

/-- A mark between digits is taken out of a text that is no numeral. -/
theorem converts_mark_inside :
    hexToDecimal? "10x10" = some "272" ∧ ¬∃ n, Numeral "10x10".toList n := by
  refine ⟨by decide, ?_⟩
  rintro ⟨n, h⟩
  rcases h.cases with ⟨hletters, -⟩ | ⟨x, -, digits, hbare, -⟩
  · exact absurd (hletters 'x' (by decide)) (by decide)
  · rw [show bare "10x10".toList = ['1', '0', 'x', '1', '0'] by decide] at hbare
    exact absurd (List.cons.inj hbare).1 (by decide)

end Hexadecimal

end HardwareWatch
