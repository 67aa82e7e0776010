import HardwareWatch.Proofs.Table.Tokens

/-!
# Literal directives

In a text of a mapping the number of the row is put in first, and then the cells are. This comes to
the same as one reading of the text, unless a token is misread in between: a dollar that is written
twice in front of `index` makes a reference to the number of the row, and digits of this number go
on with the number of a column in front of them.

* `TextToken.Misread` says where tokens are misread.
* `TextToken.numberPut` is the text with the number of the row put in. What is read of it is the
  token again, where none is misread (`TextToken.numberPut_spelling_append`).
* `TextToken.substituteFrom_numberPut` is a token that is read rightly,
  `TextToken.length_substituteFrom_lt` one that is misread: then a row without cells leaves less.
* `RowReader.literal_by_tokens_iff` is the result for the directives of mappings.
-/

namespace HardwareWatch

namespace TextToken

/-- The first token does not end where it is read to end: the digits of the number of the row follow
the number of a column, or `index` follows a dollar that is written twice. -/
def MisreadFirst (ts : List TextToken) : Prop :=
  (∃ n, [column n, rowNumber] <+: ts) ∨ dollar :: indexWord.map letter <+: ts

/-- Some token does not end where it is read to end. -/
def Misread (ts : List TextToken) : Prop :=
  (∃ n, [column n, rowNumber] <:+: ts) ∨ dollar :: indexWord.map letter <:+: ts

variable {numbered : Bool} {t : TextToken} {ts : List TextToken} {s : Chars} {row : Row}
  {number : Nat}

theorem misread_cons : Misread (t :: ts) ↔ MisreadFirst (t :: ts) ∨ Misread ts := by
  simp only [Misread, MisreadFirst, List.infix_cons_iff, exists_or]
  exact or_or_or_comm ..

/-! ## Tokens at the start of a text -/

/-- A text starts with a word without dollars exactly if its tokens start with the letters. -/
theorem Reads.prefix_iff (h : Reads numbered ts s) {w : Chars} (hw : '$' ∉ w) :
    w <+: s ↔ w.map letter <+: ts := by
  induction w generalizing ts s with
  | nil => exact iff_of_true List.nil_prefix List.nil_prefix
  | cons c w ih =>
    rw [List.mem_cons, not_or] at hw
    cases h with
    | nil => simp
    | @cons t ts s _ hts =>
      rw [List.map_cons, List.cons_prefix_cons, ← ih hts hw.2]
      cases t with
      | letter d => simp [spelling, List.cons_prefix_cons]
      | dollar | column | rowNumber => simp [spelling, List.cons_prefix_cons, Ne.symm hw.1]

/-- Where the text goes on with the reference to the number of the row, this is the next token. -/
theorem Reads.head?_of_prefix (h : Reads true ts s) (hs : '$' :: indexWord <+: s) :
    ts.head? = some rowNumber := by
  obtain ⟨r, rfl⟩ := hs
  have hfirst : first? true ('$' :: indexWord ++ r) = some (rowNumber, r) :=
    first?_spelling_append (t := rowNumber) rfl
  generalize hs : '$' :: indexWord ++ r = s at h hfirst
  cases h with
  | nil => cases hs
  | cons ht _ =>
    rw [first?_spelling_append ht] at hfirst
    rw [List.head?_cons, (Prod.mk.inj (Option.some.inj hfirst)).1]

/-! ## The number of the row -/

/-- The text with the number of the row put in. -/
def numberPut (number : Nat) (s : Chars) : Chars :=
  Chars.replaceAll ('$' :: indexWord) (toString number).toList s

theorem numberPut_index (s : Chars) :
    numberPut number ('$' :: (indexWord ++ s)) = Nat.toDigits 10 number ++ numberPut number s := by
  rw [← toList_toString]
  exact Chars.replaceAll_append (List.cons_ne_nil _ _) _ s

theorem numberPut_cons {c : Char} (h : ¬ '$' :: indexWord <+: c :: s) :
    numberPut number (c :: s) = c :: numberPut number s :=
  Chars.replaceAll_cons h _

theorem numberPut_append {w : Chars} (hw : '$' ∉ w) (s : Chars) :
    numberPut number (w ++ s) = w ++ numberPut number s := by
  induction w with
  | nil => rfl
  | cons c w ih =>
    rw [List.mem_cons, not_or] at hw
    rw [List.cons_append, numberPut_cons fun h => hw.1 (List.cons_prefix_cons.1 h).1, ih hw.2]
    rfl

theorem head?_numberPut (h : ¬ '$' :: indexWord <+: s) : (numberPut number s).head? = s.head? := by
  cases s with
  | nil => rfl
  | cons c s => rw [numberPut_cons h, List.head?_cons, List.head?_cons]

theorem dollar_notMem_toDigits (n : Nat) : '$' ∉ Nat.toDigits 10 n :=
  fun h => absurd (Chars.isDigit_of_mem_toDigits h) (by decide)

theorem index_not_prefix {n : Nat} {s : Chars} : ¬indexWord <+: Nat.toDigits 10 n ++ s := by
  have hdigits : ∀ c ∈ Nat.toDigits 10 n, Chars.isDigit c := fun _ => Chars.isDigit_of_mem_toDigits
  cases hn : Nat.toDigits 10 n with
  | nil => exact absurd hn Nat.toDigits_ne_nil
  | cons d w =>
    rw [hn] at hdigits
    exact fun h => absurd ((List.cons_prefix_cons.1 h).1 ▸ hdigits d List.mem_cons_self) (by decide)

/-- A dollar in front of another one is no reference to the number of the row. -/
theorem numberPut_dollar (s : Chars) :
    numberPut number ('$' :: '$' :: s) = '$' :: numberPut number ('$' :: s) := by
  refine numberPut_cons fun h => ?_
  exact absurd (List.cons_prefix_cons.1 (List.cons_prefix_cons.1 h).2).1 (by decide)

/-- Nor is one in front of the number of a column. -/
theorem numberPut_column (n : Nat) (s : Chars) :
    numberPut number ('$' :: (Nat.toDigits 10 n ++ s)) =
      '$' :: (Nat.toDigits 10 n ++ numberPut number s) := by
  rw [numberPut_cons fun h => index_not_prefix (List.cons_prefix_cons.1 h).2,
    numberPut_append (dollar_notMem_toDigits n)]

theorem substituteFrom_append {w : Chars} (hw : '$' ∉ w) (s : Chars) :
    Column.substituteFrom row 0 (w ++ s) = w ++ Column.substituteFrom row 0 s := by
  induction w with
  | nil => rfl
  | cons c w ih =>
    rw [List.mem_cons, not_or] at hw
    rw [List.cons_append, Column.substituteFrom_cons_of_ne (Ne.symm hw.1), ih hw.2]
    rfl

/-- A token other than the number of the row that is not misread is there with the number of the row
put in behind it, and is read again. -/
theorem numberPut_spelling_append (number : Nat) (ht : t.StandsBefore true s)
    (hts : Reads true ts s) (h : ¬MisreadFirst (t :: ts)) (hne : t ≠ rowNumber) :
    numberPut number (t.spelling ++ s) = t.spelling ++ numberPut number s ∧
      t.StandsBefore false (numberPut number s) := by
  rw [MisreadFirst, not_or] at h
  cases t with
  | dollar =>
    have hindex : ¬indexWord <+: s := fun hindex =>
      h.2 (List.cons_prefix_cons.2 ⟨rfl, (hts.prefix_iff (by decide)).1 hindex⟩)
    refine ⟨?_, trivial⟩
    change numberPut number ('$' :: '$' :: s) = '$' :: '$' :: numberPut number s
    rw [numberPut_dollar, numberPut_cons fun h => hindex (List.cons_prefix_cons.1 h).2]
  | column n =>
    have hhead : ¬ '$' :: indexWord <+: s := fun hs => h.1 ⟨n, by
      obtain ⟨us, rfl⟩ := List.head?_eq_some_iff.1 (hts.head?_of_prefix hs)
      exact ⟨us, rfl⟩⟩
    refine ⟨?_, ht.1, by rw [Chars.StartsNoDigit, head?_numberPut hhead]; exact ht.2⟩
    change numberPut number ('$' :: ((toString n).toList ++ s)) = '$' :: ((toString n).toList ++ _)
    rw [toList_toString, numberPut_column]
  | rowNumber => exact absurd rfl hne
  | letter c =>
    change numberPut number (c :: s) = c :: numberPut number s ∧ _
    by_cases hc : c = '$'
    · subst hc
      obtain ⟨hhead, hindex⟩ := ht rfl
      have hdollar : ¬ '$' :: indexWord <+: s := fun hs => by
        obtain ⟨r, rfl⟩ := hs
        exact (hhead '$' rfl).1 rfl
      refine ⟨numberPut_cons fun h => hindex rfl (List.cons_prefix_cons.1 h).2,
        fun _ => ⟨?_, nofun⟩⟩
      rwa [head?_numberPut hdollar]
    · exact ⟨numberPut_cons fun h => hc (List.cons_prefix_cons.1 h).1.symm, fun he => absurd he hc⟩

/-- A token that is not misread comes to what it stands for. -/
theorem substituteFrom_numberPut (ht : t.StandsBefore true s) (hts : Reads true ts s)
    (h : ¬MisreadFirst (t :: ts)) :
    Column.substituteFrom row 0 (numberPut number (t.spelling ++ s)) =
      t.value row number ++ Column.substituteFrom row 0 (numberPut number s) := by
  by_cases hne : t = rowNumber
  · subst hne
    change Column.substituteFrom row 0 (numberPut number ('$' :: (indexWord ++ s))) =
      (toString number).toList ++ _
    rw [numberPut_index, substituteFrom_append (dollar_notMem_toDigits number), toList_toString]
  · obtain ⟨hput, hstands⟩ := numberPut_spelling_append number ht hts h hne
    rw [hput, substituteFrom_spelling_append hstands]

/-! ## A row without cells -/

theorem length_substituteFrom_dropWhile_le (s : Chars) :
    (Column.substituteFrom [] 0 (s.dropWhile Chars.isDigit)).length ≤
      (Column.substituteFrom [] 0 s).length := by
  have hdollar : '$' ∉ s.takeWhile Chars.isDigit := fun h =>
    absurd (List.mem_takeWhile_imp h) (by decide)
  conv_rhs => rw [← List.takeWhile_append_dropWhile (p := Chars.isDigit) (l := s)]
  rw [substituteFrom_append hdollar, List.length_append]
  exact Nat.le_add_left ..

/-- The number of a column leaves nothing. -/
theorem length_substituteFrom_number_le {w : Chars} (hw : ∀ c ∈ w, Chars.isDigit c)
    (hnumber : Column.startsNumber w) (s : Chars) :
    (Column.substituteFrom [] 0 ('$' :: (w ++ s))).length ≤
      (Column.substituteFrom [] 0 s).length := by
  rw [Column.substituteFrom_number (Column.startsNumber_append hnumber s),
    List.dropWhile_append_of_pos hw, Column.cell?, List.getElem?_nil, ite_self]
  exact length_substituteFrom_dropWhile_le s

/-- The decimal of a number behind a dollar leaves nothing, unless the number is zero. -/
theorem length_substituteFrom_toDigits_le (n : Nat) (s : Chars) :
    (Column.substituteFrom [] 0 ('$' :: (Nat.toDigits 10 n ++ s))).length ≤
      2 + (Column.substituteFrom [] 0 s).length := by
  rcases Nat.eq_zero_or_pos n with rfl | hn
  · have hlone : Column.substituteFrom [] 0 ('$' :: '0' :: s) =
        '$' :: '0' :: Column.substituteFrom [] 0 s := by
      rw [Column.substituteFrom_lone (by simp) rfl, Column.substituteFrom_cons_of_ne (by decide)]
    rw [Nat.toDigits_zero, List.singleton_append, hlone]
    exact (Nat.add_comm _ 2).le
  · exact (length_substituteFrom_number_le (fun _ => Chars.isDigit_of_mem_toDigits)
      (Column.startsNumber_toDigits hn) s).trans (Nat.le_add_left ..)

/-- A token that is misread leaves less than it stands for. -/
theorem length_substituteFrom_lt (number : Nat) (ht : t.StandsBefore true s) (hts : Reads true ts s)
    (h : MisreadFirst (t :: ts)) :
    (Column.substituteFrom [] 0 (numberPut number (t.spelling ++ s))).length <
      (t.value [] number).length + (Column.substituteFrom [] 0 (numberPut number s)).length := by
  rcases h with ⟨n, hprefix⟩ | hprefix
  · obtain ⟨rfl, us, rfl⟩ := List.cons_prefix_cons.1 hprefix
    cases hts with
    | @cons _ _ r hr hus =>
      have hput : numberPut number ((column n).spelling ++ (rowNumber.spelling ++ r)) =
          '$' :: (Nat.toDigits 10 n ++ Nat.toDigits 10 number ++ numberPut number r) := by
        change numberPut number ('$' :: ((toString n).toList ++ '$' :: (indexWord ++ r))) = _
        rw [toList_toString, numberPut_column, numberPut_index, List.append_assoc]
      have hdigits : ∀ c ∈ Nat.toDigits 10 n ++ Nat.toDigits 10 number, Chars.isDigit c :=
        fun c hc => (List.mem_append.1 hc).elim Chars.isDigit_of_mem_toDigits
          Chars.isDigit_of_mem_toDigits
      have hnumber := Column.startsNumber_append (Column.startsNumber_toDigits ht.1)
        (Nat.toDigits 10 number)
      have hpos : 0 < (Nat.toDigits 10 number).length :=
        List.length_pos_iff.2 Nat.toDigits_ne_nil
      have hle := length_substituteFrom_number_le hdigits hnumber (numberPut number r)
      change _ <
        _ + (Column.substituteFrom [] 0 (numberPut number ('$' :: (indexWord ++ r)))).length
      rw [hput, numberPut_index, substituteFrom_append (dollar_notMem_toDigits number),
        List.length_append]
      omega
  · obtain ⟨rfl, hindex⟩ := List.cons_prefix_cons.1 hprefix
    obtain ⟨r, rfl⟩ := (hts.prefix_iff (by decide)).2 hindex
    have hput : numberPut number (dollar.spelling ++ (indexWord ++ r)) =
        '$' :: (Nat.toDigits 10 number ++ numberPut number r) := by
      change numberPut number ('$' :: '$' :: (indexWord ++ r)) = _
      rw [numberPut_dollar, numberPut_index]
    have hle := length_substituteFrom_toDigits_le number (numberPut number r)
    have hword : (Column.substituteFrom [] 0 (numberPut number (indexWord ++ r))).length =
        5 + (Column.substituteFrom [] 0 (numberPut number r)).length := by
      rw [numberPut_append (by decide), substituteFrom_append (by decide), List.length_append]
      rfl
    rw [hput, hword]
    change _ < 1 + _
    omega

/-! ## The tokens of a text -/

/-- Without misread tokens the text comes to what its tokens stand for. -/
theorem Reads.substituteFrom_numberPut_eq (hts : Reads true ts s) (h : ¬Misread ts) :
    Column.substituteFrom row 0 (numberPut number s) = ts.flatMap (value row number) := by
  induction hts with
  | nil => rfl
  | cons ht hts ih =>
    rw [misread_cons, not_or] at h
    rw [substituteFrom_numberPut ht hts h.1, ih h.2, List.flatMap_cons]

/-- A row without cells leaves no more than the tokens stand for, and less if one is misread. -/
theorem Reads.length_substituteFrom_le (hts : Reads true ts s) :
    (Column.substituteFrom [] 0 (numberPut number s)).length ≤
        (ts.flatMap (value [] number)).length ∧
      (Misread ts → (Column.substituteFrom [] 0 (numberPut number s)).length <
        (ts.flatMap (value [] number)).length) := by
  induction hts with
  | nil => exact ⟨Nat.le_refl _, fun h => by simp [Misread] at h⟩
  | @cons t ts s ht hts ih =>
    rw [misread_cons, List.flatMap_cons, List.length_append]
    by_cases h : MisreadFirst (t :: ts)
    · have hlt := length_substituteFrom_lt number ht hts h
      exact ⟨by omega, fun _ => by omega⟩
    · rw [substituteFrom_numberPut ht hts h, List.length_append]
      exact ⟨by omega, fun hmisread => Nat.add_lt_add_left (ih.2 (hmisread.resolve_left h)) _⟩

end TextToken

open TextToken

/-! ## Directives -/

/-- The functions that a directive may call. -/
def functionNames : List String :=
  ["percent2Ratio", "megaHertz2Hertz", "mebiByte2Byte", "milliVolt2Volt", "megaBit2Bit", "boolean",
    "lookup", "rate", "fakeCounter"]

/-- The directive is neither a single column nor one of the functions. -/
structure IsLiteral (directive : String) : Prop where
  notColumn : Column.parse? directive = none
  notFunction : ∀ call ∈ FunctionCall.parse? directive, call.name ∉ functionNames

namespace RowReader

/-- A directive has a text as its value, by itself and as the value of a metric too. -/
structure Gives (r : RowReader) (directive text : String) : Prop where
  value : r.value? directive = some text
  plain : r.plain? directive = some text
  metric : r.metric? directive = some (.plain text)

variable {r : RowReader} {directive text : String}

theorem plain?_of_isLiteral (h : IsLiteral directive) :
    r.plain? directive = r.value? directive := by
  have hcall := h.notFunction
  rw [plain?]
  cases hparse : FunctionCall.parse? directive with
  | none => rfl
  | some call =>
    have hname : call.name ∉ functionNames := hcall call hparse
    dsimp only
    split
    case h_8 => rfl
    all_goals
      rename_i heq
      exact absurd (by rw [heq]; decide) hname

theorem metric?_of_isLiteral (h : IsLiteral directive) :
    r.metric? directive = (r.plain? directive).map .plain := by
  have hcall := h.notFunction
  rw [metric?]
  split
  · rename_i heq
    exact absurd (show "rate" ∈ functionNames by decide) (hcall _ heq)
  · rename_i heq
    exact absurd (show "fakeCounter" ∈ functionNames by decide) (hcall _ heq)
  · rfl

/-- The value of a literal directive is the same wherever it stands. -/
theorem gives_iff (h : IsLiteral directive) :
    r.Gives directive text ↔ r.value? directive = some text := by
  refine ⟨Gives.value, fun hvalue => ⟨hvalue, plain?_of_isLiteral h ▸ hvalue, ?_⟩⟩
  rw [metric?_of_isLiteral h, plain?_of_isLiteral h, hvalue]
  rfl

theorem value?_of_isLiteral (h : IsLiteral directive) (r : RowReader) :
    r.value? directive =
      some (.ofList (Column.substituteFrom r.row 0 (numberPut r.number directive.toList))) := by
  have hindex : indexReference.toList = '$' :: indexWord := by decide +kernel
  rw [value?, h.notColumn]
  simp only [Column.substitute, Text.replaceAll, hindex, String.toList_ofList]
  rfl

/-- **Literal directives are read in one reading where no token is misread.** A literal directive is
read from left to right into tokens in exactly one way. With the cells and the number of a row put
in it is what the tokens stand for, whatever the row, exactly if no `index` follows a dollar that is
written twice, and no reference to the number of the row follows one to a column. -/
theorem literal_by_tokens_iff (h : IsLiteral directive) (number : Nat) (resource : Resource) :
    ∃ ts, (∀ us, Reads true us directive.toList ↔ us = ts) ∧
      ((∀ row, Gives ⟨row, number, resource⟩ directive
          (.ofList (ts.flatMap (TextToken.value row number)))) ↔ ¬Misread ts) := by
  obtain ⟨ts, hts⟩ := exists_reads true directive.toList
  refine ⟨ts, fun us => ⟨hts.unique, fun he => he ▸ hts⟩, fun hall hmisread => ?_,
    fun hclean row => ?_⟩
  · have hempty := (hall []).value
    rw [value?_of_isLiteral h] at hempty
    have hlength := congrArg List.length (String.ofList_injective (Option.some.inj hempty))
    exact absurd hlength (hts.length_substituteFrom_le.2 hmisread).ne
  · rw [gives_iff h, value?_of_isLiteral h, hts.substituteFrom_numberPut_eq hclean]

end RowReader

/-! ## Names of fans -/

namespace FanNames

/-- A host of which nothing else is known. -/
def host : Resource := .named "srv" .linux

/-- A cell, a dollar and the number of the row. -/
def label : String := "$1 ($$9) #$index"

/-- The tokens of the label. -/
def labelTokens : List TextToken :=
  [.column 1, .letter ' ', .letter '(', .dollar, .letter '9', .letter ')', .letter ' ', .letter '#',
    .rowNumber]

theorem isLiteral_label : IsLiteral label := ⟨by decide +kernel, by decide +kernel⟩

theorem reads_label : Reads true labelTokens label.toList := by
  have hspelling : label.toList = labelTokens.flatMap spelling := by decide +kernel
  rw [hspelling]
  refine .cons ⟨by decide, fun c hc => ?_⟩ <| .cons_letter (by decide) <|
    .cons_letter (by decide) <| .cons trivial <| .cons_letter (by decide) <|
    .cons_letter (by decide) <| .cons_letter (by decide) <| .cons_letter (by decide) <|
    .cons rfl .nil
  cases hc
  rfl

/-- The label comes to what its tokens stand for. -/
theorem label_gives : IsLiteral label ∧ ∀ row, RowReader.Gives ⟨row, 3, host⟩ label
    (.ofList (labelTokens.flatMap (TextToken.value row 3))) := by
  obtain ⟨ts, hts, hgives⟩ := RowReader.literal_by_tokens_iff isLiteral_label 3 host
  obtain rfl := (hts _).1 reads_label
  refine ⟨isLiteral_label, hgives.2 ?_⟩
  simp [Misread, labelTokens, indexWord, List.infix_cons_iff]

/-- A dollar that is written twice in front of `index`, and a reference to the number of the row
behind one to a column, each come to something else than their tokens stand for. -/
theorem number_read_as_column :
    (IsLiteral "$$index" ∧ Reads true (.dollar :: indexWord.map .letter) "$$index".toList ∧
      (TextToken.dollar :: indexWord.map .letter).flatMap (TextToken.value ["a", "b"] 2) =
        "$index".toList ∧
      RowReader.value? ⟨["a", "b"], 2, host⟩ "$$index" = some "b") ∧
    IsLiteral "$1$index" ∧ Reads true [.column 1, .rowNumber] "$1$index".toList ∧
      [TextToken.column 1, .rowNumber].flatMap (TextToken.value ["a", "b"] 2) = "a2".toList ∧
      RowReader.value? ⟨["a", "b"], 2, host⟩ "$1$index" = some "" := by
  have hescaped : "$$index".toList =
      (TextToken.dollar :: indexWord.map .letter).flatMap spelling := by decide +kernel
  have hjoined : "$1$index".toList = [TextToken.column 1, .rowNumber].flatMap spelling := by
    decide +kernel
  refine ⟨⟨⟨by decide +kernel, by decide +kernel⟩, ?_, by decide +kernel, by decide +kernel⟩,
    ⟨by decide +kernel, by decide +kernel⟩, ?_, by decide +kernel, by decide +kernel⟩
  · rw [hescaped]
    exact .cons trivial <| .cons_letter (by decide) <| .cons_letter (by decide) <|
      .cons_letter (by decide) <| .cons_letter (by decide) <| .cons_letter (by decide) .nil
  · rw [hjoined]
    refine .cons ⟨by decide, fun c hc => ?_⟩ <| .cons rfl .nil
    cases hc
    rfl

end FanNames

end HardwareWatch
