import HardwareWatch.Proofs.Json.Scanning
import HardwareWatch.Proofs.Table.Naming

/-!
# References in written documents

A document holds the texts of its value in quotes, some of their characters escaped. The references
that are found in it are those in its texts, as long as no text leaves a reference open, with their
keys as they are written in quotes.

* `Json.inQuotes` is a text as it is written in quotes; `Reference.names_inQuotes` says which keys it
  names.
* `Json.quotedTexts` are the texts that a document holds, names of fields included.
* `Json.keysFrom_printChars` is the main statement.
-/

namespace HardwareWatch

namespace Json

/-- A text as it is written in quotes. -/
def inQuotes (s : Chars) : Chars := s.flatMap quoteChar

theorem inQuotes_cons (c : Char) (s : Chars) : inQuotes (c :: s) = quoteChar c ++ inQuotes s :=
  List.flatMap_cons

theorem inQuotes_append (a b : Chars) : inQuotes (a ++ b) = inQuotes a ++ inQuotes b :=
  List.flatMap_append

/-- Every character stands for itself in quotes. -/
def Unescaped (s : Chars) : Prop := ∀ c ∈ s, quoteChar c = [c]

instance (s : Chars) : Decidable (Unescaped s) :=
  List.decidableBAll (fun c => quoteChar c = [c]) s

theorem inQuotes_of_unescaped {s : Chars} (h : Unescaped s) : inQuotes s = s := by
  induction s with
  | nil => rfl
  | cons c s ih =>
    rw [inQuotes_cons, h c List.mem_cons_self, ih fun d hd => h d (List.mem_cons_of_mem _ hd)]
    rfl

/-- A character stands for itself in quotes, or else it is escaped by a backslash. -/
theorem quoteChar_eq_or (c : Char) :
    quoteChar c = [c] ∧ c ≠ '\\' ∨ ∃ escape, quoteChar c = '\\' :: escape := by
  unfold quoteChar
  split
  case h_8 hquote hback _ _ _ _ _ =>
    split
    · exact .inr ⟨_, rfl⟩
    · exact .inl ⟨rfl, hback⟩
  all_goals exact .inr ⟨_, rfl⟩

/-- A text that looks in quotes like one without escapes is that one. -/
theorem eq_of_inQuotes_eq {s t : Chars} (h : Unescaped t) (he : t = inQuotes s) : s = t := by
  rw [he, inQuotes_of_unescaped fun c hc => ?_]
  rcases quoteChar_eq_or c with ⟨hself, -⟩ | ⟨escape, hescape⟩
  · exact hself
  · have hback : '\\' ∈ t := by
      rw [he]
      exact List.mem_flatMap.2 ⟨c, hc, hescape ▸ List.mem_cons_self⟩
    exact absurd (h _ hback) (by decide)

theorem quoteChars_eq (s : Chars) : quoteChars s = '\x22' :: (inQuotes s ++ ['\x22']) := rfl

theorem hexDigit_ne : ∀ n < 16, hexDigit n ≠ '$' ∧ hexDigit n ≠ Reference.closing := by decide

/-- The characters at the ends of a reference are not part of any escape. -/
theorem mem_quoteChar {c d : Char} (hc : c = '$' ∨ c = Reference.closing) :
    c ∈ quoteChar d ↔ c = d := by
  unfold quoteChar
  split
  case h_8 =>
    split
    · rename_i hlow
      have high := hexDigit_ne (d.toNat / 16) (by omega)
      have low := hexDigit_ne (d.toNat % 16) (by omega)
      rcases hc with rfl | rfl
      · have hd : '$' ≠ d := by
          rintro rfl
          exact absurd hlow (by decide)
        simp [high.1.symm, low.1.symm, hd]
      · have hd : Reference.closing ≠ d := by
          rintro rfl
          exact absurd hlow (by decide)
        simp [high.2.symm, low.2.symm, hd]
        decide
    · exact List.mem_singleton
  all_goals rcases hc with rfl | rfl <;> decide

theorem mem_inQuotes {c : Char} (hc : c = '$' ∨ c = Reference.closing) {s : Chars} :
    c ∈ inQuotes s ↔ c ∈ s := by
  simp only [inQuotes, List.mem_flatMap, mem_quoteChar hc, exists_eq_right']

/-- A prefix of characters that stand for themselves fits in quotes as it does without. -/
theorem dropPrefix?_inQuotes {p : Chars} (hp : Unescaped p) (s : Chars) :
    Chars.dropPrefix? p (inQuotes s) = (Chars.dropPrefix? p s).map inQuotes := by
  induction p generalizing s with
  | nil => rfl
  | cons x p ih =>
    cases s with
    | nil => rfl
    | cons c s =>
      have hx : quoteChar x = [x] := hp x List.mem_cons_self
      have hrest := ih (fun d hd => hp d (List.mem_cons_of_mem _ hd)) s
      rw [inQuotes_cons]
      rcases quoteChar_eq_or c with ⟨hc, -⟩ | ⟨escape, hc⟩
      · rw [hc]
        by_cases hxc : x = c
        · simp [Chars.dropPrefix?, hxc, hrest]
        · simp [Chars.dropPrefix?, hxc]
      · have hxc : x ≠ c := by
          rintro rfl
          rw [hx] at hc
          obtain ⟨rfl, -⟩ := List.cons.inj hc
          exact absurd hx (by decide)
        have hback : x ≠ '\\' := by
          rintro rfl
          exact absurd hx (by decide)
        simp [hc, Chars.dropPrefix?, hxc, hback]

theorem inQuotes_opening (s : Chars) :
    inQuotes (Reference.opening ++ s) = Reference.opening ++ inQuotes s := by
  rw [inQuotes_append]
  exact congrArg (· ++ inQuotes s) (by decide)

theorem inQuotes_reference (key s : Chars) :
    inQuotes (Reference.opening ++ (key ++ Reference.closing :: s)) =
      Reference.opening ++ (inQuotes key ++ Reference.closing :: inQuotes s) := by
  rw [inQuotes_opening, inQuotes_append, inQuotes_cons]
  rfl

end Json

/-! ## References in quotes -/

namespace Reference

open Json

/-- A character at which no reference starts has none in quotes either. -/
theorem inQuotes_cons_cases {c : Char} {s : Chars}
    (h : Chars.dropPrefix? opening (c :: s) = none) :
    '$' ∉ quoteChar c ∨
      quoteChar c = ['$'] ∧ Chars.dropPrefix? opening ('$' :: inQuotes s) = none := by
  by_cases hc : '$' = c
  · subst hc
    have hquoted := dropPrefix?_inQuotes (p := opening) (by decide) ('$' :: s)
    rw [h] at hquoted
    exact .inr ⟨by decide, hquoted⟩
  · exact .inl fun hm => hc ((mem_quoteChar (.inl rfl)).1 hm)

/-- A text leaves no reference open in quotes if it leaves none open without. -/
theorem closed_inQuotes {s : Chars} : Closed (inQuotes s) ↔ Closed s := by
  induction s using search_induction with
  | nil => rfl
  | step c s hp ih =>
    rw [closed_cons hp, ← ih, inQuotes_cons]
    rcases inQuotes_cons_cases hp with hc | ⟨hc, hnone⟩
    · exact closed_append_of_notMem hc
    · rw [hc]
      exact closed_cons hnone
  | found key after hkey ih => rw [inQuotes_reference, closed_opening, closed_opening, ih]
  | unclosed rest hrest =>
    have hquoted : closing ∉ inQuotes rest := fun hm => hrest ((mem_inQuotes (.inr rfl)).1 hm)
    rw [inQuotes_opening]
    exact iff_of_false (fun h => hquoted (h [] _ rfl)) fun h => hrest (h [] _ rfl)

/-- In quotes a text names the keys that it names without, as they are written in quotes. -/
theorem names_inQuotes {s key : Chars} :
    Names (inQuotes s) key ↔ ∃ name, Names s name ∧ key = inQuotes name := by
  induction s using search_induction with
  | nil =>
    refine ⟨fun h => ?_, fun ⟨_, h, _⟩ => ?_⟩
    · cases h.closing_mem
    · cases h.closing_mem
  | step c s hp ih =>
    simp only [names_cons hp]
    rw [← ih, inQuotes_cons]
    rcases inQuotes_cons_cases hp with hc | ⟨hc, hnone⟩
    · exact names_append_of_notMem hc
    · rw [hc]
      exact names_cons hnone
  | found k after hk ih =>
    have hquoted : closing ∉ inQuotes k := fun hm => hk ((mem_inQuotes (.inr rfl)).1 hm)
    simp only [inQuotes_reference, names_opening hquoted, names_opening hk, ih, or_and_right,
      exists_or, exists_eq_left]
  | unclosed rest hrest =>
    have hquoted : closing ∉ opening ++ rest := by simp [closing_notMem_opening, hrest]
    refine iff_of_false (fun h => ?_) fun ⟨_, h, _⟩ => hquoted h.closing_mem
    exact hquoted ((mem_inQuotes (.inr rfl)).1 h.closing_mem)

end Reference

/-! ## References in a document -/

namespace Json

open Reference

variable {P : Nat → Prop} {room : Nat}

mutual

/-- The texts in a value, names of fields included, in the order in which they are written. -/
def quotedTexts : Json → List String
  | .text s => [s]
  | .array items => quotedItemTexts items
  | .object fields => quotedFieldTexts fields
  | .null | .bool _ | .integer _ | .double _ | .unreadable => []

/-- The texts in the items. -/
def quotedItemTexts : List Json → List String
  | [] => []
  | v :: rest => v.quotedTexts ++ quotedItemTexts rest

/-- The names of the fields, and the texts in them. -/
def quotedFieldTexts : List (String × Json) → List String
  | [] => []
  | (name, v) :: rest => name :: (v.quotedTexts ++ quotedFieldTexts rest)

end

theorem mem_quotedItemTexts {items : List Json} {t : String} :
    t ∈ quotedItemTexts items ↔ ∃ v ∈ items, t ∈ v.quotedTexts := by
  induction items with
  | nil => simp [quotedItemTexts]
  | cons v rest ih => simp [quotedItemTexts, ih]

theorem mem_quotedFieldTexts {fields : List (String × Json)} {t : String} :
    t ∈ quotedFieldTexts fields ↔ ∃ f ∈ fields, t = f.1 ∨ t ∈ f.2.quotedTexts := by
  induction fields with
  | nil => simp [quotedFieldTexts]
  | cons f rest ih => simp [quotedFieldTexts, ih, or_assoc]

/-- The keys found in a text that stands in quotes. -/
def keysInQuotes (t : String) : List Chars := keysFrom 0 (inQuotes t.toList)

theorem keysFrom_quoteChars {t : String} (h : Closed t.toList) (rest : Chars) :
    keysFrom 0 (quoteChars t.toList ++ rest) = keysInQuotes t ++ keysFrom 0 rest := by
  have hquote : '$' ∉ ['\x22'] := by decide
  have hopen := keysFrom_append_of_notMem hquote (inQuotes t.toList ++ '\x22' :: rest)
  have hclose := keysFrom_append_of_notMem hquote rest
  have htext := keysFrom_append (closed_inQuotes.2 h) (c := '\x22') (by decide) rest
  rw [List.singleton_append] at hopen hclose
  rw [quoteChars_eq, List.cons_append, List.append_assoc, List.singleton_append, hopen, htext,
    hclose, keysInQuotes]

theorem keysFrom_field {name : String} (hname : Closed name.toList) {s rest : Chars}
    {keys : List Chars} (h : keysFrom 0 (s ++ rest) = keys ++ keysFrom 0 rest) :
    keysFrom 0 ((quoteChars name.toList ++ ':' :: s) ++ rest) =
      keysInQuotes name ++ keys ++ keysFrom 0 rest := by
  have hcolon : '$' ∉ [':'] := by decide
  have hvalue := keysFrom_append_of_notMem hcolon (s ++ rest)
  rw [List.singleton_append] at hvalue
  rw [List.append_assoc, List.cons_append, keysFrom_quoteChars hname, hvalue, h, List.append_assoc]

theorem dollar_notMem_toString (m : Nat) : '$' ∉ (toString (m : Int)).toList := by
  rw [Token.toList_toString_natCast]
  exact fun h => absurd (Chars.isDigit_of_mem_toDigits h) (by decide)

mutual

/-- The keys found in a document are those found in its texts, one text after the other. -/
theorem keysFrom_printChars (v : Json) {room : Nat} (hv : Plain P room v)
    (hclosed : ∀ t ∈ v.quotedTexts, Closed t.toList) (rest : Chars) :
    keysFrom 0 (v.printChars ++ rest) = v.quotedTexts.flatMap keysInQuotes ++ keysFrom 0 rest := by
  have bracket {c : Char} (hc : c ≠ '$') (s : Chars) : keysFrom 0 (c :: s) = keysFrom 0 s :=
    keysFrom_cons (dropPrefix?_opening_of_ne hc s)
  cases v with
  | null => exact keysFrom_append_of_notMem (by decide) rest
  | bool b => cases b <;> exact keysFrom_append_of_notMem (by decide) rest
  | integer n =>
    obtain ⟨m, rfl, -⟩ := hv
    exact keysFrom_append_of_notMem (dollar_notMem_toString m) rest
  | double x => exact hv.elim
  | text s =>
    have hs := keysFrom_quoteChars (hclosed s List.mem_cons_self) rest
    simpa [printChars, quotedTexts] using hs
  | array items =>
    rw [printChars, List.cons_append, List.cons_append, List.append_assoc, List.singleton_append,
      bracket (by decide), keysFrom_printItems items hv.2 hclosed, bracket (by decide), quotedTexts]
  | object fields =>
    rw [printChars, List.cons_append, List.cons_append, List.append_assoc, List.singleton_append,
      bracket (by decide), keysFrom_printFields fields hv.2 hclosed, bracket (by decide),
      quotedTexts]
  | unreadable => exact hv.elim

theorem keysFrom_printItems (items : List Json) {room : Nat} (hv : PlainItems P room items)
    (hclosed : ∀ t ∈ quotedItemTexts items, Closed t.toList) (rest : Chars) :
    keysFrom 0 (Chars.join [','] (printItems items) ++ rest) =
      (quotedItemTexts items).flatMap keysInQuotes ++ keysFrom 0 rest := by
  match items with
  | [] => simp [printItems, quotedItemTexts, Chars.join]
  | [v] =>
    have hread := keysFrom_printChars v hv.1 (by simpa [quotedItemTexts] using hclosed) rest
    simpa [printItems, quotedItemTexts, Chars.join] using hread
  | v :: w :: more =>
    have hfirst : ∀ t ∈ v.quotedTexts, Closed t.toList := fun t ht =>
      hclosed t (List.mem_append_left _ ht)
    have hothers : ∀ t ∈ quotedItemTexts (w :: more), Closed t.toList := fun t ht =>
      hclosed t (List.mem_append_right _ ht)
    have hread := keysFrom_printItems (w :: more) hv.2 hothers rest
    have hcomma (s : Chars) := keysFrom_append_of_notMem (a := [',']) (by decide) s
    simp only [printItems, List.singleton_append] at hread hcomma ⊢
    rw [join_cons_cons, List.append_assoc, List.cons_append, keysFrom_printChars v hv.1 hfirst,
      hcomma, hread]
    simp [quotedItemTexts]

theorem keysFrom_printFields (fields : List (String × Json)) {room : Nat}
    (hv : PlainFields P room fields)
    (hclosed : ∀ t ∈ quotedFieldTexts fields, Closed t.toList) (rest : Chars) :
    keysFrom 0 (Chars.join [','] (printFields fields) ++ rest) =
      (quotedFieldTexts fields).flatMap keysInQuotes ++ keysFrom 0 rest := by
  match fields with
  | [] => simp [printFields, quotedFieldTexts, Chars.join]
  | [(name, v)] =>
    have hname : Closed name.toList := hclosed name List.mem_cons_self
    have hvalue : ∀ t ∈ v.quotedTexts, Closed t.toList := fun t ht =>
      hclosed t (List.mem_cons_of_mem _ (List.mem_append_left _ ht))
    have hread := keysFrom_field hname (keysFrom_printChars v hv.1 hvalue rest)
    simpa [printFields, quotedFieldTexts, Chars.join] using hread
  | (name, v) :: f :: more =>
    have hname : Closed name.toList := hclosed name List.mem_cons_self
    have hvalue : ∀ t ∈ v.quotedTexts, Closed t.toList := fun t ht =>
      hclosed t (List.mem_cons_of_mem _ (List.mem_append_left _ ht))
    have hothers : ∀ t ∈ quotedFieldTexts (f :: more), Closed t.toList := fun t ht =>
      hclosed t (List.mem_cons_of_mem _ (List.mem_append_right _ ht))
    have hread := keysFrom_printFields (f :: more) hv.2 hothers rest
    have hcomma (s : Chars) := keysFrom_append_of_notMem (a := [',']) (by decide) s
    obtain ⟨name', v'⟩ := f
    simp only [printFields, List.singleton_append] at hread hcomma ⊢
    rw [join_cons_cons, List.append_assoc, List.cons_append,
      keysFrom_field hname (keysFrom_printChars v hv.1 hvalue _), hcomma, hread]
    simp [quotedFieldTexts]

end

/-- **The keys found in a document** in which no text leaves a reference open: those that its texts
name, as they are written in quotes. -/
theorem mem_keysFrom_printChars {v : Json} (hv : Plain P room v)
    (hclosed : ∀ t ∈ v.quotedTexts, Closed t.toList) {key : Chars} :
    key ∈ keysFrom 0 v.printChars ↔
      isKey key ∧ ∃ t ∈ v.quotedTexts, ∃ name, Names t.toList name ∧ key = inQuotes name := by
  have hkeys := keysFrom_printChars v hv hclosed []
  rw [List.append_nil, show keysFrom 0 [] = [] from rfl, List.append_nil] at hkeys
  rw [hkeys, List.mem_flatMap]
  simp only [keysInQuotes, mem_keysFrom_iff, names_inQuotes]
  exact ⟨fun ⟨t, ht, hname, hkey⟩ => ⟨hkey, t, ht, hname⟩,
    fun ⟨hkey, t, ht, hname⟩ => ⟨t, ht, hname, hkey⟩⟩

end Json

end HardwareWatch
