/-!
# Blank characters and trimming

A character is blank when it has the Unicode property `White_Space`: the 25 characters from tab to
the ideographic space. Texts are handled as lists of characters (`Chars`), and the operations on
`String` are their images, so that a law on `Chars` carries over by `String.toList_ofList`.

* `Chars.isBlank` is the property.
* `Chars.trim` removes the blanks at both ends (`Chars.trim_eq_nil_iff`: nothing is left exactly
  of a text of blanks; `Chars.trim_append_cons`: on either side of a character that is no blank, one
  end is left out).
-/

namespace HardwareWatch

/-- A text as the list of its characters. -/
abbrev Chars := List Char

namespace Chars

/-- The Unicode property `White_Space`. -/
def isBlank (c : Char) : Bool :=
  let n := c.toNat
  (9 ≤ n && n ≤ 13) || n == 0x20 || n == 0x85 || n == 0xA0 || n == 0x1680 ||
    (0x2000 ≤ n && n ≤ 0x200A) || n == 0x2028 || n == 0x2029 || n == 0x202F || n == 0x205F ||
    n == 0x3000

theorem isBlank_of_isWhitespace {c : Char} (h : c.isWhitespace = true) : isBlank c = true := by
  simp only [Char.isWhitespace, Bool.or_eq_true, decide_eq_true_eq] at h
  rcases h with ((rfl | rfl) | rfl) | rfl <;> rfl

/-- The text from its first character that is not blank. -/
def trimStart (s : Chars) : Chars := s.dropWhile isBlank

/-- The text up to its last character that is not blank. -/
def trimEnd (s : Chars) : Chars := (s.reverse.dropWhile isBlank).reverse

/-- The text without the blanks at its ends. -/
def trim (s : Chars) : Chars := trimEnd (trimStart s)

/-- Whether nothing but blanks is there. -/
def allBlank (s : Chars) : Bool := s.all isBlank

@[simp] theorem trim_nil : trim [] = [] := rfl

theorem dropWhile_eq_nil_iff (s : Chars) : s.dropWhile isBlank = [] ↔ s.all isBlank = true := by
  induction s with
  | nil => simp
  | cons c r ih => by_cases h : isBlank c = true <;> simp [h, ih]

theorem all_dropWhile (s : Chars) :
    (s.dropWhile isBlank).all isBlank = true ↔ s.all isBlank = true := by
  induction s with
  | nil => simp
  | cons c r ih => by_cases h : isBlank c = true <;> simp_all

theorem trim_eq_nil_iff (s : Chars) : trim s = [] ↔ allBlank s = true := by
  rw [trim, trimEnd, List.reverse_eq_nil_iff, dropWhile_eq_nil_iff, List.all_reverse, trimStart,
    all_dropWhile, allBlank]

/-- What holds of the characters of a text can be evaluated character by character. -/
theorem forall_mem_of_all {p : Char → Prop} [DecidablePred p] {s : Chars}
    (h : s.all (fun c => p c) = true) : ∀ c ∈ s, p c := fun c hc =>
  of_decide_eq_true (List.all_eq_true.1 h c hc)

theorem trimEnd_sublist (s : Chars) : (trimEnd s).Sublist s := by
  have h : (s.reverse.dropWhile isBlank).reverse.Sublist s.reverse.reverse :=
    (List.dropWhile_sublist _).reverse
  rwa [List.reverse_reverse] at h

theorem trim_sublist (s : Chars) : (trim s).Sublist s :=
  (trimEnd_sublist _).trans (List.dropWhile_sublist _)

theorem trimStart_append_cons {c : Char} (hc : isBlank c = false) (s t : Chars) :
    trimStart (s ++ c :: t) = trimStart s ++ c :: t := by
  induction s with
  | nil => simp [trimStart, hc]
  | cons d s ih =>
    by_cases hd : isBlank d
    · simpa [trimStart, hd] using ih
    · simp [trimStart, hd]

theorem trimEnd_append_cons {c : Char} (hc : isBlank c = false) (s t : Chars) :
    trimEnd (s ++ c :: t) = s ++ c :: trimEnd t := by
  have h := congrArg List.reverse (trimStart_append_cons hc t.reverse s.reverse)
  simpa [trimEnd, trimStart] using h

theorem trim_append_cons {c : Char} (hc : isBlank c = false) (s t : Chars) :
    trim (s ++ c :: t) = trimStart s ++ c :: trimEnd t := by
  rw [trim, trimStart_append_cons hc, trimEnd_append_cons hc]

end Chars

namespace Text

/-- The text without the blanks at its ends. -/
def trim (s : String) : String := .ofList (Chars.trim s.toList)

/-- The text without the blanks at its end. -/
def trimEnd (s : String) : String := .ofList (Chars.trimEnd s.toList)

/-- Whether nothing but blanks is there. -/
def isBlank (s : String) : Bool := Chars.allBlank s.toList

@[simp] theorem toList_trim (s : String) : (trim s).toList = Chars.trim s.toList := by simp [trim]

theorem trim_eq_empty_iff (s : String) : trim s = "" ↔ isBlank s = true := by
  rw [← String.toList_inj, toList_trim, String.toList_empty, Chars.trim_eq_nil_iff, isBlank]

end Text

end HardwareWatch
