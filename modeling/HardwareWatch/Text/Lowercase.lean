import HardwareWatch.Text.Blank
import HardwareWatch.Text.CaseTable

/-!
# Lower-casing

The full lower-case mapping of the Unicode standard, without rules of particular languages. All
characters but two become one character whatever stands around them: the dotted capital I becomes
two characters, and a capital sigma becomes the final form where it ends a word.

* `Chars.lowercase` maps a text.
* `Chars.sameIgnoringCase` compares two texts up to the case of ASCII letters only.
* `Chars.lowercaseAfter_append`: the end of a text is written in lower case as it is behind its start.
* `Chars.length_lowercaseAfter_le` and `Chars.eq_of_length_lowercaseAfter` compare the length of a
  text in lower case with that of a part of it; what stands around a character does not change how
  long its form is.
* `Chars.point_notMem_lowercaseAfter`: no point comes into a text.
-/

namespace HardwareWatch

namespace Chars

/-- The lower-case form of a character, where it is one character and depends on nothing else. -/
def lowercaseChar (c : Char) : Char :=
  let n := c.toNat
  if n < 0x80 then c.toLower
  else
    match Text.lowercaseRuns.find? (·.contains n) with
    | some run => Char.ofNat (n + run.shift).toNat
    | none => c

/-- The property `Cased`. -/
def isCased (c : Char) : Bool := Text.inRanges Text.casedRanges c.toNat

/-- The property `Case_Ignorable`. -/
def isCaseIgnorable (c : Char) : Bool := Text.inRanges Text.caseIgnorableRanges c.toNat

/-- Whether the next character that is not case-ignorable is cased. -/
def meetsCased (s : Chars) : Bool := ((s.dropWhile isCaseIgnorable).head?.map isCased).getD false

/-- The lower-case form of a text that stands after `before`, given in reverse. A capital sigma
that follows a cased letter, and that none follows, takes the final form. -/
def lowercaseAfter (before : Chars) : Chars → Chars
  | [] => []
  | c :: s =>
    (if c == 'Σ' then [if meetsCased before && !meetsCased s then 'ς' else 'σ']
      else if c == 'İ' then ['i', '\u0307']
      else [lowercaseChar c]) ++ lowercaseAfter (c :: before) s

/-- The lower-case form of a text. -/
def lowercase (s : Chars) : Chars := lowercaseAfter [] s

/-- The text with the ASCII letters in lower case and all else kept. -/
def lowercaseAscii (s : Chars) : Chars := s.map Char.toLower

/-- Whether two texts differ at most in the case of ASCII letters. -/
def sameIgnoringCase (s t : Chars) : Bool := lowercaseAscii s == lowercaseAscii t

/-! ## Laws -/

variable {c : Char}

/-- The lower-case form of a character between two texts, the first one given in reverse. -/
def lowercaseForm (before : Chars) (c : Char) (s : Chars) : Chars :=
  if c == 'Σ' then [if meetsCased before && !meetsCased s then 'ς' else 'σ']
  else if c == 'İ' then ['i', '\u0307']
  else [lowercaseChar c]

theorem lowercaseAfter_cons (before : Chars) (c : Char) (s : Chars) :
    lowercaseAfter before (c :: s) = lowercaseForm before c s ++ lowercaseAfter (c :: before) s :=
  rfl

/-- The end of a text is written in lower case as it is behind its start. -/
theorem lowercaseAfter_append (before s t : Chars) :
    ∃ start, lowercaseAfter before (s ++ t) = start ++ lowercaseAfter (s.reverse ++ before) t := by
  induction s generalizing before with
  | nil => exact ⟨[], rfl⟩
  | cons c s ih =>
    obtain ⟨start, h⟩ := ih (c :: before)
    refine ⟨lowercaseForm before c (s ++ t) ++ start, ?_⟩
    rw [List.cons_append, lowercaseAfter_cons, h]
    simp

/-! ### Lengths -/

/-- How long the lower-case form of the character is. -/
def lowercaseWidth (c : Char) : Nat := if c = 'İ' then 2 else 1

theorem lowercaseWidth_pos (c : Char) : 0 < lowercaseWidth c := by
  rw [lowercaseWidth]
  split <;> decide

theorem length_lowercaseForm (before : Chars) (c : Char) (s : Chars) :
    (lowercaseForm before c s).length = lowercaseWidth c := by
  rw [lowercaseForm, lowercaseWidth]
  by_cases hsigma : c = 'Σ'
  · simp [hsigma]
  · by_cases hdotted : c = 'İ' <;> simp [hsigma, hdotted]

/-- A part of a text is at most as long in lower case as the text, whatever stands in front. -/
theorem length_lowercaseAfter_le {s t : Chars} (h : s.Sublist t) (before before' : Chars) :
    (lowercaseAfter before s).length ≤ (lowercaseAfter before' t).length := by
  induction h generalizing before before' with
  | slnil => exact Nat.le_refl 0
  | cons c h ih =>
    rw [lowercaseAfter_cons, List.length_append]
    exact Nat.le_trans (ih before (c :: before')) (Nat.le_add_left _ _)
  | cons_cons c h ih =>
    simp only [lowercaseAfter_cons, List.length_append, length_lowercaseForm]
    exact Nat.add_le_add_left (ih _ _) _

/-- A part of a text that is as long in lower case as the text is all of it. -/
theorem eq_of_length_lowercaseAfter {s t before before' : Chars} (h : s.Sublist t)
    (hlen : (lowercaseAfter before s).length = (lowercaseAfter before' t).length) : s = t := by
  induction h generalizing before before' with
  | slnil => rfl
  | cons c h ih =>
    have hle := length_lowercaseAfter_le h before (c :: before')
    have hpos := lowercaseWidth_pos c
    rw [lowercaseAfter_cons, List.length_append, length_lowercaseForm] at hlen
    omega
  | cons_cons c h ih =>
    simp only [lowercaseAfter_cons, List.length_append, length_lowercaseForm,
      Nat.add_left_cancel_iff] at hlen
    rw [ih hlen]

/-! ### Points -/

/-- No run of characters is moved onto the point. -/
theorem point_not_moved_to :
    ∀ run ∈ Text.lowercaseRuns, run.contains ('.'.toNat - run.shift).toNat = false := by
  decide +kernel

theorem eq_point_of_lowercaseChar (h : lowercaseChar c = '.') : c = '.' := by
  have hascii : ∀ n < 0x80, (Char.ofNat n).toLower = '.' → Char.ofNat n = '.' := by decide +kernel
  rw [lowercaseChar] at h
  split at h
  case isTrue hlow => simpa using hascii c.toNat hlow (by simpa using h)
  case isFalse =>
    split at h
    · rename_i run hrun
      have hcode : (c.toNat + run.shift).toNat = '.'.toNat := by
        by_cases hvalid : (c.toNat + run.shift).toNat.isValidChar
        · rw [Char.ofNat, dif_pos hvalid] at h
          exact congrArg Char.toNat h
        · rw [Char.ofNat, dif_neg hvalid] at h
          exact absurd (congrArg Char.toNat h) (by decide)
      have hpoint := point_not_moved_to run (List.mem_of_find?_eq_some hrun)
      have hmoved : ('.'.toNat - run.shift).toNat = c.toNat := by
        have hpos : 0 < '.'.toNat := by decide
        omega
      have hcontains := List.find?_some hrun
      rw [hmoved, hcontains] at hpoint
      cases hpoint
    · exact h

/-- No point comes into a text in lower case. -/
theorem point_notMem_lowercaseAfter {s : Chars} (h : '.' ∉ s) (before : Chars) :
    '.' ∉ lowercaseAfter before s := by
  induction s generalizing before with
  | nil => exact h
  | cons c s ih =>
    rw [List.mem_cons, not_or] at h
    rw [lowercaseAfter_cons, List.mem_append, not_or]
    refine ⟨fun hform => ?_, ih h.2 (c :: before)⟩
    rw [lowercaseForm] at hform
    split at hform
    · split at hform <;> exact absurd hform (by decide)
    · split at hform
      · exact absurd hform (by decide)
      · exact h.1 (eq_point_of_lowercaseChar (List.mem_singleton.1 hform).symm).symm

end Chars

namespace Text

/-- The lower-case form of a text. -/
def lowercase (s : String) : String := .ofList (Chars.lowercase s.toList)

/-- Whether two texts differ at most in the case of ASCII letters. -/
def sameIgnoringCase (s t : String) : Bool := Chars.sameIgnoringCase s.toList t.toList

end Text

end HardwareWatch
