import HardwareWatch.Placeholder.Escape
import HardwareWatch.Text.Pieces
import Mathlib.Data.List.Basic

/-!
# Values in shell text

Outside of quotes a shell takes a character behind a backslash for the character itself. Values that
are escaped for it are read back character by character, but four of the characters with a meaning
are not escaped: blank, tab, backtick and number sign.

* `ShellLetter.read?` reads shell text into letters, `ShellLetter.read?_escaped` says what is read
  of an escaped value.
* `EscapeKind.shell_reads_escaped_iff` is the result: which values are read back, and which
  characters of them have a meaning.
-/

namespace HardwareWatch

/-- A character of shell text. -/
structure ShellLetter where
  char : Char
  /-- Whether a backslash stands in front. -/
  quoted : Bool
  deriving DecidableEq

namespace ShellLetter

/-- The characters with a meaning in shell text. -/
def metacharacters : Chars := " \t\x60'\x22$;|&<>()\x7b\x7d[]*?!~#".toList

/-- The letter has a meaning of its own. -/
def IsActive (l : ShellLetter) : Prop := l.quoted = false ∧ l.char ∈ metacharacters

instance (l : ShellLetter) : Decidable l.IsActive := inferInstanceAs (Decidable (_ ∧ _))

/-- The letters of a text outside of quotes, unless a lone backslash ends it. -/
def read? : Chars → Option (List ShellLetter)
  | [] => some []
  | '\\' :: c :: s => (read? s).map (⟨c, true⟩ :: ·)
  | c :: s => if c = '\\' then none else (read? s).map (⟨c, false⟩ :: ·)

/-- The metacharacters that stay as they are when a value is escaped. -/
def bareMarks : Chars := [' ', '\t', '\x60', '#']

/-- What is read of an escaped character. -/
def ofEscaped (c : Char) : ShellLetter :=
  if c = '\n' then ⟨'n', true⟩ else ⟨c, c ∈ EscapeKind.shellMarks⟩

variable {c : Char} {s : Chars}

theorem read?_cons_of_ne (hc : c ≠ '\\') (s : Chars) :
    read? (c :: s) = (read? s).map (⟨c, false⟩ :: ·) := by
  rw [read?, if_neg hc]
  exact fun _ _ h => absurd h hc

theorem read?_escapeChar (c : Char) (rest : Chars) :
    read? (EscapeKind.bash.escapeChar c ++ rest) = (read? rest).map (ofEscaped c :: ·) := by
  rw [EscapeKind.escapeChar, ofEscaped]
  split_ifs with hfeed hmark
  · rfl
  · simp [read?, hmark]
  · have hback : c ≠ '\\' := fun he => hmark (he ▸ by decide)
    simp [read?_cons_of_ne hback, hmark]

/-- An escaped value is read character by character, whatever follows it. -/
theorem read?_escaped (s rest : Chars) :
    read? (s.flatMap EscapeKind.bash.escapeChar ++ rest) =
      (read? rest).map (s.map ofEscaped ++ ·) := by
  induction s with
  | nil => simp
  | cons c s ih =>
    rw [List.flatMap_cons, List.append_assoc, read?_escapeChar, ih, Option.map_map]
    rfl

theorem char_ofEscaped_eq_iff : (ofEscaped c).char = c ↔ c ≠ '\n' := by
  rw [ofEscaped]
  split_ifs with hfeed
  · rw [hfeed]
    decide
  · simpa using hfeed

theorem isActive_ofEscaped_iff : (ofEscaped c).IsActive ↔ c ∈ bareMarks := by
  have hmissed : ∀ m ∈ metacharacters, m ∈ EscapeKind.shellMarks ∨ m ∈ bareMarks :=
    Chars.forall_mem_of_all (by decide)
  have hbare : ∀ m ∈ bareMarks, m ∉ EscapeKind.shellMarks ∧ m ∈ metacharacters :=
    Chars.forall_mem_of_all (by decide)
  rw [ofEscaped, IsActive]
  split_ifs with hfeed
  · rw [hfeed]
    decide
  · simp only [decide_eq_false_iff_not]
    exact ⟨fun h => (hmissed c h.2).resolve_left h.1, hbare c⟩

end ShellLetter

open ShellLetter

/-- **Values escaped for a shell.** Whatever follows, an escaped value is read letter by letter. The
letters are those of the value exactly if it has no line feed. The letters with a meaning are the
blanks, tabs, backticks and number signs of the value, so it has no meaning in the shell if and only
if it has none of these. -/
theorem EscapeKind.shell_reads_escaped_iff (value : String) :
    ∃ letters : List ShellLetter,
      (∀ rest : String, read? (bash.escape value ++ rest).toList =
        (read? rest.toList).map (letters ++ ·)) ∧
      (letters.map (·.char) = value.toList ↔ '\n' ∉ value.toList) ∧
      (letters.filter (·.IsActive)).map (·.char) = value.toList.filter (· ∈ bareMarks) ∧
      ((∀ l ∈ letters, ¬l.IsActive) ↔ ∀ c ∈ bareMarks, c ∉ value.toList) := by
  refine ⟨value.toList.map ofEscaped, fun rest => ?_, ?_, ?_, ?_⟩
  · rw [String.toList_append, escape, String.toList_ofList, read?_escaped]
  · have hsame : (value.toList.map ofEscaped).map (·.char) = value.toList ↔
        ∀ c ∈ value.toList, (ofEscaped c).char = c := by
      rw [List.map_map]
      nth_rewrite 2 [← List.map_id value.toList]
      exact List.map_inj_left
    simp only [hsame, char_ofEscaped_eq_iff]
    exact ⟨fun h hfeed => h _ hfeed rfl, fun h c hc he => h (he ▸ hc)⟩
  · have hactive : (fun l : ShellLetter => decide l.IsActive) ∘ ofEscaped = (· ∈ bareMarks) :=
      funext fun c => by simp [isActive_ofEscaped_iff]
    rw [List.filter_map, List.map_map, hactive]
    refine (List.map_congr_left fun c hc => ?_).trans (List.map_id _)
    exact char_ofEscaped_eq_iff.2 fun he => by simp [he, bareMarks] at hc
  · simp only [List.forall_mem_map, isActive_ofEscaped_iff]
    exact ⟨fun h c hc hmem => h c hmem hc, fun h c hmem hc => h c hc hmem⟩

/-- A command between backticks keeps its meaning when it is escaped. -/
theorem ShellLetter.backticks_stay_active :
    '\n' ∉ "\x60id\x60".toList ∧
      ∃ letters, read? (EscapeKind.bash.escape "\x60id\x60").toList = some letters ∧
        ∃ l ∈ letters, l.IsActive :=
  ⟨by decide, _, rfl, ⟨'\x60', false⟩, by decide, by decide⟩

end HardwareWatch
