import HardwareWatch.Text.Blank

/-!
# Cutting a text into pieces

Splitting at separators, line by line reading, and the search and replacement of a fixed text.
Occurrences are found from left to right and do not overlap.

* `Chars.splitBy p` cuts at every character with `p`; `Chars.splitOn sep` cuts at every occurrence
  of a non-empty text. Joining the pieces with the separator restores the text
  (`Chars.join_splitOn`, `Chars.join_splitBy`), and what is joined is cut into the pieces of its
  parts (`Chars.splitBy_join`).
* `Chars.lines` reads lines ended by a line feed, with or without a carriage return before it. What
  follows the last line feed is a line unless it is empty. Lines that are joined are read again
  (`Chars.lines_join`).
* `Chars.replaceAll` replaces every occurrence (`Chars.replaceAll_append`), and leaves what is no part
  of one (`Chars.replaceAll_cons`).
-/

namespace HardwareWatch

namespace Chars

/-- What follows `p` at the start of the text. -/
def dropPrefix? : (p s : Chars) → Option Chars
  | [], s => some s
  | _ :: _, [] => none
  | a :: p, c :: s => if a = c then dropPrefix? p s else none

/-- What stands before `p` at the end of the text. -/
def dropSuffix? (p s : Chars) : Option Chars :=
  (dropPrefix? p.reverse s.reverse).map List.reverse

/-- What stands before and after the first occurrence of `p`. -/
def breakOn? (p : Chars) : Chars → Option (Chars × Chars)
  | [] => if p = [] then some ([], []) else none
  | c :: s =>
    match dropPrefix? p (c :: s) with
    | some rest => some ([], rest)
    | none => (breakOn? p s).map fun (before, rest) => (c :: before, rest)

/-- Whether `p` occurs in the text. -/
def hasInfix (p s : Chars) : Bool := (breakOn? p s).isSome

/-- Put a character in front of the first piece. -/
def consHead (c : Char) : List Chars → List Chars
  | [] => [[c]]
  | piece :: pieces => (c :: piece) :: pieces

/-- The pieces between the characters with `p`. -/
def splitBy (p : Char → Bool) : Chars → List Chars
  | [] => [[]]
  | c :: s => if p c then [] :: splitBy p s else consHead c (splitBy p s)

/-- The pieces between the occurrences of `sep` in the text less its first `skip` characters. -/
def splitFrom (sep : Chars) : (skip : Nat) → Chars → List Chars
  | _, [] => [[]]
  | skip + 1, _ :: s => splitFrom sep skip s
  | 0, c :: s =>
    if (dropPrefix? sep (c :: s)).isSome then [] :: splitFrom sep (sep.length - 1) s
    else consHead c (splitFrom sep 0 s)

/-- The pieces between the occurrences of a non-empty text. -/
def splitOn (sep s : Chars) : List Chars := splitFrom sep 0 s

/-- The pieces joined with `sep` between them. -/
def join (sep : Chars) (pieces : List Chars) : Chars := List.intercalate sep pieces

/-- The text with every occurrence of the non-empty text `old` replaced. -/
def replaceAll (old new s : Chars) : Chars := join new (splitOn old s)

/-- The line without a carriage return at its end. -/
def chomp (line : Chars) : Chars := (dropSuffix? ['\r'] line).getD line

/-- The lines of a text that ends right after a line feed, or whose end ends no line. -/
def linesOf : List Chars → List Chars
  | [] => []
  | [last] => if last = [] then [] else [last]
  | line :: rest => chomp line :: linesOf rest

/-- The lines of the text. -/
def lines (s : Chars) : List Chars := linesOf (splitBy (· == '\n') s)

/-! ## Laws -/

theorem dropPrefix?_append (p s : Chars) : dropPrefix? p (p ++ s) = some s := by
  induction p with
  | nil => rfl
  | cons a p ih => simpa [dropPrefix?] using ih

theorem eq_append_of_dropPrefix? {p s rest : Chars} (h : dropPrefix? p s = some rest) :
    s = p ++ rest := by
  induction p generalizing s with
  | nil => simpa [dropPrefix?] using h
  | cons a p ih =>
    cases s with
    | nil => simp [dropPrefix?] at h
    | cons c s =>
      simp only [dropPrefix?] at h
      split at h
      · rename_i hac
        rw [hac, List.cons_append, ← ih h]
      · cases h

theorem dropPrefix?_eq_some_iff {p s rest : Chars} :
    dropPrefix? p s = some rest ↔ s = p ++ rest :=
  ⟨eq_append_of_dropPrefix?, fun h => h ▸ dropPrefix?_append p rest⟩

theorem dropSuffix?_eq_some_iff {p s rest : Chars} :
    dropSuffix? p s = some rest ↔ s = rest ++ p := by
  rw [dropSuffix?, Option.map_eq_some_iff]
  constructor
  · rintro ⟨r, hr, rfl⟩
    have := congrArg List.reverse (dropPrefix?_eq_some_iff.1 hr)
    simpa using this
  · rintro rfl
    exact ⟨rest.reverse, dropPrefix?_eq_some_iff.2 List.reverse_append, List.reverse_reverse rest⟩

theorem eq_append_of_breakOn? {p s before after : Chars} (h : breakOn? p s = some (before, after)) :
    s = before ++ (p ++ after) := by
  induction s generalizing before with
  | nil =>
    rw [breakOn?] at h
    split at h
    · cases h
      simp [*]
    · cases h
  | cons c s ih =>
    rw [breakOn?] at h
    split at h
    · rename_i rest hrest
      cases h
      rw [List.nil_append]
      exact eq_append_of_dropPrefix? hrest
    · obtain ⟨⟨before', after'⟩, hbreak, he⟩ := Option.map_eq_some_iff.1 h
      cases he
      rw [List.cons_append, ← ih hbreak]

theorem consHead_ne_nil (c : Char) (pieces : List Chars) : consHead c pieces ≠ [] := by
  cases pieces <;> simp [consHead]

theorem splitBy_ne_nil (p : Char → Bool) (s : Chars) : splitBy p s ≠ [] := by
  cases s with
  | nil => simp [splitBy]
  | cons c s =>
    rw [splitBy]
    split
    · simp
    · exact consHead_ne_nil _ _

theorem splitFrom_ne_nil (sep : Chars) (skip : Nat) (s : Chars) : splitFrom sep skip s ≠ [] := by
  fun_induction splitFrom sep skip s with
  | case1 => simp
  | case2 _ _ _ ih => exact ih
  | case3 => simp
  | case4 => exact consHead_ne_nil _ _

theorem join_cons_of_ne_nil (sep x : Chars) {xs : List Chars} (h : xs ≠ []) :
    join sep (x :: xs) = x ++ sep ++ join sep xs := by
  cases xs with
  | nil => exact absurd rfl h
  | cons y ys => simp [join, List.intercalate, List.intersperse]

theorem mem_join {sep x : Chars} {xs : List Chars} (hx : x ∈ xs) {c : Char} (hc : c ∈ x) :
    c ∈ join sep xs := by
  induction xs with
  | nil => cases hx
  | cons y ys ih =>
    cases ys with
    | nil =>
      rw [List.mem_singleton.1 hx] at hc
      simpa [join] using hc
    | cons z zs =>
      rw [join_cons_of_ne_nil _ _ (List.cons_ne_nil z zs), List.mem_append, List.mem_append]
      rcases List.mem_cons.1 hx with rfl | hx
      · exact .inl (.inl hc)
      · exact .inr (ih hx)

theorem join_append_cons (sep s x : Chars) (xs : List Chars) :
    s ++ join sep (x :: xs) = join sep ((s ++ x) :: xs) := by
  cases xs with
  | nil => simp [join]
  | cons y ys => simp [join_cons_of_ne_nil]

theorem join_consHead (sep : Chars) (c : Char) {xs : List Chars} (h : xs ≠ []) :
    join sep (consHead c xs) = c :: join sep xs := by
  cases xs with
  | nil => exact absurd rfl h
  | cons x xs =>
    cases xs with
    | nil => simp [consHead, join, List.intercalate, List.intersperse]
    | cons y ys => simp [consHead, join_cons_of_ne_nil]

theorem join_splitFrom (sep : Chars) (h : sep ≠ []) (skip : Nat) (s : Chars) :
    join sep (splitFrom sep skip s) = s.drop skip := by
  fun_induction splitFrom sep skip s with
  | case1 => simp [join, List.intercalate, List.intersperse]
  | case2 skip c s ih => simpa using ih
  | case3 c s hp ih =>
    obtain ⟨rest, hr⟩ := Option.isSome_iff_exists.1 hp
    rw [join_cons_of_ne_nil _ _ (splitFrom_ne_nil _ _ _), ih]
    have hs := eq_append_of_dropPrefix? hr
    cases sep with
    | nil => exact absurd rfl h
    | cons a sep =>
      simp only [List.cons_append, List.cons.injEq] at hs
      simp [hs.1, hs.2]
  | case4 c s _ ih =>
    rw [join_consHead _ _ (splitFrom_ne_nil _ _ _), ih]
    rfl

/-- Joining the pieces with the separator restores the text. -/
theorem join_splitOn {sep : Chars} (h : sep ≠ []) (s : Chars) : join sep (splitOn sep s) = s :=
  join_splitFrom sep h 0 s

theorem splitFrom_drop (sep : Chars) (skip : Nat) (s : Chars) :
    splitFrom sep skip s = splitFrom sep 0 (s.drop skip) := by
  induction skip generalizing s with
  | zero => rfl
  | succ skip ih =>
    cases s with
    | nil => rfl
    | cons c s => exact ih s

theorem replaceAll_append {old : Chars} (h : old ≠ []) (new s : Chars) :
    replaceAll old new (old ++ s) = new ++ replaceAll old new s := by
  cases old with
  | nil => exact absurd rfl h
  | cons a old =>
    have hfound : (dropPrefix? (a :: old) (a :: (old ++ s))).isSome := by
      rw [← List.cons_append, dropPrefix?_append]
      rfl
    rw [replaceAll, splitOn, List.cons_append, splitFrom, if_pos hfound, splitFrom_drop,
      List.length_cons, Nat.add_sub_cancel, List.drop_left,
      join_cons_of_ne_nil _ _ (splitFrom_ne_nil _ _ _), List.nil_append]
    rfl

theorem replaceAll_cons {old : Chars} {c : Char} {s : Chars} (h : ¬old <+: c :: s)
    (new : Chars) : replaceAll old new (c :: s) = c :: replaceAll old new s := by
  have hnone : ¬(dropPrefix? old (c :: s)).isSome := fun hsome => by
    obtain ⟨rest, hrest⟩ := Option.isSome_iff_exists.1 hsome
    exact h ⟨rest, (eq_append_of_dropPrefix? hrest).symm⟩
  rw [replaceAll, splitOn, splitFrom, if_neg hnone, join_consHead _ _ (splitFrom_ne_nil _ _ _)]
  rfl

theorem consHead_append (c : Char) {xs : List Chars} (h : xs ≠ []) (ys : List Chars) :
    consHead c (xs ++ ys) = consHead c xs ++ ys := by
  cases xs with
  | nil => exact absurd rfl h
  | cons x xs => rfl

theorem splitBy_append_cons {p : Char → Bool} {c : Char} (hc : p c = true) (s t : Chars) :
    splitBy p (s ++ c :: t) = splitBy p s ++ splitBy p t := by
  induction s with
  | nil => simp [splitBy, hc]
  | cons d s ih =>
    rw [List.cons_append, splitBy, splitBy, ih]
    split
    · rfl
    · exact consHead_append d (splitBy_ne_nil p s) _

theorem splitBy_of_forall {p : Char → Bool} {s : Chars} (h : ∀ d ∈ s, p d = false) :
    splitBy p s = [s] := by
  induction s with
  | nil => rfl
  | cons d s ih =>
    rw [splitBy, h d List.mem_cons_self, ih fun e he => h e (List.mem_cons_of_mem _ he)]
    rfl

theorem join_splitBy (c : Char) (s : Chars) : join [c] (splitBy (· == c) s) = s := by
  induction s with
  | nil => rfl
  | cons d s ih =>
    rw [splitBy]
    split
    · rename_i hd
      rw [join_cons_of_ne_nil _ _ (splitBy_ne_nil _ s), ih, beq_iff_eq.1 hd]
      rfl
    · rw [join_consHead _ _ (splitBy_ne_nil _ s), ih]

theorem splitBy_join (c : Char) {xs : List Chars} (h : xs ≠ []) :
    splitBy (· == c) (join [c] xs) = xs.flatMap (splitBy (· == c)) := by
  induction xs with
  | nil => exact absurd rfl h
  | cons x xs ih =>
    cases xs with
    | nil => simp [join]
    | cons y ys =>
      rw [join_cons_of_ne_nil _ _ (List.cons_ne_nil y ys), List.append_assoc,
        List.singleton_append, splitBy_append_cons (p := (· == c)) (beq_self_eq_true c),
        ih (List.cons_ne_nil y ys), ← List.flatMap_cons]

/-- Lists of texts are joined to one text exactly if they have the same pieces. -/
theorem join_eq_join_iff (c : Char) {xs ys : List Chars} (h : xs.length = ys.length) :
    join [c] xs = join [c] ys ↔
      xs.flatMap (splitBy (· == c)) = ys.flatMap (splitBy (· == c)) := by
  by_cases hxs : xs = []
  · rw [hxs] at h ⊢
    rw [List.eq_nil_of_length_eq_zero h.symm]
    exact iff_of_true rfl rfl
  · have hys : ys ≠ [] := fun he => hxs (List.eq_nil_of_length_eq_zero (h.trans (by rw [he]; rfl)))
    rw [← splitBy_join c hxs, ← splitBy_join c hys]
    refine ⟨congrArg _, fun he => ?_⟩
    rw [← join_splitBy c (join [c] xs), he, join_splitBy]

theorem splitOn_singleton (c : Char) (s : Chars) : splitOn [c] s = splitBy (· == c) s := by
  rw [splitOn]
  induction s with
  | nil => rfl
  | cons d s ih =>
    rw [splitFrom, splitBy]
    by_cases h : c = d
    · subst h
      simpa [dropPrefix?] using ih
    · simpa [dropPrefix?, h, Ne.symm h] using congrArg (consHead d) ih

theorem of_mem_splitBy {p : Char → Bool} {s piece : Chars} (h : piece ∈ splitBy p s) :
    ∀ d ∈ piece, d ∈ s ∧ p d = false := by
  induction s generalizing piece with
  | nil =>
    rw [splitBy, List.mem_singleton] at h
    simp [h]
  | cons c s ih =>
    intro d hd
    rw [splitBy] at h
    split at h
    · rcases List.mem_cons.1 h with rfl | h
      · exact absurd hd List.not_mem_nil
      · exact (ih h d hd).imp_left (List.mem_cons_of_mem c)
    · rename_i hc
      obtain ⟨x, xs, hpieces⟩ := List.exists_cons_of_ne_nil (splitBy_ne_nil p s)
      rw [hpieces] at ih h
      rcases List.mem_cons.1 h with rfl | h
      · rcases List.mem_cons.1 hd with rfl | hd
        · exact ⟨List.mem_cons_self, by simpa using hc⟩
        · exact (ih List.mem_cons_self d hd).imp_left (List.mem_cons_of_mem c)
      · exact (ih (List.mem_cons_of_mem x h) d hd).imp_left (List.mem_cons_of_mem c)

theorem splitBy_join_of_forall {c : Char} {xs : List Chars} (h : xs ≠ [])
    (hc : ∀ x ∈ xs, c ∉ x) : splitBy (· == c) (join [c] xs) = xs := by
  have hpiece : ∀ x ∈ xs, splitBy (· == c) x = [x] := fun x hx =>
    splitBy_of_forall fun d hd => beq_eq_false_iff_ne.2 fun he => hc x hx (he ▸ hd)
  rw [splitBy_join c h, List.flatMap_def, List.map_congr_left hpiece, ← List.flatMap_def,
    List.flatMap_singleton']

theorem chomp_of_not_suffix {line : Chars} (h : ¬['\r'] <:+ line) : chomp line = line := by
  rw [chomp]
  cases hsuffix : dropSuffix? ['\r'] line with
  | none => rfl
  | some rest => exact absurd ⟨rest, (dropSuffix?_eq_some_iff.1 hsuffix).symm⟩ h

theorem mem_of_mem_chomp {line : Chars} {d : Char} (h : d ∈ chomp line) : d ∈ line := by
  rw [chomp] at h
  cases hsuffix : dropSuffix? ['\r'] line with
  | none => rwa [hsuffix] at h
  | some rest =>
    rw [hsuffix] at h
    rw [dropSuffix?_eq_some_iff.1 hsuffix]
    exact List.mem_append_left _ h

theorem linesOf_of_forall {pieces : List Chars} (h : ∀ l ∈ pieces, l ≠ [] ∧ ¬['\r'] <:+ l) :
    linesOf pieces = pieces := by
  fun_induction linesOf pieces with
  | case1 => rfl
  | case2 => exact absurd rfl (h [] List.mem_cons_self).1
  | case3 => rfl
  | case4 line rest _ ih =>
    rw [chomp_of_not_suffix (h line List.mem_cons_self).2,
      ih fun l hl => h l (List.mem_cons_of_mem _ hl)]

/-- Lines that are neither empty nor ended by a carriage return are read as they were joined. -/
theorem lines_join {ls : List Chars} (hfeed : ∀ l ∈ ls, '\n' ∉ l)
    (h : ∀ l ∈ ls, l ≠ [] ∧ ¬['\r'] <:+ l) : lines (join ['\n'] ls) = ls := by
  by_cases hls : ls = []
  · rw [hls]
    rfl
  · rw [lines, splitBy_join_of_forall hls hfeed, linesOf_of_forall h]

theorem exists_of_mem_linesOf {pieces : List Chars} {l : Chars} (h : l ∈ linesOf pieces) :
    ∃ piece ∈ pieces, ∀ d ∈ l, d ∈ piece := by
  fun_induction linesOf pieces with
  | case1 => exact absurd h List.not_mem_nil
  | case2 => exact absurd h List.not_mem_nil
  | case3 last => exact ⟨last, List.mem_cons_self, by simp_all⟩
  | case4 line rest _ ih =>
    rcases List.mem_cons.1 h with rfl | h
    · exact ⟨line, List.mem_cons_self, fun d => mem_of_mem_chomp⟩
    · obtain ⟨piece, hpiece, hl⟩ := ih h
      exact ⟨piece, List.mem_cons_of_mem _ hpiece, hl⟩

theorem feed_notMem_of_mem_lines {s l : Chars} (h : l ∈ lines s) : '\n' ∉ l := by
  obtain ⟨piece, hpiece, hl⟩ := exists_of_mem_linesOf h
  intro hfeed
  simpa using (of_mem_splitBy hpiece _ (hl _ hfeed)).2

end Chars

namespace Text

/-- Pieces between the characters with `p`. -/
def splitBy (p : Char → Bool) (s : String) : List String := (Chars.splitBy p s.toList).map .ofList

/-- Pieces between the occurrences of a character. -/
def splitAt (c : Char) (s : String) : List String := splitBy (· == c) s

/-- Pieces between the occurrences of a non-empty text. -/
def splitOn (sep s : String) : List String := (Chars.splitOn sep.toList s.toList).map .ofList

/-- The lines of the text. -/
def lines (s : String) : List String := (Chars.lines s.toList).map .ofList

/-- The pieces joined with `sep` between them. -/
def join (sep : String) (pieces : List String) : String :=
  .ofList (Chars.join sep.toList (pieces.map String.toList))

/-- What follows `p` at the start of the text. -/
def dropPrefix? (p s : String) : Option String :=
  (Chars.dropPrefix? p.toList s.toList).map .ofList

/-- What stands before `p` at the end of the text. -/
def dropSuffix? (p s : String) : Option String :=
  (Chars.dropSuffix? p.toList s.toList).map .ofList

/-- What stands before and after the first occurrence of `p`. -/
def breakOn? (p s : String) : Option (String × String) :=
  (Chars.breakOn? p.toList s.toList).map fun (a, b) => (.ofList a, .ofList b)

/-- Whether `p` occurs in the text. -/
def hasInfix (p s : String) : Bool := Chars.hasInfix p.toList s.toList

/-- The text with every occurrence of the non-empty text `old` replaced. -/
def replaceAll (old new s : String) : String :=
  .ofList (Chars.replaceAll old.toList new.toList s.toList)

end Text

end HardwareWatch
