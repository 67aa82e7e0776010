import HardwareWatch.Table.Reference
import Mathlib.Data.List.TakeWhile

/-!
# Texts that name tables

Which keys are found in a text, said without the search: a key is found where a reference to it is
written in full behind a part of the text in which no reference is left open.

* `Reference.Closed` says that no reference is left open in a text, `Reference.Names` that the text
  names a key.
* `Reference.mem_keysFrom_iff`: the keys found in a text are the keys that it names.
* `Reference.keysFrom_append`: a text may be cut behind a part with no open reference.
-/

namespace HardwareWatch

namespace Chars

variable {a : Char} {s before after : Chars}

theorem breakOn?_of_notMem (h : a ∉ s) : breakOn? [a] s = none := by
  induction s with
  | nil => rfl
  | cons c s ih =>
    have hne : a ≠ c := fun he => h (he ▸ List.mem_cons_self)
    have hrest : breakOn? [a] s = none := ih fun hm => h (List.mem_cons_of_mem _ hm)
    simp [breakOn?, dropPrefix?, hne, hrest]

theorem breakOn?_append (h : a ∉ before) (after : Chars) :
    breakOn? [a] (before ++ a :: after) = some (before, after) := by
  induction before with
  | nil => simp [breakOn?, dropPrefix?]
  | cons c s ih =>
    have hne : a ≠ c := fun he => h (he ▸ List.mem_cons_self)
    have hrest := ih fun hm => h (List.mem_cons_of_mem _ hm)
    simp [breakOn?, dropPrefix?, hne, hrest]

/-- A text is cut at the first occurrence of a character in one way. -/
theorem append_cons_inj {before' after' : Chars} (h : a ∉ before) (h' : a ∉ before')
    (he : before ++ a :: after = before' ++ a :: after') : before = before' ∧ after = after' := by
  have hcut := breakOn?_append h after
  rw [he, breakOn?_append h'] at hcut
  cases hcut
  exact ⟨rfl, rfl⟩

/-- An end of a text without the character of a cut lies behind the cut. -/
theorem exists_eq_append_of_notMem {x y z p : Chars} (h : x ++ a :: y = z ++ p) (ha : a ∉ p) :
    ∃ w, y = w ++ p := by
  rcases List.append_eq_append_iff.1 h with ⟨w, -, hy⟩ | ⟨w, -, hp⟩
  · cases w with
    | nil => exact absurd ((show a :: y = p from hy) ▸ List.mem_cons_self) ha
    | cons d w => exact ⟨w, (List.cons.inj hy).2⟩
  · exact absurd (hp ▸ List.mem_append_right _ List.mem_cons_self) ha

theorem dropPrefix?_cons_of_ne {p : Chars} {c : Char} (hp : p.head? = some a) (h : c ≠ a)
    (s : Chars) : dropPrefix? p (c :: s) = none := by
  cases p with
  | nil => cases hp
  | cons x p =>
    obtain rfl : x = a := Option.some.inj hp
    exact if_neg h.symm

/-- A prefix that does not fit does not fit in a longer text whose next character is none of it. -/
theorem dropPrefix?_append_cons {p : Chars} (hp : a ∉ p) (h : dropPrefix? p s = none) :
    dropPrefix? p (s ++ a :: after) = none := by
  induction p generalizing s with
  | nil => cases h
  | cons x p ih =>
    cases s with
    | nil =>
      have hne : x ≠ a := fun he => hp (he ▸ List.mem_cons_self)
      simp [dropPrefix?, hne]
    | cons c s =>
      by_cases hxc : x = c
      · simp only [dropPrefix?, hxc, if_true, List.cons_append] at h ⊢
        exact ih (fun hm => hp (List.mem_cons_of_mem _ hm)) h
      · simp [dropPrefix?, hxc]

/-- A prefix that does not fit does not in a longer text either, if it would have to go on with a
character that only it starts with. -/
theorem dropPrefix?_cons_append_cons {p : Chars} {d : Char} (hp : a ∉ p.tail)
    (h : dropPrefix? p (d :: s) = none) (after : Chars) :
    dropPrefix? p (d :: (s ++ a :: after)) = none := by
  cases p with
  | nil => cases h
  | cons x p =>
    by_cases hxd : x = d
    · simp only [dropPrefix?, hxd, if_true] at h ⊢
      exact dropPrefix?_append_cons hp h
    · simp [dropPrefix?, hxd]

end Chars

namespace Reference

/-! ## The search step by step -/

theorem keysFrom_eq_drop (skip : Nat) (s : Chars) : keysFrom skip s = keysFrom 0 (s.drop skip) := by
  induction s generalizing skip with
  | nil => cases skip <;> rfl
  | cons c s ih =>
    cases skip with
    | zero => rfl
    | succ skip => exact ih skip

theorem keysFrom_cons {c : Char} {s : Chars} (h : Chars.dropPrefix? opening (c :: s) = none) :
    keysFrom 0 (c :: s) = keysFrom 0 s := by
  rw [keysFrom, h]

theorem keysFrom_eq_nil {s rest : Chars} (h : Chars.dropPrefix? opening s = some rest)
    (hclosing : Chars.breakOn? [closing] rest = none) : keysFrom 0 s = [] := by
  cases s with
  | nil => cases h
  | cons c s => simp only [keysFrom, h, hclosing]

theorem keysFrom_eq_append {s rest key after : Chars} (h : Chars.dropPrefix? opening s = some rest)
    (hclosing : Chars.breakOn? [closing] rest = some (key, after)) :
    keysFrom 0 s = (if isKey key then [key] else []) ++
      keysFrom 0 (s.drop (opening.length + key.length + 1)) := by
  cases s with
  | nil => cases h
  | cons c s =>
    simp only [keysFrom, h, hclosing, keysFrom_eq_drop (opening.length + key.length),
      List.drop_succ_cons]

/-- A reference that is closed is found, and the search goes on behind it. -/
theorem keysFrom_opening {key after : Chars} (h : closing ∉ key) :
    keysFrom 0 (opening ++ (key ++ closing :: after)) =
      (if isKey key then [key] else []) ++ keysFrom 0 after := by
  have hdrop : (opening ++ (key ++ closing :: after)).drop (opening.length + key.length + 1) =
      after := by
    rw [Nat.add_assoc, List.drop_length_add_append, List.drop_length_add_append]
    rfl
  rw [keysFrom_eq_append (Chars.dropPrefix?_append _ _) (Chars.breakOn?_append h after), hdrop]

/-- A reference that is not closed ends the search. -/
theorem keysFrom_of_notMem {rest : Chars} (h : closing ∉ rest) :
    keysFrom 0 (opening ++ rest) = [] :=
  keysFrom_eq_nil (Chars.dropPrefix?_append _ _) (Chars.breakOn?_of_notMem h)

/-- A text is searched character by character up to a reference, which is closed or not. -/
theorem search_induction {motive : Chars → Prop} (nil : motive [])
    (step : ∀ c s, Chars.dropPrefix? opening (c :: s) = none → motive s → motive (c :: s))
    (found : ∀ key after, closing ∉ key → motive after →
      motive (opening ++ (key ++ closing :: after)))
    (unclosed : ∀ rest, closing ∉ rest → motive (opening ++ rest)) (s : Chars) : motive s := by
  induction hn : s.length using Nat.strongRecOn generalizing s with
  | ind n ih =>
    cases s with
    | nil => exact nil
    | cons c s =>
      cases hp : Chars.dropPrefix? opening (c :: s) with
      | none => exact step c s hp (ih s.length (by simp [← hn]) s rfl)
      | some rest =>
        rw [Chars.eq_append_of_dropPrefix? hp] at hn ⊢
        by_cases hc : closing ∈ rest
        · obtain ⟨key, after, rfl, hkey⟩ := List.eq_append_cons_of_mem hc
          exact found key after hkey (ih after.length (by simp at hn; omega) after rfl)
        · exact unclosed rest hc

/-! ## What a text names -/

/-- No reference is left open in the text. -/
def Closed (s : Chars) : Prop := ∀ before after, s = before ++ (opening ++ after) → closing ∈ after

/-- The text names a key: a reference to it is written in full behind a part in which no reference
is left open. -/
def Names (s key : Chars) : Prop :=
  closing ∉ key ∧
    ∃ before after, s = before ++ (opening ++ (key ++ closing :: after)) ∧ Closed before

theorem closed_nil : Closed [] := by
  intro before after h
  cases before <;> cases h

theorem Closed.of_append {a b : Chars} (h : Closed (a ++ b)) : Closed b :=
  fun before after hb => h (a ++ before) after (by rw [hb, List.append_assoc])

/-- An opening does not run over the start of a text whose first character is not within one. -/
theorem closed_cons {c : Char} {s : Chars} (h : Chars.dropPrefix? opening (c :: s) = none) :
    Closed (c :: s) ↔ Closed s := by
  refine ⟨fun hc => Closed.of_append (a := [c]) hc, fun hs before after he => ?_⟩
  cases before with
  | nil =>
    rw [he, List.nil_append, Chars.dropPrefix?_append] at h
    cases h
  | cons d before => exact hs before after (List.cons.inj he).2

theorem closing_notMem_opening : closing ∉ opening := by decide

theorem closed_opening {key s : Chars} : Closed (opening ++ (key ++ closing :: s)) ↔ Closed s := by
  constructor
  · intro h
    refine Closed.of_append (a := opening ++ (key ++ [closing])) ?_
    simpa using h
  · intro h before after he
    rw [← List.append_assoc, ← List.append_assoc before] at he
    rcases List.append_eq_append_iff.1 he with ⟨w, hbefore, hs⟩ | ⟨w, -, hafter⟩
    · cases w with
      | nil => exact (show closing :: s = after from hs) ▸ List.mem_cons_self
      | cons c w =>
        -- The opening lies behind the reference, where it is closed.
        obtain ⟨rfl, rfl⟩ := List.cons.inj hs
        obtain ⟨v, rfl⟩ :=
          Chars.exists_eq_append_of_notMem hbefore.symm closing_notMem_opening
        exact h v after (List.append_assoc v opening after)
    · exact hafter ▸ List.mem_append_right _ List.mem_cons_self

theorem Names.closing_mem {s key : Chars} (h : Names s key) : closing ∈ s := by
  obtain ⟨-, before, after, rfl, -⟩ := h
  simp

theorem names_cons {c : Char} {s key : Chars} (h : Chars.dropPrefix? opening (c :: s) = none) :
    Names (c :: s) key ↔ Names s key := by
  refine and_congr_right fun _ => ⟨?_, ?_⟩
  · rintro ⟨before, after, he, hbefore⟩
    cases before with
    | nil =>
      rw [he, List.nil_append, Chars.dropPrefix?_append] at h
      cases h
    | cons d before =>
      exact ⟨before, after, (List.cons.inj he).2, Closed.of_append (a := [d]) hbefore⟩
  · rintro ⟨before, after, rfl, hbefore⟩
    refine ⟨c :: before, after, rfl, (closed_cons ?_).2 hbefore⟩
    cases hp : Chars.dropPrefix? opening (c :: before) with
    | none => rfl
    | some rest =>
      rw [← List.cons_append, Chars.eq_append_of_dropPrefix? hp, List.append_assoc,
        Chars.dropPrefix?_append] at h
      cases h

/-- An opening in front of which no reference is left open, nor closed, is the first one. -/
theorem eq_nil_of_closed {before key rest : Chars} (h : Closed before) (hb : closing ∉ before)
    (he : opening ++ key = before ++ (opening ++ rest)) : before = [] := by
  cases before with
  | nil => rfl
  | cons c before =>
    exfalso
    cases hp : Chars.dropPrefix? opening (c :: before) with
    | some r =>
      have hopening := Chars.eq_append_of_dropPrefix? hp
      exact hb (hopening ▸ List.mem_append_right _ (h [] r hopening))
    | none =>
      have hnone := Chars.dropPrefix?_cons_append_cons (a := '$') (by decide) hp
        (opening.tail ++ rest)
      have hsome := Chars.dropPrefix?_append opening key
      rw [he] at hsome
      exact absurd (hnone.symm.trans hsome) nofun

theorem names_opening {key s : Chars} (hkey : closing ∉ key) {k : Chars} :
    Names (opening ++ (key ++ closing :: s)) k ↔ k = key ∨ Names s k := by
  have hhead : closing ∉ opening ++ key := by
    simp [closing_notMem_opening, hkey]
  constructor
  · rintro ⟨hk, before, after, he, hbefore⟩
    by_cases hb : closing ∈ before
    · obtain ⟨front, back, rfl, hfront⟩ := List.eq_append_cons_of_mem hb
      rw [← List.append_assoc, List.append_assoc front, List.cons_append] at he
      obtain ⟨rfl, hs⟩ := Chars.append_cons_inj hhead hfront he
      rw [List.append_assoc] at hbefore
      exact .inr ⟨hk, back, after, hs, closed_opening.1 hbefore⟩
    · have hfront : closing ∉ before ++ (opening ++ k) := by
        simp [hb, closing_notMem_opening, hk]
      rw [← List.append_assoc, ← List.append_assoc opening, ← List.append_assoc before] at he
      obtain ⟨hsame, -⟩ := Chars.append_cons_inj hhead hfront he
      rw [eq_nil_of_closed hbefore hb hsame] at hsame
      exact .inl (List.append_cancel_left hsame).symm
  · rintro (rfl | ⟨hk, before, after, rfl, hbefore⟩)
    · exact ⟨hkey, [], s, rfl, closed_nil⟩
    · refine ⟨hk, opening ++ (key ++ closing :: before), after, ?_, closed_opening.2 hbefore⟩
      simp

theorem dropPrefix?_opening_of_ne {c : Char} (h : c ≠ '$') (s : Chars) :
    Chars.dropPrefix? opening (c :: s) = none :=
  Chars.dropPrefix?_cons_of_ne (by decide) h s

theorem names_append_of_notMem {a b key : Chars} (ha : '$' ∉ a) :
    Names (a ++ b) key ↔ Names b key := by
  induction a with
  | nil => rfl
  | cons c a ih =>
    have hne : c ≠ '$' := fun he => ha (he ▸ List.mem_cons_self)
    rw [List.cons_append, names_cons (dropPrefix?_opening_of_ne hne _),
      ih fun hm => ha (List.mem_cons_of_mem _ hm)]

theorem closed_append_of_notMem {a b : Chars} (ha : '$' ∉ a) : Closed (a ++ b) ↔ Closed b := by
  induction a with
  | nil => rfl
  | cons c a ih =>
    have hne : c ≠ '$' := fun he => ha (he ▸ List.mem_cons_self)
    rw [List.cons_append, closed_cons (dropPrefix?_opening_of_ne hne _),
      ih fun hm => ha (List.mem_cons_of_mem _ hm)]

/-! ## What is found -/

/-- The keys found in a text are those that it names. -/
theorem mem_keysFrom_iff {s key : Chars} : key ∈ keysFrom 0 s ↔ Names s key ∧ isKey key := by
  induction s using search_induction with
  | nil =>
    refine ⟨nofun, fun h => ?_⟩
    cases h.1.closing_mem
  | step c s hp ih => rw [keysFrom_cons hp, names_cons hp, ih]
  | found k after hk ih =>
    rw [keysFrom_opening hk, names_opening hk, List.mem_append, ih, or_and_right]
    refine or_congr ?_ Iff.rfl
    by_cases hkey : isKey k
    · rw [if_pos hkey, List.mem_singleton]
      exact ⟨fun he => ⟨he, he ▸ hkey⟩, And.left⟩
    · rw [if_neg hkey]
      exact ⟨nofun, fun ⟨he, h⟩ => absurd (he ▸ h) hkey⟩
  | unclosed rest hrest =>
    rw [keysFrom_of_notMem hrest]
    refine ⟨nofun, fun h => ?_⟩
    rcases List.mem_append.1 h.1.closing_mem with hc | hc
    · exact absurd hc closing_notMem_opening
    · exact absurd hc hrest

/-- Behind a part in which no reference is left open the search starts anew. -/
theorem keysFrom_append {a : Chars} (ha : Closed a) {c : Char} (hc : c ∉ opening.tail)
    (b : Chars) : keysFrom 0 (a ++ c :: b) = keysFrom 0 a ++ keysFrom 0 (c :: b) := by
  induction a using search_induction with
  | nil => rfl
  | step d s hp ih =>
    rw [List.cons_append, keysFrom_cons (Chars.dropPrefix?_cons_append_cons hc hp b),
      keysFrom_cons hp, ih ((closed_cons hp).1 ha)]
  | found key after hkey ih =>
    rw [List.append_assoc, List.append_assoc, List.cons_append, keysFrom_opening hkey,
      keysFrom_opening hkey, ih (closed_opening.1 ha), List.append_assoc]
  | unclosed rest hrest => exact absurd (ha [] rest rfl) hrest

/-- Nothing is found in a part without dollars. -/
theorem keysFrom_append_of_notMem {a : Chars} (ha : '$' ∉ a) (b : Chars) :
    keysFrom 0 (a ++ b) = keysFrom 0 b := by
  induction a with
  | nil => rfl
  | cons c a ih =>
    have hne : c ≠ '$' := fun he => ha (he ▸ List.mem_cons_self)
    rw [List.cons_append, keysFrom_cons (dropPrefix?_opening_of_ne hne _),
      ih fun hm => ha (List.mem_cons_of_mem _ hm)]

/-! ## Texts that are one reference -/

theorem closed_of_notMem {s : Chars} (h : '$' ∉ s) : Closed s := by
  rintro before after rfl
  exact absurd (List.mem_append_right _ (List.mem_append_left _ (by decide))) h

theorem exists_eq_append_trim (s : Chars) :
    ∃ before after, s = before ++ (Chars.trim s ++ after) ∧ (∀ c ∈ before, Chars.isBlank c) ∧
      ∀ c ∈ after, Chars.isBlank c := by
  refine ⟨s.takeWhile Chars.isBlank, ((Chars.trimStart s).reverse.takeWhile Chars.isBlank).reverse,
    ?_, fun c hc => List.mem_takeWhile_imp hc, fun c hc => ?_⟩
  · rw [Chars.trim, Chars.trimEnd, ← List.reverse_append, List.takeWhile_append_dropWhile,
      List.reverse_reverse, Chars.trimStart, List.takeWhile_append_dropWhile]
  · exact List.mem_takeWhile_imp (List.mem_reverse.1 hc)

/-- A text that is one reference, blanks around it. -/
theorem exists_eq_of_keyOf? {s key : Chars} (h : keyOf? s = some key) :
    ∃ before after, s = before ++ (opening ++ (key ++ closing :: after)) ∧
      (∀ c ∈ before, Chars.isBlank c) ∧ (∀ c ∈ after, Chars.isBlank c) ∧ closing ∉ key ∧
        isKey key := by
  obtain ⟨hkey, hvalid⟩ := Option.filter_eq_some_iff.1 h
  obtain ⟨rest, hrest, hsuffix⟩ := Option.bind_eq_some_iff.1 hkey
  obtain ⟨before, after, hs, hbefore, hafter⟩ := exists_eq_append_trim s
  rw [Chars.eq_append_of_dropPrefix? hrest, Chars.dropSuffix?_eq_some_iff.1 hsuffix] at hs
  simp only [Bool.and_eq_true, Bool.not_eq_true', List.contains_eq_mem, decide_eq_false_iff_not]
    at hvalid
  exact ⟨before, after, by simpa using hs, hbefore, hafter, hvalid.2, hvalid.1⟩

theorem dollar_notMem_of_isBlank {s : Chars} (h : ∀ c ∈ s, Chars.isBlank c) : '$' ∉ s :=
  fun hd => absurd (h '$' hd) (by decide)

/-- A text that is one reference names its key. -/
theorem names_of_keyOf? {s key : Chars} (h : keyOf? s = some key) : Names s key ∧ isKey key := by
  obtain ⟨before, after, hs, hbefore, -, hclosing, hkey⟩ := exists_eq_of_keyOf? h
  exact ⟨⟨hclosing, before, after, hs, closed_of_notMem (dollar_notMem_of_isBlank hbefore)⟩, hkey⟩

/-- A text that is one reference leaves none open. -/
theorem closed_of_keyOf? {s key : Chars} (h : keyOf? s = some key) : Closed s := by
  obtain ⟨before, after, rfl, hbefore, hafter, -, -⟩ := exists_eq_of_keyOf? h
  rw [closed_append_of_notMem (dollar_notMem_of_isBlank hbefore), closed_opening]
  exact closed_of_notMem (dollar_notMem_of_isBlank hafter)

/-- The only dollar of a text that is one reference to a key without dollars is the first character
of the reference. -/
theorem exists_eq_opening_of_keyOf? {s key : Chars} (h : keyOf? s = some key) (hkey : '$' ∉ key) :
    ∃ a b, s = a ++ (opening ++ b) ∧ '$' ∉ a ∧ '$' ∉ b := by
  obtain ⟨before, after, hs, hbefore, hafter, -, -⟩ := exists_eq_of_keyOf? h
  refine ⟨before, _, hs, dollar_notMem_of_isBlank hbefore, ?_⟩
  simp only [List.mem_append, List.mem_cons, not_or]
  exact ⟨hkey, by decide, dollar_notMem_of_isBlank hafter⟩

end Reference

end HardwareWatch
