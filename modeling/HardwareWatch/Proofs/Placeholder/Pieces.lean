import HardwareWatch.Proofs.Placeholder.Expansion

/-!
# The pieces of a text with placeholders

What is found at the start of a text is a placeholder that is written there in full: a sign, and in
braces a kind of escaping, colons and a name. Placeholders do not overlap, so every text is made of
placeholders and of letters that belong to none, in exactly one way. A text is expanded piece by
piece, and what stands in for a placeholder is not expanded itself.

* `Placeholder.Occurrence` is a placeholder as it is written, `Placeholder.at?_eq_some_iff` says
  that these are what is found.
* `Placeholder.Divides` says that pieces make up a text and that no placeholder of it is missed.
* `Placeholder.Divides.expandFrom_eq` follows the pieces one by one.
* `Placeholder.expand_by_pieces` is the result for all texts.
* `Placeholder.escaped_or_kept_iff` says which placeholders with a kind of escaping are replaced by
  an escaped value or kept.
-/

namespace HardwareWatch.Placeholder

/-! ## Placeholders as they are written -/

/-- A placeholder as it is written. -/
@[ext] structure Occurrence extends Placeholder where
  sign : Char
  /-- Whether colons stand in front of the name. -/
  colons : Bool
  sign_mem : sign ∈ signs
  escaping_letters : ∀ kind ∈ escaping, kind ≠ "" ∧ ∀ c ∈ kind.toList, c.isAlphanum
  name_ne : name ≠ ""
  inName_of_mem : ∀ c ∈ name.toList, inName c

/-- How a kind of escaping is written. -/
def escapingSpelling : Option String → Chars
  | none => []
  | some kind => "esc(".toList ++ (kind.toList ++ [')'])

/-- How colons in front of a name are written. -/
def divider (colons : Bool) : Chars := if colons then "::".toList else []

variable {s t rest : Chars} {p : Placeholder} {escaping : Option String} {c : Char}

namespace Occurrence

/-- The characters of the placeholder behind its sign. -/
def tail (o : Occurrence) : Chars :=
  '\x7b' :: (escapingSpelling o.escaping ++ (divider o.colons ++ (o.name.toList ++ ['\x7d'])))

/-- The characters of the placeholder. -/
def spelling (o : Occurrence) : Chars := o.sign :: o.tail

theorem spelling_ne_nil (o : Occurrence) : o.spelling ≠ [] := List.cons_ne_nil _ _

/-- A placeholder has no sign but its first character. -/
theorem sign_notMem_tail (o : Occurrence) {sign : Char} (hsign : sign ∈ signs) :
    sign ∉ o.tail := by
  have hmark : ∀ sign ∈ signs, sign ≠ '\x7b' ∧ sign ≠ '\x7d' ∧ sign ∉ "esc(".toList ∧
      sign ≠ ')' ∧ sign ∉ "::".toList ∧ sign.isAlphanum = false ∧ inName sign = false :=
    Chars.forall_mem_of_all (by decide)
  obtain ⟨hopen, hclose, hesc, hparen, hcolons, hletter, hname⟩ := hmark sign hsign
  have hescaping : sign ∉ escapingSpelling o.escaping := by
    cases hkind : o.escaping with
    | none => exact List.not_mem_nil
    | some kind =>
      have hkind' : sign ∉ kind.toList := fun h => by
        rw [(o.escaping_letters kind hkind).2 sign h] at hletter
        cases hletter
      rw [escapingSpelling]
      simp only [List.mem_append, List.mem_singleton, not_or]
      exact ⟨hesc, hkind', hparen⟩
  have hdivider : sign ∉ divider o.colons := by
    rw [divider]
    split_ifs
    exacts [hcolons, List.not_mem_nil]
  have hname' : sign ∉ o.name.toList := fun h => by
    rw [o.inName_of_mem sign h] at hname
    cases hname
  rw [tail]
  simp only [List.mem_cons, List.mem_append, List.not_mem_nil, or_false, not_or]
  exact ⟨hopen, hescaping, hdivider, hname', hclose⟩

end Occurrence

/-! ## What is found at the start of a text -/

theorem ne_nil_of_ne_empty {s : String} (h : s ≠ "") : s.toList ≠ [] := by
  simpa using h

theorem escaping?_escapingSpelling (o : Occurrence) (rest : Chars) :
    escaping? (escapingSpelling o.escaping ++
        (divider o.colons ++ (o.name.toList ++ '\x7d' :: rest))) =
      some (o.escaping, divider o.colons ++ (o.name.toList ++ '\x7d' :: rest)) := by
  cases hkind : o.escaping with
  | some kind =>
    have hletters := o.escaping_letters kind hkind
    have hread := escaping?_spelling (ne_nil_of_ne_empty hletters.1) hletters.2
      (divider o.colons ++ (o.name.toList ++ '\x7d' :: rest))
    rw [String.ofList_toList] at hread
    simpa [escapingSpelling] using hread
  | none =>
    -- a name has no small letters, so it does not start like the word
    have hstart : Chars.dropPrefix? "esc(".toList
        (divider o.colons ++ (o.name.toList ++ '\x7d' :: rest)) = none := by
      obtain ⟨c, tail, hc⟩ := List.exists_cons_of_ne_nil (ne_nil_of_ne_empty o.name_ne)
      have hne : 'e' ≠ c := fun he =>
        absurd (o.inName_of_mem c (hc ▸ List.mem_cons_self)) (he ▸ by decide)
      rw [divider, hc]
      split_ifs <;> simp [Chars.dropPrefix?, hne]
    rw [escapingSpelling, List.nil_append, escaping?, hstart]

theorem at?_spelling_append (o : Occurrence) (rest : Chars) :
    at? (o.spelling ++ rest) = some (o.toPlaceholder, rest) := by
  have hdivider : divider o.colons ∈ [[], "::".toList] := by
    rw [divider]
    split_ifs <;> decide
  have hnamed :=
    named?_spelling hdivider (ne_nil_of_ne_empty o.name_ne) o.inName_of_mem o.escaping rest
  rw [String.ofList_toList] at hnamed
  have hfound : at? (o.sign :: '\x7b' :: (escapingSpelling o.escaping ++
      (divider o.colons ++ (o.name.toList ++ '\x7d' :: rest)))) = some (o.toPlaceholder, rest) := by
    rw [at?_opening o.sign_mem, escaping?_escapingSpelling]
    exact hnamed
  simpa [Occurrence.spelling, Occurrence.tail] using hfound

/-- A row of letters that is closed by a character. -/
theorem eq_of_closed {q : Char → Bool}
    (h : Chars.dropPrefix? [c] (s.drop (s.takeWhile q).length) = some rest) :
    s = s.takeWhile q ++ c :: rest := by
  have hs := List.prefix_iff_eq_append.1 (List.takeWhile_prefix q (l := s))
  rw [Chars.eq_append_of_dropPrefix? h] at hs
  exact hs.symm

theorem eq_of_escaping? (h : escaping? s = some (escaping, rest)) :
    s = escapingSpelling escaping ++ rest ∧
      ∀ kind ∈ escaping, kind ≠ "" ∧ ∀ c ∈ kind.toList, c.isAlphanum := by
  cases hopen : Chars.dropPrefix? "esc(".toList s with
  | none =>
    simp only [escaping?, hopen] at h
    cases h
    exact ⟨rfl, fun _ hmem => absurd hmem (Option.not_mem_none _)⟩
  | some s' =>
    have hs := Chars.eq_append_of_dropPrefix? hopen
    simp only [escaping?, hopen, Option.ite_none_left_eq_some] at h
    obtain ⟨hkind, h⟩ := h
    obtain ⟨r, hr, he⟩ := Option.map_eq_some_iff.1 h
    cases he
    rw [eq_of_closed hr] at hs
    refine ⟨by simpa [escapingSpelling] using hs, fun kind hmem => ?_⟩
    cases hmem
    rw [String.toList_ofList]
    exact ⟨by simpa using hkind, fun _ => List.mem_takeWhile_imp⟩

theorem eq_of_named? (h : named? escaping s = some (p, rest)) :
    ∃ colons name, p = ⟨escaping, name⟩ ∧ name ≠ "" ∧ (∀ c ∈ name.toList, inName c) ∧
      s = divider colons ++ (name.toList ++ '\x7d' :: rest) := by
  obtain ⟨colons, hdivider⟩ :
      ∃ colons, s = divider colons ++ (Chars.dropPrefix? "::".toList s).getD s := by
    cases hcolons : Chars.dropPrefix? "::".toList s with
    | none => exact ⟨false, rfl⟩
    | some s' => exact ⟨true, Chars.eq_append_of_dropPrefix? hcolons⟩
  obtain ⟨r, hr, h⟩ := Option.bind_eq_some_iff.1 h
  rw [eq_of_closed hr] at hdivider
  split at h
  · cases h
  · rename_i hname
    cases h
    refine ⟨colons, _, rfl, by simpa using hname, fun c hc => ?_, by simpa using hdivider⟩
    exact List.mem_takeWhile_imp (String.toList_ofList ▸ hc)

/-- What is found at the start of a text is a placeholder that is written there. -/
theorem at?_eq_some_iff :
    at? s = some (p, rest) ↔ ∃ o : Occurrence, o.toPlaceholder = p ∧ s = o.spelling ++ rest := by
  refine ⟨fun h => ?_, ?_⟩
  · by_cases hopen : ∃ sign ∈ signs, ∃ s', s = sign :: '\x7b' :: s'
    · obtain ⟨sign, hsign, s', rfl⟩ := hopen
      rw [at?_opening hsign] at h
      obtain ⟨⟨escaping, r⟩, hr, hnamed⟩ := Option.bind_eq_some_iff.1 h
      obtain ⟨rfl, hletters⟩ := eq_of_escaping? hr
      obtain ⟨colons, name, rfl, hname, hnames, rfl⟩ := eq_of_named? hnamed
      refine ⟨⟨⟨escaping, name⟩, sign, colons, hsign, hletters, hname, hnames⟩, rfl, ?_⟩
      simp [Occurrence.spelling, Occurrence.tail]
    · push Not at hopen
      rw [at?_eq_none hopen] at h
      cases h
  · rintro ⟨o, rfl, rfl⟩
    exact at?_spelling_append o rest

/-! ## What stands in for a placeholder, and where it ends -/

namespace Occurrence

variable {o o' : Occurrence}

/-- What stands in for the placeholder: itself if no value has its name. -/
def value (credentials : Credentials) (o : Occurrence) : Chars :=
  match credentials.value? o.name, o.escaping with
  | none, _ => o.spelling
  | some value, none => value.toList
  | some value, some kind =>
    match EscapeKind.ofName? kind with
    | some kind => (kind.escape value).toList
    | none => value.toList

theorem replaced_eq_value (credentials : Credentials) (o : Occurrence) :
    replaced credentials o.toPlaceholder o.spelling = o.value credentials := by
  rw [replaced, replacement?, value]
  cases credentials.value? o.name with
  | none => rfl
  | some value =>
    cases o.escaping with
    | none => rfl
    | some kind =>
      simp only [Option.map_some, Option.getD_some, Option.bind_some]
      cases EscapeKind.ofName? kind <;> rfl

/-- A text starts with one placeholder at most. -/
theorem eq_of_spelling_append (h : o.spelling ++ s = o'.spelling ++ t) : o = o' ∧ s = t := by
  have hfound := at?_spelling_append o s
  rw [h, at?_spelling_append] at hfound
  obtain ⟨hplaceholder, rfl⟩ := Prod.mk.inj (Option.some.inj hfound)
  obtain ⟨hsign, htail⟩ := List.cons.inj (List.append_cancel_right h)
  have hcolons : o.colons = o'.colons := by
    have hdivider : ∀ colons colons', divider colons = divider colons' → colons = colons' := by
      decide
    rw [tail, tail, hplaceholder, List.cons_inj_right, List.append_cancel_left_eq,
      ← List.append_assoc, ← List.append_assoc, List.append_cancel_right_eq] at htail
    exact hdivider _ _ (List.append_cancel_right htail)
  refine ⟨Occurrence.ext ?_ ?_ hsign hcolons, rfl⟩ <;> rw [hplaceholder]

/-- A placeholder that does not start where another one does starts behind it. -/
theorem behind {before after : Chars} (h : o.spelling ++ s = before ++ (o'.spelling ++ after))
    (hbefore : before ≠ []) :
    ∃ middle, before = o.spelling ++ middle ∧ s = middle ++ (o'.spelling ++ after) := by
  obtain ⟨c, start, rfl⟩ := List.exists_cons_of_ne_nil hbefore
  rcases List.append_eq_append_iff.1 h with ⟨middle, hmiddle⟩ | ⟨inside, hinside, hs⟩
  · exact ⟨middle, hmiddle⟩
  · cases inside with
    | nil => exact ⟨[], by rw [hinside]; simp, by rw [hs]; rfl⟩
    | cons d inside =>
      obtain ⟨rfl, -⟩ := List.cons.inj hs
      refine absurd ?_ (o.sign_notMem_tail o'.sign_mem)
      rw [(List.cons.inj hinside).2]
      exact List.mem_append_right _ List.mem_cons_self

end Occurrence

/-! ## Pieces -/

/-- A piece of a text with placeholders. -/
inductive Piece
  /-- A character that belongs to no placeholder. -/
  | letter (c : Char)
  | occurrence (o : Occurrence)

namespace Piece

/-- The characters of the piece. -/
def spelling : Piece → Chars
  | letter c => [c]
  | occurrence o => o.spelling

/-- What stands in for the piece. -/
def value (credentials : Credentials) : Piece → Chars
  | letter c => [c]
  | occurrence o => o.value credentials

theorem spelling_ne_nil (q : Piece) : q.spelling ≠ [] := by
  cases q with
  | letter c => exact List.cons_ne_nil c _
  | occurrence o => exact o.spelling_ne_nil

theorem eq_nil_of_flatMap_spelling {ps : List Piece} (h : ps.flatMap spelling = []) : ps = [] := by
  cases ps with
  | nil => rfl
  | cons q ps =>
    rw [List.flatMap_cons, List.append_eq_nil_iff] at h
    exact absurd h.1 q.spelling_ne_nil

end Piece

open Piece

/-- The pieces make up the text, and every placeholder of the text is one of them at its place. -/
structure Divides (pieces : List Piece) (s : Chars) : Prop where
  spelled : pieces.flatMap spelling = s
  complete : ∀ {before : Chars} {o : Occurrence} {after : Chars},
    s = before ++ (o.spelling ++ after) →
      ∃ ps qs, pieces = ps ++ occurrence o :: qs ∧ ps.flatMap spelling = before

namespace Divides

variable {o : Occurrence} {q : Piece} {ps qs : List Piece}

theorem nil : Divides [] [] where
  spelled := rfl
  complete {before o after} h := by
    have hne := o.spelling_ne_nil
    simp only [List.nil_eq, List.append_eq_nil_iff] at h
    exact absurd h.2.1 hne

/-- A character at which no placeholder starts is a piece. -/
theorem cons_letter (hc : at? (c :: s) = none) (h : Divides ps s) :
    Divides (letter c :: ps) (c :: s) where
  spelled := by rw [List.flatMap_cons, h.spelled]; rfl
  complete {before o after} he := by
    cases before with
    | nil => rw [he, List.nil_append, at?_spelling_append] at hc; cases hc
    | cons d before =>
      obtain ⟨rfl, htail⟩ := List.cons.inj he
      obtain ⟨ps', qs, rfl, hbefore⟩ := h.complete htail
      exact ⟨letter c :: ps', qs, rfl, by rw [List.flatMap_cons, hbefore]; rfl⟩

/-- A placeholder is a piece, since no other one starts inside of it. -/
theorem cons_occurrence (h : Divides ps s) :
    Divides (occurrence o :: ps) (o.spelling ++ s) where
  spelled := by rw [List.flatMap_cons, h.spelled]; rfl
  complete {before o' after} he := by
    -- one that starts with the text is the first piece, any other one stands behind it
    by_cases hbefore : before = []
    · rw [hbefore, List.nil_append] at he
      obtain ⟨rfl, -⟩ := Occurrence.eq_of_spelling_append he
      exact ⟨[], ps, rfl, hbefore.symm⟩
    · obtain ⟨middle, rfl, hs⟩ := Occurrence.behind he hbefore
      obtain ⟨ps', qs, rfl, hmiddle⟩ := h.complete hs
      exact ⟨occurrence o :: ps', qs, rfl, by rw [List.flatMap_cons, hmiddle]; rfl⟩

/-- Behind its first piece a text is divided into the others. -/
theorem of_cons (h : Divides (q :: ps) s) :
    s = q.spelling ++ ps.flatMap spelling ∧ Divides ps (ps.flatMap spelling) := by
  have hs : s = q.spelling ++ ps.flatMap spelling := h.spelled.symm
  refine ⟨hs, rfl, fun {before o after} he => ?_⟩
  rw [he, ← List.append_assoc] at hs
  obtain ⟨ps', qs, hps, hbefore⟩ := h.complete hs
  cases ps' with
  | nil => exact absurd (List.append_eq_nil_iff.1 hbefore.symm).1 q.spelling_ne_nil
  | cons q' ps' =>
    obtain ⟨rfl, rfl⟩ := List.cons.inj hps
    exact ⟨ps', qs, rfl, List.append_cancel_left hbefore⟩

/-- The first piece of a text that starts with a placeholder is that placeholder. -/
theorem head_occurrence (h : Divides (q :: ps) (o.spelling ++ s)) : q = occurrence o := by
  obtain ⟨ps', qs, hps, hnil⟩ := h.complete (List.nil_append (o.spelling ++ s)).symm
  rw [eq_nil_of_flatMap_spelling hnil] at hps
  exact (List.cons.inj hps).1

/-- A text is divided in one way at most. -/
theorem unique (h : Divides ps s) (h' : Divides qs s) : qs = ps := by
  induction ps generalizing s qs with
  | nil => exact eq_nil_of_flatMap_spelling (h'.spelled.trans h.spelled.symm)
  | cons q ps ih =>
    cases qs with
    | nil => exact (eq_nil_of_flatMap_spelling (h.spelled.trans h'.spelled.symm)).symm
    | cons q' qs =>
      obtain ⟨hs, hrest⟩ := h.of_cons
      obtain ⟨hs', hrest'⟩ := h'.of_cons
      have hhead : q' = q := by
        cases q with
        | occurrence o => exact head_occurrence (hs ▸ h')
        | letter c =>
          cases q' with
          | occurrence o => exact (head_occurrence (hs' ▸ h)).symm
          | letter d => rw [(List.cons.inj (hs.symm.trans hs')).1]
      subst hhead
      rw [hs] at hs'
      rw [List.append_cancel_left hs'] at hrest
      rw [ih hrest hrest']

theorem expandFrom_eq (credentials : Credentials) (h : Divides ps s) :
    expandFrom credentials 0 s = ps.flatMap (value credentials) := by
  induction ps generalizing s with
  | nil => rw [← h.spelled]; rfl
  | cons q ps ih =>
    obtain ⟨hs, hrest⟩ := h.of_cons
    rw [List.flatMap_cons, ← ih hrest]
    cases q with
    | occurrence o =>
      rw [hs, spelling, expandFrom_of_at? credentials o.spelling_ne_nil (at?_spelling_append o _),
        o.replaced_eq_value]
      rfl
    | letter c =>
      have hnone : at? s = none := by
        by_contra hfound
        obtain ⟨⟨p, rest⟩, hfound⟩ := Option.ne_none_iff_exists'.1 hfound
        obtain ⟨o, -, rfl⟩ := at?_eq_some_iff.1 hfound
        cases head_occurrence h
      rw [hs] at hnone ⊢
      exact expandFrom_cons credentials hnone

end Divides

/-- Every text is divided into pieces. -/
theorem exists_divides (s : Chars) : ∃ ps, Divides ps s := by
  induction hlen : s.length using Nat.strongRecOn generalizing s with
  | ind n ih =>
    cases s with
    | nil => exact ⟨[], .nil⟩
    | cons c s =>
      cases hfound : at? (c :: s) with
      | none =>
        obtain ⟨ps, hps⟩ := ih s.length (by simp [← hlen]) s rfl
        exact ⟨letter c :: ps, hps.cons_letter hfound⟩
      | some found =>
        obtain ⟨p, rest⟩ := found
        obtain ⟨o, -, hs⟩ := at?_eq_some_iff.1 hfound
        have hshorter : rest.length < n := by
          rw [← hlen, hs, List.length_append]
          have := List.length_pos_iff.2 o.spelling_ne_nil
          omega
        obtain ⟨ps, hps⟩ := ih rest.length hshorter rest rfl
        exact ⟨occurrence o :: ps, hs ▸ hps.cons_occurrence⟩

/-! ## References -/

/-- The references to a table and to an attribute with a name. -/
def references (name : String) : List String :=
  ["$\x7bsource::" ++ name ++ "\x7d", "$\x7battribute::" ++ name ++ "\x7d"]

/-- A text without opening braces stays up to a closing one. -/
theorem expandFrom_append_of_notMem (credentials : Credentials) (hbrace : '\x7b' ∉ s) (t : Chars) :
    expandFrom credentials 0 (s ++ '\x7d' :: t) = s ++ '\x7d' :: expandFrom credentials 0 t := by
  induction s with
  | nil => exact expandFrom_cons credentials (at?_eq_none (by simp [signs]))
  | cons c s ih =>
    rw [List.mem_cons, not_or] at hbrace
    have hnone : at? (c :: (s ++ '\x7d' :: t)) = none := by
      refine at?_eq_none fun sign _ rest he => ?_
      have hnext := (List.cons.inj he).2
      cases s with
      | nil => exact absurd (List.cons.inj hnext).1 (by decide)
      | cons d s => exact hbrace.2 ((List.cons.inj hnext).1 ▸ List.mem_cons_self)
    rw [List.cons_append, expandFrom_cons credentials hnone, ih hbrace.2, List.cons_append]

theorem exists_toList_of_mem_references {name reference : String} (h : reference ∈ references name) :
    ∃ word ∈ ["source::".toList, "attribute::".toList],
      reference.toList = '$' :: '\x7b' :: (word ++ (name.toList ++ ['\x7d'])) := by
  rw [references, List.mem_pair] at h
  rcases h with rfl | rfl
  · exact ⟨"source::".toList, by decide, by simp⟩
  · exact ⟨"attribute::".toList, by decide, by simp⟩

theorem expandFrom_reference (credentials : Credentials) {name reference : String}
    (hreference : reference ∈ references name) (hname : '\x7b' ∉ name.toList) (t : Chars) :
    expandFrom credentials 0 (reference.toList ++ t) =
      reference.toList ++ expandFrom credentials 0 t := by
  obtain ⟨word, hword, hspelled⟩ := exists_toList_of_mem_references hreference
  have hnone (rest : Chars) : at? ('$' :: '\x7b' :: (word ++ rest)) = none := by
    rw [List.mem_pair] at hword
    rcases hword with rfl | rfl <;> rfl
  have hbrace : '\x7b' ∉ word ++ name.toList := by
    have hwords : ∀ word ∈ ["source::".toList, "attribute::".toList], '\x7b' ∉ word := by decide
    exact List.not_mem_append (hwords word hword) hname
  have hstays := expandFrom_append_of_notMem credentials hbrace t
  rw [hspelled]
  simp only [List.cons_append, List.append_assoc, List.nil_append] at hstays ⊢
  rw [expandFrom_cons credentials (hnone _),
    expandFrom_cons credentials (at?_eq_none (by simp [signs])), hstays]

/-! ## Whole texts -/

section Expand

variable (host : HostSettings) (protocol : Option String)

theorem expand_occurrence (o : Occurrence) (before after : String) :
    expand (before ++ .ofList o.spelling ++ after) host protocol =
      expand before host protocol ++ .ofList (o.value (.of host protocol)) ++
        expand after host protocol := by
  have hparts := expandFrom_insert (.of host protocol) o.sign_mem
    (at?_spelling_append o after.toList) before.toList
  rw [← Occurrence.spelling, o.replaced_eq_value] at hparts
  rw [← String.toList_inj]
  simpa [expand] using hparts

theorem expand_reference {name reference : String} (hreference : reference ∈ references name)
    (hname : '\x7b' ∉ name.toList) (before after : String) :
    expand (before ++ reference ++ after) host protocol =
      expand before host protocol ++ reference ++ expand after host protocol := by
  have hstays := expandFrom_reference (.of host protocol) hreference hname after.toList
  obtain ⟨word, -, hspelled⟩ := exists_toList_of_mem_references hreference
  have hsign : '$' ∈ signs := by decide
  have hparts := expandFrom_append (.of host protocol) hsign before.toList
    ('\x7b' :: (word ++ (name.toList ++ ['\x7d'])) ++ after.toList)
  rw [← List.cons_append, ← hspelled, hstays] at hparts
  rw [← String.toList_inj]
  simpa [expand] using hparts

/-- **Texts are expanded piece by piece.** There is exactly one way to divide a text into letters
and placeholders so that no placeholder is missed, and the text is expanded to what stands in for
the pieces. So a placeholder is replaced wherever it stands, by a text that is not expanded again,
and references to tables and attributes stay. -/
theorem expand_by_pieces (text : String) :
    (∃ pieces, (∀ ps, Divides ps text.toList ↔ ps = pieces) ∧
      expand text host protocol = .ofList (pieces.flatMap (value (.of host protocol)))) ∧
    (∀ (before after : String) (o : Occurrence), text = before ++ .ofList o.spelling ++ after →
      expand text host protocol = expand before host protocol ++
        .ofList (o.value (.of host protocol)) ++ expand after host protocol) ∧
    ∀ before after name : String, '\x7b' ∉ name.toList → ∀ reference ∈ references name,
      text = before ++ reference ++ after →
      expand text host protocol =
        expand before host protocol ++ reference ++ expand after host protocol := by
  refine ⟨?_, ?_, ?_⟩
  · obtain ⟨pieces, hpieces⟩ := exists_divides text.toList
    refine ⟨pieces, fun ps => ⟨hpieces.unique, fun he => he ▸ hpieces⟩, ?_⟩
    rw [expand, hpieces.expandFrom_eq]
  · rintro before after o rfl
    exact expand_occurrence host protocol o before after
  · rintro before after name hname reference hreference rfl
    exact expand_reference host protocol hreference hname before after

end Expand

end HardwareWatch.Placeholder

namespace HardwareWatch.NestedPlaceholders

open Placeholder

/-- A host whose user is called like a placeholder. -/
def host : HostSettings :=
  (HostSettings.named "srv" .linux).withProtocol "http"
    ⟨some "%\x7bPASSWORD\x7d", some "p.\x22w", none, none, none⟩

/-- The placeholder for the name of the user. -/
def user : Occurrence :=
  ⟨⟨none, "USERNAME"⟩, '%', false, by decide, nofun, by decide,
    Chars.forall_mem_of_all (by decide)⟩

/-- The name of the user is not expanded, and a reference with a sign in it stays. -/
theorem expand_user_and_reference :
    '\x7b' ∉ "a%b".toList ∧ "$\x7bsource::a%b\x7d" ∈ references "a%b" ∧
      expand ("as " ++ .ofList user.spelling ++ " on $\x7bsource::a%b\x7d") host (some "http") =
        "as %\x7bPASSWORD\x7d on $\x7bsource::a%b\x7d" := by
  refine ⟨by decide, by decide, ?_⟩
  have hstays := (expand_by_pieces host (some "http") " on $\x7bsource::a%b\x7d").2.2 " on " ""
    "a%b" (by decide) "$\x7bsource::a%b\x7d" (by decide) rfl
  rw [(expand_by_pieces host (some "http") _).2.1 "as " _ user rfl, hstays]
  decide

end HardwareWatch.NestedPlaceholders

/-! ## Placeholders for escaped values -/

namespace HardwareWatch.Placeholder

/-- **Escaped, or kept as it is.** What a placeholder with a kind of escaping is replaced by, in
whatever text, is itself or its value as it is escaped for that kind, if and only if it has no value
or the kind is known, unless the value is just the spelling of the placeholder. The value of a
placeholder with an unknown kind is put in as it is. -/
theorem escaped_or_kept_iff (o : Occurrence) {kind : String} (hkind : o.escaping = some kind)
    (host : HostSettings) (protocol : Option String) :
    ∃ replacement : String,
      (∀ before after : String,
        expand (before ++ .ofList o.spelling ++ after) host protocol =
          expand before host protocol ++ replacement ++ expand after host protocol) ∧
      ((replacement = .ofList o.spelling ∨
          ∃ value known, (Credentials.of host protocol).value? o.name = some value ∧
            EscapeKind.ofName? kind = some known ∧ replacement = known.escape value) ↔
        ∀ value, (Credentials.of host protocol).value? o.name = some value →
          EscapeKind.ofName? kind = none → value = .ofList o.spelling) ∧
      ∀ value, (Credentials.of host protocol).value? o.name = some value →
        EscapeKind.ofName? kind = none → replacement = value := by
  refine ⟨_, fun before after => expand_occurrence host protocol o before after, ?_⟩
  rw [Occurrence.value, hkind]
  cases hvalue : (Credentials.of host protocol).value? o.name with
  | none => simp
  | some value =>
    cases hknown : EscapeKind.ofName? kind with
    | none => simp [hknown]
    | some known => simp [hknown]

end HardwareWatch.Placeholder

namespace HardwareWatch.NestedPlaceholders

open Placeholder

/-- A placeholder for the password with a kind of escaping that is not known. -/
def password : Occurrence :=
  ⟨⟨some "shell", "PASSWORD"⟩, '%', true, by decide, by simp [Char.isAlphanum], by decide,
    Chars.forall_mem_of_all (by decide)⟩

/-- The password is put in as it is. -/
theorem expand_password_for_shell :
    password.escaping = some "shell" ∧ EscapeKind.ofName? "shell" = none ∧
      expand ("login -p " ++ .ofList password.spelling ++ "") host (some "http") =
        "login -p p.\x22w" := by
  have hkind : password.escaping = some "shell" := rfl
  obtain ⟨replacement, hexpand, -, hraw⟩ := escaped_or_kept_iff password hkind host (some "http")
  refine ⟨hkind, by decide, ?_⟩
  rw [hexpand, hraw "p.\x22w" (by decide) (by decide)]
  decide

/-- A placeholder for an escaped password is neither kept nor replaced by a password that is escaped
for any kind. -/
theorem password_not_escaped :
    expand "%\x7besc(shell)::PASSWORD\x7d" host (some "http") = "p.\x22w" ∧
      (Credentials.of host (some "http")).value? "PASSWORD" = some "p.\x22w" ∧
      "p.\x22w" ≠ "%\x7besc(shell)::PASSWORD\x7d" ∧
      ∀ kind : EscapeKind, "p.\x22w" ≠ kind.escape "p.\x22w" := by
  refine ⟨by decide, by decide, by decide, fun kind => ?_⟩
  cases kind <;> decide

end HardwareWatch.NestedPlaceholders
