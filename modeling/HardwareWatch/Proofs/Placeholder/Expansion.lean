import HardwareWatch.Placeholder.Expand
import Mathlib.Data.List.Infix
import Mathlib.Data.List.TakeWhile

/-!
# Expanding a text part by part

A placeholder has no sign but its first character, so none reaches over the sign of the next one. A
text may be cut in front of every sign, and its parts are expanded on their own.

* `Placeholder.at?_append` says that a placeholder is found in a part as it is in the whole text.
* `Placeholder.expandFrom_append` cuts a text in front of a sign.
* `Placeholder.expand_placeholder` is what becomes of a text with a placeholder for an escaped
  value.
-/

namespace HardwareWatch

namespace Chars

variable {x : Char} {p : Chars}

theorem dropPrefix?_append_of_notMem (h : x ∉ p) (s t : Chars) :
    dropPrefix? p (s ++ x :: t) = (dropPrefix? p s).map (· ++ x :: t) := by
  induction p generalizing s with
  | nil => rfl
  | cons a p ih =>
    rw [List.mem_cons, not_or] at h
    cases s with
    | nil => simp [dropPrefix?, Ne.symm h.1]
    | cons c s =>
      by_cases hac : a = c
      · simpa [dropPrefix?, hac] using ih h.2 s
      · simp [dropPrefix?, hac]

theorem takeWhile_append_of_not {q : Char → Bool} (h : q x = false) (s t : Chars) :
    (s ++ x :: t).takeWhile q = s.takeWhile q := by
  induction s with
  | nil => simp [h]
  | cons c s ih => simp [List.takeWhile_cons, ih]

theorem drop_takeWhile_append (q : Char → Bool) (s t : Chars) :
    (s ++ t).drop (s.takeWhile q).length = s.drop (s.takeWhile q).length ++ t :=
  List.drop_append_of_le_length (List.takeWhile_prefix q).length_le

end Chars

namespace Placeholder

/-- The characters that start a placeholder. -/
def signs : Chars := ['$', '%']

/-- The name of a placeholder behind its kind of escaping, and what follows. -/
def named? (escaping : Option String) (s : Chars) : Option (Placeholder × Chars) :=
  let s := (Chars.dropPrefix? "::".toList s).getD s
  let name := s.takeWhile inName
  (Chars.dropPrefix? ['\x7d'] (s.drop name.length)).bind fun rest =>
    if name = [] then none else some (⟨escaping, .ofList name⟩, rest)

variable {sign c : Char} {s t rest : Chars} {p : Placeholder}

theorem at?_opening (hsign : sign ∈ signs) (s : Chars) :
    at? (sign :: '\x7b' :: s) = (escaping? s).bind fun (escaping, rest) => named? escaping rest := by
  have hsign' : ¬(sign ≠ '$' ∧ sign ≠ '%') := by
    simp only [signs, List.mem_pair] at hsign
    tauto
  rw [at?, if_neg hsign']
  rfl

theorem at?_eq_none (h : ∀ sign ∈ signs, ∀ s', s ≠ sign :: '\x7b' :: s') : at? s = none := by
  unfold at?
  split
  · rename_i sign s'
    refine if_pos ⟨?_, ?_⟩ <;> rintro rfl <;> exact h _ (by decide) _ rfl
  · rfl

/-! ## Where a placeholder ends -/

theorem escaping?_append (hsign : sign ∈ signs) (s t : Chars) :
    escaping? (s ++ sign :: t) = (escaping? s).map fun (kind, rest) => (kind, rest ++ sign :: t) := by
  have hword : ∀ sign ∈ signs, sign ∉ "esc(".toList ∧ sign ∉ [')'] ∧ sign.isAlphanum = false :=
    Chars.forall_mem_of_all (by decide)
  obtain ⟨hesc, hclose, halpha⟩ := hword sign hsign
  rw [escaping?, escaping?, Chars.dropPrefix?_append_of_notMem hesc]
  cases Chars.dropPrefix? "esc(".toList s with
  | none => rfl
  | some s =>
    simp only [Option.map_some, Chars.takeWhile_append_of_not halpha, Chars.drop_takeWhile_append,
      Chars.dropPrefix?_append_of_notMem hclose]
    split
    · rfl
    · rw [Option.map_map, Option.map_map]
      rfl

theorem named?_append (hsign : sign ∈ signs) (escaping : Option String) (s t : Chars) :
    named? escaping (s ++ sign :: t) =
      (named? escaping s).map fun (p, rest) => (p, rest ++ sign :: t) := by
  have hword : ∀ sign ∈ signs, sign ∉ "::".toList ∧ sign ∉ ['\x7d'] ∧ inName sign = false :=
    Chars.forall_mem_of_all (by decide)
  obtain ⟨hcolons, hclose, hname⟩ := hword sign hsign
  have hrest : ((Chars.dropPrefix? "::".toList s).map (· ++ sign :: t)).getD (s ++ sign :: t) =
      (Chars.dropPrefix? "::".toList s).getD s ++ sign :: t := by
    cases Chars.dropPrefix? "::".toList s <;> rfl
  simp only [named?, Chars.dropPrefix?_append_of_notMem hcolons, hrest,
    Chars.takeWhile_append_of_not hname, Chars.drop_takeWhile_append,
    Chars.dropPrefix?_append_of_notMem hclose, Option.map_bind, Option.bind_map]
  refine congrArg _ (funext fun rest => ?_)
  simp only [Function.comp_apply]
  split <;> rfl

/-- A sign behind the first character of a text does not change which placeholder is found at its
start. -/
theorem at?_append (hsign : sign ∈ signs) (hs : s ≠ []) (t : Chars) :
    at? (s ++ sign :: t) = (at? s).map fun (p, rest) => (p, rest ++ sign :: t) := by
  have hopen : ∀ sign ∈ signs, sign ≠ '\x7b' := Chars.forall_mem_of_all (by decide)
  by_cases h : ∃ first ∈ signs, ∃ s', s = first :: '\x7b' :: s'
  · obtain ⟨first, hfirst, s', rfl⟩ := h
    rw [List.cons_append, List.cons_append, at?_opening hfirst, at?_opening hfirst,
      escaping?_append hsign, Option.bind_map, Option.map_bind]
    exact congrArg _ (funext fun (escaping, rest) => named?_append hsign escaping rest t)
  · push Not at h
    rw [at?_eq_none h, at?_eq_none fun first hfirst s' he => ?_]
    · rfl
    · match s, hs with
      | [x], _ => exact hopen sign hsign (List.cons.inj (List.cons.inj he).2).1
      | x :: y :: s, _ =>
        obtain ⟨rfl, htail⟩ := List.cons.inj he
        obtain ⟨rfl, -⟩ := List.cons.inj htail
        exact h x hfirst s rfl

/-! ## What is left of a text -/

theorem suffix_of_dropPrefix? {p : Chars} (h : Chars.dropPrefix? p s = some rest) : rest <:+ s :=
  ⟨p, (Chars.eq_append_of_dropPrefix? h).symm⟩

theorem suffix_of_escaping? {escaping : Option String} (h : escaping? s = some (escaping, rest)) :
    rest <:+ s := by
  rw [escaping?] at h
  split at h
  · cases h
    exact List.suffix_rfl
  · rename_i s' hs'
    dsimp only at h
    split at h
    · cases h
    · obtain ⟨r, hr, he⟩ := Option.map_eq_some_iff.1 h
      cases he
      exact (suffix_of_dropPrefix? hr).trans
        ((List.drop_suffix _ _).trans (suffix_of_dropPrefix? hs'))

theorem suffix_of_named? {escaping : Option String} (h : named? escaping s = some (p, rest)) :
    rest <:+ s := by
  obtain ⟨r, hr, h⟩ := Option.bind_eq_some_iff.1 h
  split at h
  · cases h
  · cases h
    refine (suffix_of_dropPrefix? hr).trans ((List.drop_suffix _ _).trans ?_)
    cases hcolons : Chars.dropPrefix? "::".toList s with
    | none => exact List.suffix_rfl
    | some s' => exact suffix_of_dropPrefix? hcolons

/-- What follows a placeholder is an end of the text behind its first character. -/
theorem suffix_of_at? (h : at? (c :: s) = some (p, rest)) : rest <:+ s := by
  by_cases hopen : ∃ first ∈ signs, ∃ s', c :: s = first :: '\x7b' :: s'
  · obtain ⟨first, hfirst, s', he⟩ := hopen
    obtain ⟨rfl, rfl⟩ := List.cons.inj he
    rw [at?_opening hfirst] at h
    obtain ⟨⟨escaping, r⟩, hr, h⟩ := Option.bind_eq_some_iff.1 h
    exact (suffix_of_named? h).trans ((suffix_of_escaping? hr).trans (List.suffix_cons _ _))
  · push Not at hopen
    rw [at?_eq_none hopen] at h
    cases h

/-! ## Parts of a text -/

section Expand

variable (credentials : Credentials)

theorem expandFrom_drop (skip : Nat) (s : Chars) :
    expandFrom credentials skip s = expandFrom credentials 0 (s.drop skip) := by
  induction skip generalizing s with
  | zero => cases s <;> rfl
  | succ skip ih =>
    cases s with
    | nil => rfl
    | cons c s => exact ih s

theorem expandFrom_cons (h : at? (c :: s) = none) :
    expandFrom credentials 0 (c :: s) = c :: expandFrom credentials 0 s := by
  rw [expandFrom, h]

/-- The text that stands where a placeholder stood: the placeholder itself if there is no value with
its name. -/
def replaced (credentials : Credentials) (p : Placeholder) (spelling : Chars) : Chars :=
  ((replacement? credentials p).map String.toList).getD spelling

/-- A placeholder is replaced, and what follows is expanded. -/
theorem expandFrom_of_at? {spelling : Chars} (hspelling : spelling ≠ [])
    (h : at? (spelling ++ rest) = some (p, rest)) :
    expandFrom credentials 0 (spelling ++ rest) =
      replaced credentials p spelling ++ expandFrom credentials 0 rest := by
  obtain ⟨c, tail, rfl⟩ := List.exists_cons_of_ne_nil hspelling
  rw [List.cons_append] at h ⊢
  rw [expandFrom, h]
  simp [expandFrom_drop credentials tail.length, replaced]

/-- A text is expanded part by part where it is cut in front of a sign. -/
theorem expandFrom_append (hsign : sign ∈ signs) (s t : Chars) :
    expandFrom credentials 0 (s ++ sign :: t) =
      expandFrom credentials 0 s ++ expandFrom credentials 0 (sign :: t) := by
  induction hlen : s.length using Nat.strongRecOn generalizing s with
  | ind len ih =>
    cases s with
    | nil => rfl
    | cons c s =>
      have hcut := at?_append hsign (List.cons_ne_nil c s) t
      cases hfound : at? (c :: s) with
      | none =>
        rw [hfound, List.cons_append] at hcut
        rw [expandFrom_cons credentials hfound, List.cons_append, expandFrom_cons credentials hcut,
          ih s.length (by simp [← hlen]) s rfl]
        rfl
      | some found =>
        obtain ⟨p, rest⟩ := found
        obtain ⟨tail, rfl⟩ := suffix_of_at? hfound
        rw [hfound] at hcut
        have hshorter : rest.length < len := by
          rw [← hlen, List.length_cons, List.length_append]
          omega
        rw [← List.cons_append] at hfound hcut ⊢
        rw [List.append_assoc] at hcut ⊢
        rw [expandFrom_of_at? credentials (List.cons_ne_nil c tail) hfound,
          expandFrom_of_at? credentials (List.cons_ne_nil c tail) hcut,
          ih rest.length hshorter rest rfl, List.append_assoc]

/-- A placeholder is replaced wherever it stands, and what stands around it is expanded as it is
without it. -/
theorem expandFrom_insert (hsign : sign ∈ signs) {tail : Chars}
    (h : at? (sign :: tail ++ rest) = some (p, rest)) (before : Chars) :
    expandFrom credentials 0 (before ++ (sign :: tail ++ rest)) =
      expandFrom credentials 0 before ++
        (replaced credentials p (sign :: tail) ++ expandFrom credentials 0 rest) := by
  rw [← expandFrom_of_at? credentials (List.cons_ne_nil sign tail) h]
  exact expandFrom_append credentials hsign before (tail ++ rest)

end Expand

/-! ## Escaped values -/

section Spelling

variable {kind divider name : Chars}

/-- What is read of a kind of escaping that is written in full. -/
theorem escaping?_spelling (hkind : kind ≠ []) (hletters : ∀ c ∈ kind, c.isAlphanum)
    (rest : Chars) :
    escaping? ("esc(".toList ++ (kind ++ ')' :: rest)) = some (some (.ofList kind), rest) := by
  have hread : (kind ++ ')' :: rest).takeWhile Char.isAlphanum = kind := by
    rw [Chars.takeWhile_append_of_not (by decide), List.takeWhile_eq_self_iff.2 hletters]
  rw [escaping?, Chars.dropPrefix?_append]
  simp only [hread, if_neg hkind, List.drop_left]
  rfl

/-- What is read of a name that is written in full. -/
theorem named?_spelling (hdivider : divider ∈ [[], "::".toList]) (hname : name ≠ [])
    (hnames : ∀ c ∈ name, inName c) (escaping : Option String) (rest : Chars) :
    named? escaping (divider ++ (name ++ '\x7d' :: rest)) =
      some (⟨escaping, .ofList name⟩, rest) := by
  have hrest : (Chars.dropPrefix? "::".toList (divider ++ (name ++ '\x7d' :: rest))).getD
      (divider ++ (name ++ '\x7d' :: rest)) = name ++ '\x7d' :: rest := by
    rw [List.mem_pair] at hdivider
    rcases hdivider with rfl | rfl
    · obtain ⟨c, tail, rfl⟩ := List.exists_cons_of_ne_nil hname
      have hcolon : ':' ≠ c := fun he => absurd (he ▸ hnames c List.mem_cons_self) (by decide)
      simp [Chars.dropPrefix?, hcolon]
    · rw [Chars.dropPrefix?_append]
      rfl
  have hread : (name ++ '\x7d' :: rest).takeWhile inName = name := by
    rw [Chars.takeWhile_append_of_not (by decide), List.takeWhile_eq_self_iff.2 hnames]
  simp only [named?, hrest, hread, List.drop_left, if_neg hname]
  rfl

/-- What is found of a kind of escaping and a name that are written in full. -/
theorem at?_spelling (hsign : sign ∈ signs) (hkind : kind ≠ [])
    (hletters : ∀ c ∈ kind, c.isAlphanum) (hdivider : divider ∈ [[], "::".toList])
    (hname : name ≠ []) (hnames : ∀ c ∈ name, inName c) (rest : Chars) :
    at? (sign :: '\x7b' ::
        ("esc(".toList ++ (kind ++ ')' :: (divider ++ (name ++ '\x7d' :: rest))))) =
      some (⟨some (.ofList kind), .ofList name⟩, rest) := by
  rw [at?_opening hsign, escaping?_spelling hkind hletters]
  exact named?_spelling hdivider hname hnames _ rest

end Spelling

end Placeholder

/-- The names of the values. -/
def Credentials.names : List String :=
  ["HOSTNAME", "USERNAME", "PASSWORD", "AUTHENTICATIONTOKEN", "PASSWORD_BASE64",
    "BASIC_AUTH_BASE64", "SHA256_AUTH"]

theorem Credentials.mem_names_of_value? {c : Credentials} {name value : String}
    (h : c.value? name = some value) : name ∈ names := by
  unfold value? at h
  split at h
  iterate 7 decide
  cases h

namespace EscapeKind

/-- The name of the kind. -/
def name : EscapeKind → String
  | json => "json"
  | url => "url"
  | xml => "xml"
  | regex => "regex"
  | windowsCmd => "windowscmd"
  | powershell => "powershell"
  | bash => "bash"
  | sql => "sql"

theorem ofName?_name (kind : EscapeKind) : ofName? kind.name = some kind := by
  cases kind <;> rfl

/-- The ways to write a placeholder for an escaped value: the sign may be either one, and the colons
may be missing. -/
def placeholders (kind : EscapeKind) (name : String) : List String :=
  Placeholder.signs.flatMap fun sign => ["", "::"].map fun divider =>
    .singleton sign ++ "\x7besc(" ++ kind.name ++ ")" ++ divider ++ name ++ "\x7d"

end EscapeKind

namespace Placeholder

variable {kind : EscapeKind} {name value placeholder : String}

theorem at?_placeholder (hplaceholder : placeholder ∈ kind.placeholders name)
    (hname : name ∈ Credentials.names) (rest : Chars) :
    at? (placeholder.toList ++ rest) = some (⟨some kind.name, name⟩, rest) := by
  have hkind : kind.name.toList ≠ [] ∧ kind.name.toList.all Char.isAlphanum := by
    cases kind <;> decide
  have hnames : ∀ name ∈ Credentials.names, name.toList ≠ [] ∧ name.toList.all inName := by
    decide
  simp only [EscapeKind.placeholders, List.mem_flatMap, List.mem_map] at hplaceholder
  obtain ⟨sign, hsign, divider, hdivider, rfl⟩ := hplaceholder
  have hdivider' : divider.toList ∈ [[], "::".toList] := by
    rw [List.mem_pair] at hdivider
    rcases hdivider with rfl | rfl <;> decide
  have hfound := at?_spelling hsign hkind.1 (List.all_eq_true.1 hkind.2) hdivider'
    (hnames name hname).1 (List.all_eq_true.1 (hnames name hname).2) rest
  simpa using hfound

/-- A placeholder for an escaped value is replaced, and the text around it is expanded as it is
without it. -/
theorem expand_placeholder (hplaceholder : placeholder ∈ kind.placeholders name)
    {host : HostSettings} {protocol : Option String}
    (hvalue : (Credentials.of host protocol).value? name = some value) (before after : String) :
    expand (before ++ placeholder ++ after) host protocol =
      expand before host protocol ++ kind.escape value ++ expand after host protocol := by
  have hfound := at?_placeholder hplaceholder (Credentials.mem_names_of_value? hvalue) after.toList
  have hreplaced : replaced (.of host protocol) ⟨some kind.name, name⟩ placeholder.toList =
      (kind.escape value).toList := by
    simp [replaced, replacement?, hvalue, EscapeKind.ofName?_name]
  simp only [EscapeKind.placeholders, List.mem_flatMap, List.mem_map] at hplaceholder
  obtain ⟨sign, hsign, divider, -, hspelling⟩ := hplaceholder
  obtain ⟨tail, htail⟩ : ∃ tail, placeholder.toList = sign :: tail := by
    simp [← hspelling]
  rw [htail] at hfound hreplaced
  have hparts := expandFrom_insert (.of host protocol) hsign hfound before.toList
  rw [hreplaced, ← htail] at hparts
  rw [← String.toList_inj]
  simpa [expand] using hparts

end Placeholder

namespace QuotedPasswords

/-- A host with a password for a protocol. -/
def host (password : String) : HostSettings :=
  (HostSettings.named "srv" .linux).withProtocol "http"
    ⟨some "user", some password, none, none, none⟩

end QuotedPasswords

end HardwareWatch
