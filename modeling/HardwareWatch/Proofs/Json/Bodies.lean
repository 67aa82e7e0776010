import HardwareWatch.Proofs.Json.Scanning
import HardwareWatch.Proofs.Placeholder.Expansion

/-!
# Escaped values in JSON documents

A value that is escaped for JSON is read back from between quotes if line feeds, carriage returns
and tabs are its only control characters: the other control characters are written as they are, and
no text in quotes may hold one. Whether a document can be read depends on the kinds of its tokens
only, so a placeholder in a text of a document keeps the document well formed exactly for these
values.

* `Json.NoRawControls` is the condition on a value, and `Token.scanFrom?_escaped` says what is read
  of the value in quotes.
* `Token.bare` and `Cursor.bare` leave the values of tokens and cursors out.
  `Cursor.run?_congr` and `isSome_ofTokens?_congr` say that the rest decides.
* `Json.escaped_in_quotes` is the main statement.
-/

namespace HardwareWatch.Json

/-! ## Values in quotes -/

/-- Escaping leaves no control character in the text as it is. -/
def NoRawControls (s : Chars) : Prop := ∀ c ∈ s, c.toNat < 0x20 → c = '\n' ∨ c = '\r' ∨ c = '\t'

instance (s : Chars) : Decidable (NoRawControls s) :=
  List.decidableBAll (fun c : Char => c.toNat < 0x20 → c = '\n' ∨ c = '\r' ∨ c = '\t') s

/-- The value escaped for JSON. -/
def escaped (value : Chars) : Chars := value.flatMap EscapeKind.json.escapeChar

variable {c : Char} {value : Chars}

theorem noRawControls_cons {s : Chars} :
    NoRawControls (c :: s) ↔ NoRawControls [c] ∧ NoRawControls s := by
  simp [NoRawControls]

/-- All other characters are escaped as they are in written documents. -/
theorem escapeChar_eq_quoteChar (h : NoRawControls [c]) :
    EscapeKind.json.escapeChar c = quoteChar c := by
  have hc := h c List.mem_cons_self
  rw [EscapeKind.escapeChar]
  split_ifs with hback hquote hfeed hreturn htab
  · rw [hback]
    rfl
  · rw [hquote]
    rfl
  · rw [hfeed]
    rfl
  · rw [hreturn]
    rfl
  · rw [htab]
    rfl
  · have hhigh : ¬c.toNat < 0x20 := fun hlow => by simpa [hfeed, hreturn, htab] using hc hlow
    unfold quoteChar
    split
    case h_1 => exact absurd rfl hquote
    case h_2 => exact absurd rfl hback
    case h_5 => exact absurd rfl hfeed
    case h_6 => exact absurd rfl hreturn
    case h_7 => exact absurd rfl htab
    case h_3 | h_4 => exact absurd (by decide) hhigh
    case h_8 => exact (if_neg hhigh).symm

/-- Any other control character is written as it is. -/
theorem escapeChar_of_raw (h : ¬NoRawControls [c]) :
    EscapeKind.json.escapeChar c = [c] ∧ c.toNat < 0x20 := by
  simp only [NoRawControls, List.forall_mem_singleton, not_forall, not_or] at h
  obtain ⟨hlow, hfeed, hreturn, htab⟩ := h
  have hback : c ≠ '\\' := fun he => absurd (he ▸ hlow) (by decide)
  have hquote : c ≠ '\x22' := fun he => absurd (he ▸ hlow) (by decide)
  exact ⟨by simp [EscapeKind.escapeChar, hback, hquote, hfeed, hreturn, htab], hlow⟩

namespace Token

/-- What is read in quotes of an escaped value: its characters, unless there is a control character
among them that is not escaped. -/
theorem scanFrom?_escaped (codes : List Nat) (value s : Chars) :
    scanFrom? (.quotes codes) (escaped value ++ s) =
      if NoRawControls value then scanFrom? (.quotes ((value.map Char.toNat).reverse ++ codes)) s
      else none := by
  induction value generalizing codes with
  | nil => exact (if_pos (by simp [NoRawControls])).symm
  | cons c value ih =>
    rw [escaped, List.flatMap_cons, List.append_assoc, ← escaped]
    by_cases hc : NoRawControls [c]
    · rw [escapeChar_eq_quoteChar hc, scanFrom?_quoteChar, ih]
      simp only [noRawControls_cons, hc, true_and]
      simp
    · obtain ⟨hself, hlow⟩ := escapeChar_of_raw hc
      have hback : c ≠ '\\' := fun he => absurd (he ▸ hlow) (by decide)
      have hquote : c ≠ '\x22' := fun he => absurd (he ▸ hlow) (by decide)
      have hstop : advance? (.quotes codes) c = none := by simp [advance?, hback, hquote, hlow]
      rw [hself, List.singleton_append, scanFrom?, hstop,
        if_neg fun h => hc (noRawControls_cons.1 h).1]
      rfl

/-- What is read of a text, as long as no token breaks off in it. -/
def advances? (p : Progress) : Chars → Option (List Token × Progress)
  | [] => some ([], p)
  | c :: s =>
    (advance? p c).bind fun (tokens, q) =>
      (advances? q s).map fun (more, q) => (tokens ++ more, q)

theorem scanFrom?_advances {p q : Progress} {s : Chars} {ts : List Token}
    (h : advances? p s = some (ts, q)) (t : Chars) :
    scanFrom? p (s ++ t) = (scanFrom? q t).map (ts ++ ·) := by
  induction s generalizing p ts with
  | nil =>
    obtain ⟨rfl, rfl⟩ := Prod.mk.inj (Option.some.inj h)
    exact Option.map_id_apply.symm
  | cons c s ih =>
    obtain ⟨⟨now, r⟩, hstep, h⟩ := Option.bind_eq_some_iff.1 h
    obtain ⟨⟨later, q'⟩, hlater, h⟩ := Option.map_eq_some_iff.1 h
    obtain ⟨rfl, rfl⟩ := Prod.mk.inj h
    rw [List.cons_append, scanFrom?_cons hstep, ih hlater, Option.map_map]
    simp [Function.comp_def]

/-- The text ends inside quotes. -/
def EndsInQuotes (s : Chars) : Prop := ∃ ts codes, advances? .idle s = some (ts, .quotes codes)

instance (s : Chars) : Decidable (EndsInQuotes s) :=
  decidable_of_iff ((advances? .idle s).any fun (_, q) => q matches .quotes _) <| by
    rw [EndsInQuotes]
    rcases advances? .idle s with _ | ⟨ts, _ | _ | codes | _ | _⟩ <;> simp

end Token

/-! ## Well-formed documents -/

namespace Token

/-- The token without its value. -/
def bare : Token → Token
  | scalar _ => scalar .null
  | quoted _ => quoted none
  | t => t

/-- What has been read without the characters that are in quotes. -/
def Progress.bare : Progress → Progress
  | idle => idle
  | word seen => word seen
  | quotes _ => quotes []
  | escape _ => escape []
  | code _ _ left => code [] 0 left

theorem advance?_bare (p : Progress) (c : Char) :
    (advance? p c).map (Prod.map (List.map Token.bare) Progress.bare) =
      (advance? p.bare c).map (Prod.map (List.map Token.bare) Progress.bare) := by
  cases p with
  | idle | word _ => rfl
  | quotes codes =>
    simp only [Progress.bare, advance?]
    split_ifs <;> rfl
  | escape codes =>
    simp only [Progress.bare, advance?]
    split_ifs
    · rfl
    · cases escaped? c <;> rfl
  | code codes value left =>
    simp only [Progress.bare, advance?]
    cases Chars.hexValue? c with
    | none => rfl
    | some d =>
      simp only [Option.map_some]
      split_ifs <;> rfl

theorem advance?_congr {p q : Progress} (h : p.bare = q.bare) (c : Char) :
    (advance? p c).map (Prod.map (List.map Token.bare) Progress.bare) =
      (advance? q c).map (Prod.map (List.map Token.bare) Progress.bare) := by
  rw [advance?_bare, h, ← advance?_bare]

theorem map_bare_append (ts : List Token) (r : Option (List Token)) :
    (r.map (ts ++ ·)).map (List.map bare) = (r.map (List.map bare)).map (ts.map bare ++ ·) := by
  cases r <;> simp

/-- The kinds of the tokens that are read do not depend on the characters that are in quotes. -/
theorem scanFrom?_congr {p q : Progress} (h : p.bare = q.bare) (s : Chars) :
    (scanFrom? p s).map (List.map bare) = (scanFrom? q s).map (List.map bare) := by
  induction s generalizing p q with
  | nil =>
    have hfinish (p : Progress) : finish? p = finish? p.bare := by cases p <;> rfl
    rw [scanFrom?, scanFrom?, hfinish, h, ← hfinish]
  | cons c s ih =>
    have hstep := advance?_congr h c
    cases hp : advance? p c with
    | none =>
      rw [hp, Option.map_none, eq_comm, Option.map_eq_none_iff] at hstep
      rw [scanFrom?, scanFrom?, hp, hstep]
    | some first =>
      obtain ⟨ts, p'⟩ := first
      rw [hp, Option.map_some, eq_comm, Option.map_eq_some_iff] at hstep
      obtain ⟨⟨ts', q'⟩, hq, he⟩ := hstep
      obtain ⟨htokens, hprogress⟩ := Prod.mk.inj he
      rw [scanFrom?_cons hp, scanFrom?_cons hq, map_bare_append, map_bare_append, ih hprogress,
        htokens]

end Token

/-- The frame without what it holds. -/
def Frame.bare : Frame → Frame
  | items _ => items []
  | fields .. => fields [] none true

/-- The place without the value that is read. -/
def Place.bare : Place → Place
  | done _ => done .null
  | place => place

namespace Cursor

/-- The cursor without the values that are read. -/
def bare (c : Cursor) : Cursor := ⟨c.stack.map Frame.bare, c.place.bare⟩

theorem map_bare_bare (stack : List Frame) :
    (stack.map Frame.bare).map Frame.bare = stack.map Frame.bare := by
  rw [List.map_map]
  exact List.map_congr_left fun frame _ => by cases frame <;> rfl

theorem bare_push {frame frame' : Frame} (h : frame.bare = frame'.bare) (outer : List Frame)
    (place : Place) :
    bare ⟨frame :: outer, place⟩ = bare ⟨frame' :: outer.map Frame.bare, place⟩ := by
  simp only [bare, List.map_cons, map_bare_bare, h]

theorem deliver_bare (v w : Json) (stack : List Frame) :
    (deliver v stack).bare = (deliver w (stack.map Frame.bare)).bare := by
  rcases stack with _ | ⟨_ | ⟨_, _ | _, _⟩, outer⟩
  · rfl
  all_goals exact bare_push rfl outer .next

theorem openValue?_bare (stack : List Frame) (t : Token) :
    (openValue? stack t).map bare = (openValue? (stack.map Frame.bare) t.bare).map bare := by
  cases t with
  | openArray | openObject => exact congrArg some (bare_push rfl stack _)
  | scalar v => exact congrArg some (deliver_bare _ _ stack)
  | quoted s => cases s <;> exact congrArg some (deliver_bare _ _ stack)
  | closeArray | closeObject | colon | comma => rfl

theorem close?_bare (stack : List Frame) (t : Token) :
    (close? stack t).map bare = (close? (stack.map Frame.bare) t.bare).map bare := by
  rcases stack with _ | ⟨_ | _, outer⟩ <;> cases t <;> try rfl
  · exact congrArg some (deliver_bare _ _ outer)
  · exact congrArg some (deliver_bare _ _ outer)

theorem name?_bare (stack : List Frame) (t : Token) :
    (name? stack t).map bare = (name? (stack.map Frame.bare) t.bare).map bare := by
  rcases stack with _ | ⟨_ | _, outer⟩ <;> cases t <;> try rfl
  exact congrArg some (bare_push rfl outer .colon)

theorem map_orElse_congr {first second first' second' : Option Cursor}
    (h : first.map bare = first'.map bare) (h' : second.map bare = second'.map bare) :
    (first.orElse fun _ => second).map bare = (first'.orElse fun _ => second').map bare := by
  cases first <;> cases first' <;> simp_all

/-- What is read of a token, apart from its value, does not depend on the values that are read. -/
theorem step?_bare (c : Cursor) (t : Token) :
    (step? c t).map bare = (step? c.bare t.bare).map bare := by
  obtain ⟨stack, place⟩ := c
  cases place with
  | value => exact openValue?_bare stack t
  | firstItem => exact map_orElse_congr (close?_bare stack t) (openValue?_bare stack t)
  | firstName => exact map_orElse_congr (close?_bare stack t) (name?_bare stack t)
  | name => exact name?_bare stack t
  | colon =>
    cases t <;> try rfl
    exact congrArg some (congrArg (Cursor.mk · .value) (map_bare_bare stack).symm)
  | next =>
    by_cases ht : t = .comma
    · subst ht
      rcases stack with _ | ⟨_ | _, outer⟩
      · rfl
      · exact congrArg some (bare_push rfl outer .value)
      · exact congrArg some (bare_push rfl outer .name)
    · have hclose (stack : List Frame) (t : Token) (ht : t ≠ .comma) :
          step? ⟨stack, .next⟩ t = close? stack t := by
        rcases stack with _ | ⟨_ | _, _⟩ <;> cases t <;> first | rfl | exact absurd rfl ht
      have hbare : t.bare ≠ .comma := by cases t <;> simp_all [Token.bare]
      exact (congrArg _ (hclose _ _ ht)).trans
        ((close?_bare stack t).trans (congrArg _ (hclose _ _ hbare)).symm)
  | done v => rfl

theorem step?_congr {c c' : Cursor} {t t' : Token} (hc : c.bare = c'.bare) (ht : t.bare = t'.bare) :
    (step? c t).map bare = (step? c' t').map bare := by
  rw [step?_bare, hc, ht, ← step?_bare]

/-- Apart from the values, what is read of tokens does not depend on their values. -/
theorem run?_congr {c c' : Cursor} {ts ts' : List Token} (hc : c.bare = c'.bare)
    (hts : ts.map Token.bare = ts'.map Token.bare) :
    (run? c ts).map bare = (run? c' ts').map bare := by
  induction ts generalizing c c' ts' with
  | nil =>
    obtain rfl := List.map_eq_nil_iff.1 hts.symm
    exact congrArg some hc
  | cons t ts ih =>
    obtain ⟨t', rest, rfl, ht, hrest⟩ := List.map_eq_cons_iff.1 hts.symm
    have hstep := step?_congr hc ht.symm
    rw [run?, run?]
    cases hfirst : step? c t with
    | none =>
      rw [hfirst, Option.map_none, eq_comm, Option.map_eq_none_iff] at hstep
      rw [hstep]
      rfl
    | some after =>
      rw [hfirst, Option.map_some, eq_comm, Option.map_eq_some_iff] at hstep
      obtain ⟨after', hsecond, hafter⟩ := hstep
      rw [hsecond]
      exact ih hafter.symm hrest.symm

end Cursor

/-- Whether tokens make up a document does not depend on their values. -/
theorem isSome_ofTokens?_congr {ts ts' : List Token} (h : ts.map Token.bare = ts'.map Token.bare) :
    (ofTokens? ts).isSome = (ofTokens? ts').isSome := by
  have hplace (ts : List Token) : (ofTokens? ts).isSome =
      ((Cursor.run? ⟨[], .value⟩ ts).map Cursor.bare).any fun c => c.place matches .done _ := by
    unfold ofTokens?
    rcases Cursor.run? ⟨[], .value⟩ ts with _ | ⟨stack, _ | _⟩ <;> rfl
  rw [hplace, hplace, Cursor.run?_congr rfl h]

/-- Whether a document can be read is a matter of the kinds of its tokens. -/
theorem isSome_read?_congr {s t : String} (h : (Token.scan? s.toList).map (List.map Token.bare) =
    (Token.scan? t.toList).map (List.map Token.bare)) : (read? s).isSome = (read? t).isSome := by
  rw [read?, read?]
  cases hs : Token.scan? s.toList with
  | none =>
    rw [hs, Option.map_none, eq_comm, Option.map_eq_none_iff] at h
    rw [h]
  | some ts =>
    rw [hs, Option.map_some, eq_comm, Option.map_eq_some_iff] at h
    obtain ⟨ts', ht, htokens⟩ := h
    rw [ht]
    exact isSome_ofTokens?_congr htokens.symm

/-! ## Escaped values in documents -/

theorem toList_escape (value : String) :
    (EscapeKind.json.escape value).toList = escaped value.toList :=
  String.toList_ofList

/-- The document of an escaped value between quotes. -/
theorem readValue?_escaped (value : String) :
    readValue? ("\x22" ++ EscapeKind.json.escape value ++ "\x22") =
      if NoRawControls value.toList then some (.text value) else none := by
  have hscan : Token.scan? ("\x22" ++ EscapeKind.json.escape value ++ "\x22").toList =
      if NoRawControls value.toList then some [.quoted (some value)] else none := by
    have hquotes := Token.scanFrom?_escaped [] value.toList ['\x22']
    have hend (codes : List Nat) : Token.scanFrom? (.quotes codes) ['\x22'] =
        some [.quoted ((Token.joinHalves codes.reverse).map .ofList)] := rfl
    rw [hend, List.append_nil, List.reverse_reverse, Token.joinHalves_map_toNat, Option.map_some,
      String.ofList_toList] at hquotes
    rw [String.toList_append, String.toList_append, toList_escape, List.append_assoc]
    exact (Token.scanFrom?_cons_nil (q := .quotes []) rfl _).trans hquotes
  rw [readValue?, read?, hscan]
  split_ifs <;> rfl

/-- In a document that is cut in quotes, an escaped value may be put in if it has no control
character that stays as it is. -/
theorem isSome_read?_insert {before after : String} (h : Token.EndsInQuotes before.toList)
    (value : String) :
    (read? (before ++ EscapeKind.json.escape value ++ after)).isSome ↔
      NoRawControls value.toList ∧ (read? (before ++ after)).isSome := by
  obtain ⟨ts, codes, hbefore⟩ := h
  have hwhole : Token.scan? (before ++ EscapeKind.json.escape value ++ after).toList =
      if NoRawControls value.toList then
        (Token.scanFrom? (.quotes ((value.toList.map Char.toNat).reverse ++ codes)) after.toList).map
          (ts ++ ·)
      else none := by
    rw [String.toList_append, String.toList_append, toList_escape, List.append_assoc, Token.scan?,
      Token.scanFrom?_advances hbefore, Token.scanFrom?_escaped]
    split_ifs <;> rfl
  have hparts : Token.scan? (before ++ after).toList =
      (Token.scanFrom? (.quotes codes) after.toList).map (ts ++ ·) := by
    rw [String.toList_append, Token.scan?, Token.scanFrom?_advances hbefore]
  by_cases hvalue : NoRawControls value.toList
  · rw [if_pos hvalue] at hwhole
    have hbare : (Token.scan? (before ++ EscapeKind.json.escape value ++ after).toList).map
        (List.map Token.bare) = (Token.scan? (before ++ after).toList).map (List.map Token.bare) := by
      have hkinds := Token.scanFrom?_congr
        (p := .quotes ((value.toList.map Char.toNat).reverse ++ codes)) (q := .quotes codes) rfl
        after.toList
      rw [hwhole, hparts, Token.map_bare_append, Token.map_bare_append, hkinds]
    rw [isSome_read?_congr hbare, and_iff_right hvalue]
  · rw [if_neg hvalue] at hwhole
    rw [read?, hwhole]
    simp [hvalue]

/-- **Values escaped for JSON.** Between quotes they are read back, and in the quotes of a document
with a placeholder they leave it well formed, if and only if line feeds, carriage returns and tabs
are their only control characters. -/
theorem escaped_in_quotes (value : String) :
    (∀ v, readValue? ("\x22" ++ EscapeKind.json.escape value ++ "\x22") = some v ↔
        v = .text value ∧ NoRawControls value.toList) ∧
      ∀ {name placeholder before after : String} {host : HostSettings} {protocol : Option String},
        placeholder ∈ EscapeKind.json.placeholders name →
        (Credentials.of host protocol).value? name = some value →
        Token.EndsInQuotes (Placeholder.expand before host protocol).toList →
        ((read? (Placeholder.expand (before ++ placeholder ++ after) host protocol)).isSome ↔
          NoRawControls value.toList ∧
            (read? (Placeholder.expand before host protocol ++
              Placeholder.expand after host protocol)).isSome) := by
  refine ⟨fun v => ?_, ?_⟩
  · rw [readValue?_escaped]
    split_ifs with h
    · simp [h, eq_comm]
    · simp [h]
  · intro name placeholder before after host protocol hplaceholder hvalue hquotes
    rw [Placeholder.expand_placeholder hplaceholder hvalue]
    exact isSome_read?_insert hquotes value

/-- The start of a document, up to the password in it. -/
def passwordField : String :=
  "\x7b\x22user\x22:\x22%\x7bUSERNAME\x7d\x22,\x22pass\x22:\x22"

/-- A password with a quote leaves the document well formed. -/
theorem quoted_password_in_body :
    "%\x7besc(json)PASSWORD\x7d" ∈ EscapeKind.json.placeholders "PASSWORD" ∧
      (Credentials.of (QuotedPasswords.host "p\x22w") (some "http")).value? "PASSWORD" =
        some "p\x22w" ∧
      Token.EndsInQuotes
        (Placeholder.expand passwordField (QuotedPasswords.host "p\x22w") (some "http")).toList ∧
      (read? (Placeholder.expand (passwordField ++ "%\x7besc(json)PASSWORD\x7d" ++ "\x22\x7d")
        (QuotedPasswords.host "p\x22w") (some "http"))).isSome := by
  have hplaceholder : "%\x7besc(json)PASSWORD\x7d" ∈ EscapeKind.json.placeholders "PASSWORD" := by
    decide
  have hquotes : Token.EndsInQuotes
      (Placeholder.expand passwordField (QuotedPasswords.host "p\x22w") (some "http")).toList := by
    decide +kernel
  refine ⟨hplaceholder, rfl, hquotes, ?_⟩
  exact ((escaped_in_quotes "p\x22w").2 hplaceholder rfl hquotes).2 ⟨by decide, by decide +kernel⟩

/-- A control character that is not escaped cannot be read between quotes. -/
theorem escaped_control_unread :
    readValue? ("\x22" ++ EscapeKind.json.escape "\x01" ++ "\x22") = none := by
  decide

end HardwareWatch.Json
