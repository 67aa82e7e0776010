import HardwareWatch.Proofs.Placeholder.Expansion
import HardwareWatch.Proofs.Xml.Attributes
import Mathlib.Data.List.Infix
import Mathlib.Logic.Function.Basic

/-!
# Escaping without loss

Every kind of escaping writes a word for each character. The words of a kind are a prefix code: none
starts another one, so the characters can be told from an escaped text, and two values are escaped
alike only if they are the same.

* `IsPrefixCode` says that no word of a code starts another one,
  `IsPrefixCode.flatMap_injective` that texts of such words can be told apart.
* `IsPrefixCode.of_marks` is about codes in which a character stays or has a mark in front.
* `EscapeKind.isPrefixCode_escapeChar` has one case for each kind.
* `EscapeKind.escape_uniquely` is the main statement.
-/

namespace HardwareWatch

/-! ## Prefix codes -/

/-- No word of the code is empty, and none starts another one. -/
structure IsPrefixCode {α β : Type} (f : α → List β) : Prop where
  ne_nil : ∀ a, f a ≠ []
  eq_of_prefix : ∀ {a b}, f a <+: f b → a = b

namespace IsPrefixCode

variable {α β γ : Type} {f : α → List β}

/-- The words that start a text are those of the first letters of which it is made. -/
theorem prefix_of_flatMap (h : IsPrefixCode f) {s t : List α}
    (hst : s.flatMap f <+: t.flatMap f) : s <+: t := by
  induction s generalizing t with
  | nil => exact List.nil_prefix
  | cons a s ih =>
    cases t with
    | nil =>
      rw [List.flatMap_cons, List.flatMap_nil, List.prefix_nil, List.append_eq_nil_iff] at hst
      exact absurd hst.1 (h.ne_nil a)
    | cons b t =>
      rw [List.flatMap_cons, List.flatMap_cons] at hst
      have ha : f a <+: f b ++ t.flatMap f := (List.prefix_append _ _).trans hst
      obtain rfl : a = b :=
        (List.prefix_or_prefix_of_prefix ha (List.prefix_append _ _)).elim h.eq_of_prefix
          fun hb => (h.eq_of_prefix hb).symm
      rw [List.prefix_append_right_inj] at hst
      exact (List.prefix_cons_inj a).2 (ih hst)

/-- Texts that are made of different letters are different. -/
theorem flatMap_injective (h : IsPrefixCode f) : Function.Injective (List.flatMap f) :=
  fun s t hst =>
    have hle : s <+: t := h.prefix_of_flatMap (hst ▸ List.prefix_rfl)
    have hge : t <+: s := h.prefix_of_flatMap (hst ▸ List.prefix_rfl)
    hle.eq_of_length_le hge.length_le

/-- The letters of a word may be written as words themselves. -/
theorem flatMap {g : β → List γ} (hf : IsPrefixCode f) (hg : IsPrefixCode g) :
    IsPrefixCode fun a => (f a).flatMap g where
  ne_nil a h := by
    obtain ⟨b, l, hb⟩ := List.exists_cons_of_ne_nil (hf.ne_nil a)
    rw [hb, List.flatMap_cons, List.append_eq_nil_iff] at h
    exact hg.ne_nil b h.1
  eq_of_prefix h := hf.eq_of_prefix (hg.prefix_of_flatMap h)

/-- A code whose words can be read one by one is a prefix code. -/
theorem of_read (read? : List β → Option (List α)) (hnil : read? [] = some [])
    (hread : ∀ a s, read? (f a ++ s) = (read? s).map (a :: ·)) : IsPrefixCode f where
  ne_nil a h := by
    have ha := hread a []
    rw [h, List.nil_append, hnil] at ha
    cases ha
  eq_of_prefix {a b} h := by
    obtain ⟨rest, hrest⟩ := h
    have hb := hread b []
    rw [List.append_nil, ← hrest, hread, hnil] at hb
    obtain ⟨s, -, hs⟩ := Option.map_eq_some_iff.1 hb
    exact (List.cons.inj hs).1

/-- A code in which a letter that is no mark may stay as it is, and any letter may become a letter
behind a mark, from which it can be told. -/
theorem of_marks {f : α → List α} (marks : List α) (letter : α → α)
    (h : ∀ a, f a = [a] ∧ a ∉ marks ∨ ∃ m ∈ marks, ∃ x, f a = [m, x] ∧ letter x = a) :
    IsPrefixCode f where
  ne_nil a hnil := by
    rcases h a with ⟨ha, -⟩ | ⟨m, -, x, ha, -⟩ <;> rw [ha] at hnil <;> cases hnil
  eq_of_prefix {a b} hab := by
    rcases h a with ⟨ha, hmark⟩ | ⟨m, hm, x, ha, hx⟩ <;>
      rcases h b with ⟨hb, hmark'⟩ | ⟨m', hm', y, hb, hy⟩ <;> rw [ha, hb] at hab <;>
        obtain ⟨hhead, htail⟩ := List.cons_prefix_cons.1 hab
    · exact hhead
    · exact absurd (hhead ▸ hm') hmark
    · exact absurd (hhead ▸ hm) hmark'
    · rw [← hx, ← hy, (List.cons_prefix_cons.1 htail).1]

end IsPrefixCode

/-! ## Octets -/

namespace Octets

/-- The octets of a character do not start those of another one. -/
theorem isPrefixCode_utf8EncodeChar : IsPrefixCode String.utf8EncodeChar where
  ne_nil c := List.ne_nil_of_length_pos (String.length_utf8EncodeChar c ▸ c.utf8Size_pos)
  eq_of_prefix {c d} h := by
    obtain ⟨rest, hrest⟩ := h
    have hc := ByteArray.utf8DecodeChar?_utf8EncodeChar_append (b := rest.toByteArray) (c := c)
    have hd := ByteArray.utf8DecodeChar?_utf8EncodeChar_append (b := ByteArray.empty) (c := d)
    rw [← List.toByteArray_append, hrest] at hc
    rw [ByteArray.append_empty, hc] at hd
    exact Option.some.inj hd

theorem upperDigit_inj : ∀ m < 16, ∀ n < 16, upperDigit m = upperDigit n → m = n := by decide

/-- The percent sign and the digits of an octet tell the octet. -/
theorem isPrefixCode_percentEncoded :
    IsPrefixCode fun o : UInt8 => ['%', upperDigit (o.toNat / 16), upperDigit (o.toNat % 16)] where
  ne_nil _ := List.cons_ne_nil _ _
  eq_of_prefix {o o'} h := by
    have hlt := o.toNat_lt
    have hlt' := o'.toNat_lt
    simp only [List.cons_prefix_cons, true_and, List.nil_prefix, and_true] at h
    have hhigh := upperDigit_inj (o.toNat / 16) (by omega) (o'.toNat / 16) (by omega) h.1
    have hlow := upperDigit_inj (o.toNat % 16) (by omega) (o'.toNat % 16) (by omega) h.2
    exact UInt8.toNat_inj.1 (by omega)

end Octets

/-! ## The kinds of escaping -/

namespace EscapeKind

/-- What a letter behind a mark stands for. -/
def unmarked (c : Char) : Char :=
  if c = 'n' then '\n' else if c = 'r' then '\r' else if c = 't' then '\t' else c

/-- The characters that a mark is put in front of. -/
def marked : Chars := regexMarks ++ promptMarks ++ scriptMarks ++ shellMarks

theorem unmarked_of_mem : ∀ c ∈ marked, unmarked c = c := Chars.forall_mem_of_all (by decide)

/-- The characters that start an escape. -/
def marks : EscapeKind → Chars
  | json | regex | bash => ['\\']
  | url => ['%']
  | xml => ['&']
  | windowsCmd => ['^']
  | powershell => ['\'', '\x60']
  | sql => ['\'', '\\']

/-- The character stays, or a mark is put in front of a letter that stands for it. -/
def Marks (kind : EscapeKind) (c : Char) : Prop :=
  kind.escapeChar c = [c] ∧ c ∉ kind.marks ∨
    ∃ m ∈ kind.marks, ∃ x, kind.escapeChar c = [m, x] ∧ unmarked x = c

theorem marks_json (c : Char) : Marks json c := by
  rw [Marks, escapeChar]
  split_ifs with hback hquote hfeed hreturn htab
  · exact .inr ⟨'\\', by decide, '\\', rfl, by rw [hback]; decide⟩
  · exact .inr ⟨'\\', by decide, '\x22', rfl, by rw [hquote]; decide⟩
  · exact .inr ⟨'\\', by decide, 'n', rfl, by rw [hfeed]; decide⟩
  · exact .inr ⟨'\\', by decide, 'r', rfl, by rw [hreturn]; decide⟩
  · exact .inr ⟨'\\', by decide, 't', rfl, by rw [htab]; decide⟩
  · exact .inl ⟨rfl, by simpa [marks] using hback⟩

/-- A kind with one mark, which is put in front of some characters and of itself. -/
theorem marks_of_one {kind : EscapeKind} {mark : Char} {before : Chars}
    (hmarks : kind.marks = [mark]) (hbefore : before ⊆ marked) (hself : mark ∈ before)
    (h : ∀ c, kind.escapeChar c = if c ∈ before then [mark, c] else [c]) (c : Char) :
    Marks kind c := by
  rw [Marks, h, hmarks]
  split_ifs with hc
  · exact .inr ⟨mark, List.mem_cons_self, c, rfl, unmarked_of_mem c (hbefore hc)⟩
  · exact .inl ⟨rfl, fun hmem => hc (List.mem_singleton.1 hmem ▸ hself)⟩

theorem marks_regex (c : Char) : Marks regex c :=
  marks_of_one rfl (show regexMarks ⊆ marked by decide) (by decide) (fun _ => rfl) c

theorem marks_windowsCmd (c : Char) : Marks windowsCmd c :=
  marks_of_one rfl (show promptMarks ⊆ marked by decide) (by decide) (fun _ => rfl) c

theorem marks_powershell (c : Char) : Marks powershell c := by
  rw [Marks, escapeChar]
  split_ifs with hapos hc
  · exact .inr ⟨'\'', by decide, '\'', rfl, by rw [hapos]; decide⟩
  · exact .inr ⟨'\x60', by decide, c, rfl, unmarked_of_mem c (by simp [marked, hc])⟩
  · refine .inl ⟨rfl, fun h => ?_⟩
    rcases List.mem_pair.1 h with rfl | rfl
    · exact hapos rfl
    · exact hc (by decide)

theorem marks_bash (c : Char) : Marks bash c := by
  rw [Marks, escapeChar]
  split_ifs with hfeed hc
  · exact .inr ⟨'\\', by decide, 'n', rfl, by rw [hfeed]; decide⟩
  · exact .inr ⟨'\\', by decide, c, rfl, unmarked_of_mem c (by simp [marked, hc])⟩
  · exact .inl ⟨rfl, fun h => hc (by rw [List.mem_singleton.1 h]; decide)⟩

theorem marks_sql (c : Char) : Marks sql c := by
  rw [Marks, escapeChar]
  split_ifs with hapos hquote hback hfeed hreturn htab
  · exact .inr ⟨'\'', by decide, '\'', rfl, by rw [hapos]; decide⟩
  · exact .inr ⟨'\\', by decide, '\x22', rfl, by rw [hquote]; decide⟩
  · exact .inr ⟨'\\', by decide, '\\', rfl, by rw [hback]; decide⟩
  · exact .inr ⟨'\\', by decide, 'n', rfl, by rw [hfeed]; decide⟩
  · exact .inr ⟨'\\', by decide, 'r', rfl, by rw [hreturn]; decide⟩
  · exact .inr ⟨'\\', by decide, 't', rfl, by rw [htab]; decide⟩
  · exact .inl ⟨rfl, by simp [marks, hapos, hback]⟩

/-- A character that is not safe in addresses is told by the octets behind the percent signs. -/
theorem isPrefixCode_url : IsPrefixCode (escapeChar url) := by
  have hcode : IsPrefixCode fun c => Octets.percentEncoded (Octets.ofChars [c]) := by
    simpa [Octets.percentEncoded, Octets.ofChars] using
      Octets.isPrefixCode_utf8EncodeChar.flatMap Octets.isPrefixCode_percentEncoded
  have hmark (c : Char) :
      ∃ rest, Octets.percentEncoded (Octets.ofChars [c]) = '%' :: rest := by
    obtain ⟨o, os, ho⟩ := List.exists_cons_of_ne_nil (Octets.isPrefixCode_utf8EncodeChar.ne_nil c)
    simp [Octets.percentEncoded, Octets.ofChars, ho]
  have hsafe : isSafeInUrl '%' = false := by decide
  refine ⟨fun c => ?_, fun {c d} h => ?_⟩
  · rw [escapeChar]
    split
    · exact List.cons_ne_nil _ _
    · exact hcode.ne_nil c
  · rw [escapeChar, escapeChar] at h
    by_cases hc : isSafeInUrl c <;> by_cases hd : isSafeInUrl d <;>
      simp only [hc, hd, if_true, if_false, Bool.false_eq_true] at h
    · exact (List.cons_prefix_cons.1 h).1
    · obtain ⟨rest, hrest⟩ := hmark d
      rw [hrest] at h
      exact absurd ((List.cons_prefix_cons.1 h).1 ▸ hc) (by decide)
    · obtain ⟨rest, hrest⟩ := hmark c
      rw [hrest] at h
      exact absurd ((List.cons_prefix_cons.1 h).1 ▸ hd) (by decide)
    · exact hcode.eq_of_prefix h

/-- What every kind of escaping writes for the characters is a prefix code. -/
theorem isPrefixCode_escapeChar (kind : EscapeKind) : IsPrefixCode kind.escapeChar := by
  cases kind with
  | json => exact .of_marks _ unmarked marks_json
  | url => exact isPrefixCode_url
  | xml => exact .of_read Xml.unescape? rfl Xml.unescapeFrom?_escapeChar
  | regex => exact .of_marks _ unmarked marks_regex
  | windowsCmd => exact .of_marks _ unmarked marks_windowsCmd
  | powershell => exact .of_marks _ unmarked marks_powershell
  | bash => exact .of_marks _ unmarked marks_bash
  | sql => exact .of_marks _ unmarked marks_sql

theorem escape_append (kind : EscapeKind) (a b : String) :
    kind.escape (a ++ b) = kind.escape a ++ kind.escape b := by
  simp [escape]

theorem escape_injective (kind : EscapeKind) : Function.Injective kind.escape := fun _ _ h =>
  String.toList_inj.1 (kind.isPrefixCode_escapeChar.flatMap_injective (String.ofList_inj.1 h))

/-- **Nothing is lost by escaping.** Of every kind: a text is escaped part by part, and two texts
are escaped alike only if they are the same. So of a text with a placeholder for an escaped value,
for two hosts for which the text around it expands alike, the whole text expands alike exactly if
the values are the same. -/
theorem escape_uniquely (kind : EscapeKind) :
    (∀ a b : String, kind.escape (a ++ b) = kind.escape a ++ kind.escape b) ∧
      Function.Injective kind.escape ∧
      ∀ {name placeholder value value' before after : String} {host host' : HostSettings}
        {protocol protocol' : Option String},
        placeholder ∈ kind.placeholders name →
        (Credentials.of host protocol).value? name = some value →
        (Credentials.of host' protocol').value? name = some value' →
        Placeholder.expand before host protocol = Placeholder.expand before host' protocol' →
        Placeholder.expand after host protocol = Placeholder.expand after host' protocol' →
        (Placeholder.expand (before ++ placeholder ++ after) host protocol =
            Placeholder.expand (before ++ placeholder ++ after) host' protocol' ↔
          value = value') := by
  refine ⟨kind.escape_append, kind.escape_injective, ?_⟩
  intro name placeholder value value' before after host host' protocol protocol' hplaceholder hvalue
    hvalue' hbefore hafter
  rw [Placeholder.expand_placeholder hplaceholder hvalue,
    Placeholder.expand_placeholder hplaceholder hvalue', hbefore, hafter, String.append_left_inj,
    String.append_right_inj]
  exact kind.escape_injective.eq_iff

end EscapeKind

namespace QuotedPasswords

/-- A password with a quote, and what it is escaped to, are told apart. -/
theorem expands_apart :
    "%\x7besc(json)PASSWORD\x7d" ∈ EscapeKind.json.placeholders "PASSWORD" ∧
      (Credentials.of (host "p\x22w") (some "http")).value? "PASSWORD" = some "p\x22w" ∧
      (Credentials.of (host "p\\\x22w") (some "http")).value? "PASSWORD" = some "p\\\x22w" ∧
      Placeholder.expand "%\x7bUSERNAME\x7d:" (host "p\x22w") (some "http") =
        Placeholder.expand "%\x7bUSERNAME\x7d:" (host "p\\\x22w") (some "http") ∧
      Placeholder.expand "" (host "p\x22w") (some "http") =
        Placeholder.expand "" (host "p\\\x22w") (some "http") ∧
      (Placeholder.expand ("%\x7bUSERNAME\x7d:" ++ "%\x7besc(json)PASSWORD\x7d" ++ "")
          (host "p\x22w") (some "http") =
        Placeholder.expand ("%\x7bUSERNAME\x7d:" ++ "%\x7besc(json)PASSWORD\x7d" ++ "")
          (host "p\\\x22w") (some "http") ↔ "p\x22w" = "p\\\x22w") := by
  have hplaceholder : "%\x7besc(json)PASSWORD\x7d" ∈ EscapeKind.json.placeholders "PASSWORD" := by
    decide
  refine ⟨hplaceholder, rfl, rfl, by decide, rfl, ?_⟩
  exact (EscapeKind.escape_uniquely .json).2.2 hplaceholder rfl rfl (by decide) rfl

end QuotedPasswords

end HardwareWatch
