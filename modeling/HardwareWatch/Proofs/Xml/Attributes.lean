import HardwareWatch.Operator.Flatten
import HardwareWatch.Placeholder.Escape
import HardwareWatch.Proofs.Table.Naming

/-!
# Escaped values in attributes

A value that is escaped for XML is read back from between double quotes as the value of an
attribute: its escapes are entities, which are replaced by what was escaped, and none of its
characters ends the quotes or the tag. So nothing but that attribute depends on the value.

* `Xml.escapeChar_cases` says what becomes of a character, and `Xml.unescape?_escaped` that what is
  escaped is what the entities are replaced by.
* `Xml.Tag.read?_attribute` and `Xml.events?_elementText` read an element with one escaped
  attribute.
* `XmlRows.attribute_read_back` is the main statement.
-/

namespace HardwareWatch

namespace Xml

/-- The value escaped for XML. -/
def escaped (value : Chars) : Chars := value.flatMap EscapeKind.xml.escapeChar

/-- The names of the entities that stand for characters with a meaning. -/
def entityNames : List Chars :=
  ["amp".toList, "lt".toList, "gt".toList, "quot".toList, "apos".toList]

/-- The characters that end a tag, or start or end quotes. -/
def marks : Chars := ['>', '\'', '\x22']

variable {c d : Char} {content name value : Chars}

/-! ## Entities -/

/-- A character with a meaning becomes its entity, and all others stay. -/
theorem escapeChar_cases (c : Char) :
    EscapeKind.xml.escapeChar c = [c] ∧ c ≠ '&' ∧ c ∉ marks ∨
      ∃ name ∈ entityNames, EscapeKind.xml.escapeChar c = '&' :: (name ++ [';']) ∧
        entity? name = some c := by
  rw [EscapeKind.escapeChar]
  split_ifs with hamp hlt hgt hquot hapos
  · exact .inr ⟨"amp".toList, by decide, rfl, hamp ▸ rfl⟩
  · exact .inr ⟨"lt".toList, by decide, rfl, hlt ▸ rfl⟩
  · exact .inr ⟨"gt".toList, by decide, rfl, hgt ▸ rfl⟩
  · exact .inr ⟨"quot".toList, by decide, rfl, hquot ▸ rfl⟩
  · exact .inr ⟨"apos".toList, by decide, rfl, hapos ▸ rfl⟩
  · exact .inl ⟨rfl, hamp, by simp [marks, hgt, hquot, hapos]⟩

theorem unescapeFrom?_drop (skip : Nat) (s : Chars) :
    unescapeFrom? skip s = unescapeFrom? 0 (s.drop skip) := by
  induction skip generalizing s with
  | zero => rfl
  | succ skip ih =>
    cases s with
    | nil => rfl
    | cons c s => exact ih s

theorem unescapeFrom?_cons (h : c ≠ '&') (s : Chars) :
    unescapeFrom? 0 (c :: s) = (unescapeFrom? 0 s).map (c :: ·) := by
  rw [unescapeFrom?, if_pos (bne_iff_ne.2 h)]

theorem unescapeFrom?_entity (hname : name ∈ entityNames) (hd : entity? name = some d) (s : Chars) :
    unescapeFrom? 0 ('&' :: (name ++ ';' :: s)) = (unescapeFrom? 0 s).map (d :: ·) := by
  have hplain : ∀ name ∈ entityNames, name.all (fun x => x != '&' && x != ';') := by decide
  have hread : (name ++ ';' :: s).takeWhile (fun x => x != '&' && x != ';') = name := by
    rw [List.takeWhile_append_of_pos (List.all_eq_true.1 (hplain name hname))]
    simp
  have hrest : unescapeFrom? (name.length + 1) (name ++ ';' :: s) = unescapeFrom? 0 s := by
    rw [unescapeFrom?_drop]
    simp
  rw [unescapeFrom?, if_neg (by decide)]
  simp only [hread, List.drop_left, hd, hrest]
  exact Option.map_eq_bind.symm

/-- What is read of an escaped character is the character. -/
theorem unescapeFrom?_escapeChar (c : Char) (s : Chars) :
    unescapeFrom? 0 (EscapeKind.xml.escapeChar c ++ s) = (unescapeFrom? 0 s).map (c :: ·) := by
  rcases escapeChar_cases c with ⟨hself, hamp, -⟩ | ⟨name, hname, hentity, hc⟩
  · rw [hself, List.singleton_append, unescapeFrom?_cons hamp]
  · rw [hentity, List.cons_append, List.append_assoc, List.singleton_append,
      unescapeFrom?_entity hname hc]

/-- What is escaped is what the entities are replaced by. -/
theorem unescape?_escaped (value : Chars) : unescape? (escaped value) = some value := by
  rw [unescape?, escaped]
  induction value with
  | nil => rfl
  | cons c value ih => rw [List.flatMap_cons, unescapeFrom?_escapeChar, ih, Option.map_some]

theorem notMem_escaped {m : Char} (hm : m ∈ marks) (value : Chars) : m ∉ escaped value := by
  have hentity : ∀ name ∈ entityNames, marks.all (fun m => m ∉ '&' :: (name ++ [';'])) := by decide
  intro h
  obtain ⟨c, -, hc⟩ := List.mem_flatMap.1 h
  rcases escapeChar_cases c with ⟨hself, -, hmark⟩ | ⟨name, hname, hescape, -⟩
  · rw [hself, List.mem_singleton] at hc
    exact hmark (hc ▸ hm)
  · exact Chars.forall_mem_of_all (hentity name hname) m hm (hescape ▸ hc)

/-! ## The end of a tag -/

theorem tagOf?_cons (h : c ∉ marks) (s : Chars) :
    tagOf? none (c :: s) = (tagOf? none s).map (c :: ·) := by
  simp only [marks, List.mem_cons, List.not_mem_nil, or_false, not_or] at h
  simp [tagOf?, h]

theorem tagOf?_append (h : ∀ m ∈ marks, m ∉ content) (s : Chars) :
    tagOf? none (content ++ s) = (tagOf? none s).map (content ++ ·) := by
  induction content with
  | nil => exact Option.map_id_apply.symm
  | cons c content ih =>
    have hc : c ∉ marks := fun hc => h c hc List.mem_cons_self
    rw [List.cons_append, tagOf?_cons hc, ih fun m hm hmem => h m hm (List.mem_cons_of_mem _ hmem),
      Option.map_map]
    rfl

/-- Nothing ends a tag inside quotes but the quote that is open. -/
theorem tagOf?_quoted {q : Char} (h : q ∉ value) (s : Chars) :
    tagOf? (some q) (value ++ q :: s) = (tagOf? none s).map (value ++ q :: ·) := by
  induction value with
  | nil => simp [tagOf?]
  | cons c value ih =>
    rw [List.mem_cons, not_or] at h
    rw [List.cons_append, tagOf?]
    simp only [if_neg (Ne.symm h.1), ih h.2, Option.map_map]
    rfl

/-! ## One attribute -/

/-- A name of letters and digits. -/
def IsWord (name : Chars) : Prop := name ≠ [] ∧ ∀ c ∈ name, c.isAlphanum

instance (name : Chars) : Decidable (IsWord name) :=
  @instDecidableAnd _ _ inferInstance (List.decidableBAll (·.isAlphanum = true) name)

/-- No letter or digit is among the characters. -/
theorem notMem_of_isWord {x : Char} (hx : x.isAlphanum = false) (h : IsWord name) : x ∉ name :=
  fun hmem => absurd (h.2 x hmem) (by simp [hx])

theorem isBlank_of_isAlphanum (h : c.isAlphanum) : isBlank c = false := by
  refine Bool.eq_false_iff.2 fun hblank => ?_
  simp only [isBlank, Bool.or_eq_true, beq_iff_eq] at hblank
  rcases hblank with ((rfl | rfl) | rfl) | rfl <;> exact absurd h (by decide)

theorem marks_notMem_of_isWord (h : IsWord name) : ∀ m ∈ marks, m ∉ name := by
  have hmarks : ∀ m ∈ marks, m.isAlphanum = false := Chars.forall_mem_of_all (by decide)
  exact fun m hm => notMem_of_isWord (hmarks m hm) h

/-- An attribute with an escaped value. -/
def attributeText (name value : Chars) : Chars :=
  name ++ '=' :: '\x22' :: (escaped value ++ ['\x22'])

namespace Tag

theorem attributesFrom?_drop (skip : Nat) (s : Chars) :
    attributesFrom? skip s = attributesFrom? 0 (s.drop skip) := by
  induction skip generalizing s with
  | zero => rfl
  | succ skip ih =>
    cases s with
    | nil => rfl
    | cons c s => exact ih s

/-- The value of an attribute is what was escaped. -/
theorem attribute?_attributeText (hname : IsWord name) (value : Chars) :
    attribute? (attributeText name value) =
      some ((.ofList name, .ofList value), (attributeText name value).length) := by
  obtain ⟨c, tail, rfl⟩ := List.exists_cons_of_ne_nil hname.1
  have htail : ∀ d ∈ tail, (d != '=' && !isBlank d) = true := fun d hd => by
    have hd' := List.mem_cons_of_mem c hd
    have hequals : d ≠ '=' := fun he => notMem_of_isWord (by decide) hname (he ▸ hd')
    simp [hequals, isBlank_of_isAlphanum (hname.2 d hd')]
  have hread (s : Chars) :
      (tail ++ '=' :: s).takeWhile (fun d => d != '=' && !isBlank d) = tail := by
    rw [List.takeWhile_append_of_pos htail]
    simp
  have hquoted := Chars.breakOn?_append (notMem_escaped (by decide) value : '\x22' ∉ _) []
  have hstart (s : Chars) : trimStart ('\x22' :: s) = '\x22' :: s := rfl
  have hequals (s : Chars) : trimStart ('=' :: s) = '=' :: s := rfl
  simp [attribute?, attributeText, hread, hequals, hstart, Chars.dropPrefix?, hquoted,
    unescape?_escaped]

/-- A tag with one attribute. -/
theorem read?_attribute {element : Chars} (helement : IsWord element) (hname : IsWord name)
    (value : Chars) :
    read? (element ++ ' ' :: attributeText name value) =
      some ⟨.ofList element, [(.ofList name, .ofList value)]⟩ := by
  have hread : (element ++ ' ' :: attributeText name value).takeWhile (fun c => !isBlank c) =
      element := by
    rw [List.takeWhile_append_of_pos fun d hd => by
      rw [isBlank_of_isAlphanum (helement.2 d hd), Bool.not_false]]
    simp [isBlank]
  have hattributes : attributesFrom? 0 (' ' :: attributeText name value) =
      some [(.ofList name, .ofList value)] := by
    have hfound := attribute?_attributeText hname value
    obtain ⟨c, tail, rfl⟩ := List.exists_cons_of_ne_nil hname.1
    have hblank := isBlank_of_isAlphanum (hname.2 c List.mem_cons_self)
    rw [attributeText, List.cons_append] at hfound ⊢
    rw [attributesFrom?, if_pos (by decide), attributesFrom?, hblank, hfound]
    simp [attributesFrom?_drop _ (tail ++ _), attributesFrom?]
  simp only [read?, hread, List.drop_left, hattributes, Option.map_some]

end Tag

/-! ## One element -/

theorem piecesFrom?_drop (skip : Nat) (s : Chars) :
    piecesFrom? skip s = piecesFrom? 0 (s.drop skip) := by
  induction skip generalizing s with
  | zero => rfl
  | succ skip ih =>
    cases s with
    | nil => rfl
    | cons c s => exact ih s

/-- Behind the bracket of a tag that starts with a letter or digit stands its content. -/
theorem markup?_of_isAlphanum (hc : c.isAlphanum) (s : Chars) :
    markup? (c :: s) = (tagOf? none (c :: s)).map fun content =>
      (.opening content, content.length + 1) := by
  unfold markup?
  split
  · rename_i h
    exact absurd ((List.cons.inj h).1 ▸ hc) (by decide)
  · rename_i h
    exact absurd ((List.cons.inj h).1 ▸ hc) (by decide)
  · rename_i h
    exact absurd ((List.cons.inj h).1 ▸ hc) (by decide)
  · rfl

/-- A document that is one tag is one piece. -/
theorem pieces?_tag (hstart : ∃ c ∈ content.head?, c.isAlphanum)
    (h : tagOf? none (content ++ ['>']) = some content) :
    pieces? ('<' :: (content ++ ['>'])) = some [.opening content] := by
  obtain ⟨c, hhead, hc⟩ := hstart
  obtain ⟨rest, rfl⟩ := List.head?_eq_some_iff.1 hhead
  have hfirst : piece? ('<' :: (c :: rest ++ ['>'])) =
      some (.opening (c :: rest), rest.length + 3) := by
    rw [List.cons_append] at h ⊢
    simp [piece?, markup?_of_isAlphanum hc, h]
  have hmark : Chars.dropPrefix? [byteOrderMark] ('<' :: (c :: rest ++ ['>'])) = none := rfl
  rw [pieces?, hmark, Option.getD_none, piecesFrom?, hfirst]
  simp [piecesFrom?_drop _ (c :: _), piecesFrom?]

/-- The document of an empty element with an escaped attribute. -/
def elementText (element name value : Chars) : Chars :=
  '<' :: (element ++ ' ' :: (attributeText name value ++ ['/', '>']))

/-- The element is read with that attribute and no other, whatever the value is. -/
theorem events?_elementText {element : Chars} (helement : IsWord element) (hname : IsWord name)
    (value : Chars) :
    events? (.ofList (elementText element name value)) =
      some [.empty ⟨.ofList element, [(.ofList name, .ofList value)]⟩] := by
  have hquote (s : Chars) :
      tagOf? none ('\x22' :: s) = (tagOf? (some '\x22') s).map ('\x22' :: ·) := by simp [tagOf?]
  have hend : tagOf? none ['/', '>'] = some ['/'] := rfl
  have htag : tagOf? none (element ++ ' ' :: (attributeText name value ++ ['/']) ++ ['>']) =
      some (element ++ ' ' :: (attributeText name value ++ ['/'])) := by
    rw [List.append_assoc, tagOf?_append (marks_notMem_of_isWord helement), List.cons_append,
      tagOf?_cons (by decide), attributeText, List.append_assoc, List.append_assoc,
      tagOf?_append (marks_notMem_of_isWord hname), List.cons_append, tagOf?_cons (by decide),
      List.cons_append, hquote, List.append_assoc, List.singleton_append,
      tagOf?_quoted (notMem_escaped (by decide) value), List.singleton_append, hend]
    simp
  have hstart : ∃ c ∈ (element ++ ' ' :: (attributeText name value ++ ['/'])).head?,
      c.isAlphanum := by
    obtain ⟨c, tail, rfl⟩ := List.exists_cons_of_ne_nil helement.1
    exact ⟨c, rfl, helement.2 c List.mem_cons_self⟩
  have hempty : Chars.dropSuffix? ['/'] (element ++ ' ' :: (attributeText name value ++ ['/'])) =
      some (element ++ ' ' :: attributeText name value) :=
    Chars.dropSuffix?_eq_some_iff.2 (by simp)
  have htext : elementText element name value =
      '<' :: (element ++ ' ' :: (attributeText name value ++ ['/']) ++ ['>']) := by
    simp [elementText]
  rw [events?, String.toList_ofList, htext, pieces?_tag hstart htag, Option.bind_some]
  simp only [eventsFrom?, eventOf?, hempty, Tag.read?_attribute helement hname]
  rfl

end Xml

namespace XmlRows

open Xml

/-- **An escaped value is read back from an attribute**, and nothing else depends on it: the
document has one event, which is an element with this attribute alone, so that the element is the
only one and has neither characters nor other elements in it, and it gives one row of one cell. -/
theorem attribute_read_back (value : String) :
    events? ("<r a=\x22" ++ EscapeKind.xml.escape value ++ "\x22/>") =
        some [.empty ⟨"r", [("a", value)]⟩] ∧
      Node.ofDocument? ("<r a=\x22" ++ EscapeKind.xml.escape value ++ "\x22/>") =
        some (.element "" [] "" [.element "r" [("a", value)] "" []]) ∧
      read? ("<r a=\x22" ++ EscapeKind.xml.escape value ++ "\x22/>") ">a" "r" = some [[value]] := by
  have htext : "<r a=\x22" ++ EscapeKind.xml.escape value ++ "\x22/>" =
      .ofList (elementText ['r'] ['a'] value.toList) := by
    rw [← String.toList_inj]
    simp [EscapeKind.escape, elementText, attributeText, escaped]
  have helement : IsWord ['r'] := by decide
  have hname : IsWord ['a'] := by decide
  have hevents := events?_elementText helement hname value.toList
  rw [String.ofList_toList] at hevents
  have hnode : Node.ofDocument? (.ofList (elementText ['r'] ['a'] value.toList)) =
      some (.element "" [] "" [.element "r" [("a", value)] "" []]) := by
    rw [Node.ofDocument?, hevents]
    rfl
  rw [htext]
  refine ⟨hevents, hnode, ?_⟩
  rw [read?, hnode]
  rfl

end XmlRows

end HardwareWatch
