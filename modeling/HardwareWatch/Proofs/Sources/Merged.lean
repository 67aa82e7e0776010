import HardwareWatch.Connector.Template
import HardwareWatch.Proofs.Json.Embedding
import HardwareWatch.Proofs.Table.RoundTrip

/-!
# Documents of the rows in one document

A source that runs for every row of a table may have the documents that it gets put into one array,
as they are or each in an object with its row. The documents are not read for this, yet the array is
read as the values that they have, as long as it is not nested too deep.

* `Table.HoldsDocument room t` says that the text of a table is blank or a document nested at most
  `room` deep.
* `EntryMerge.arrays_read_back` is the main statement. The cell of a row is its line, save that of a
  row without cells.
-/

namespace HardwareWatch

open Json (readValue? read? Embeds depthLimit)

variable {room : Nat}

/-! ## Blank texts -/

namespace Json

/-- No word has a blank. -/
theorem isBlank_of_inWord {c : Char} (h : Token.inWord c) : Chars.isBlank c = false := by
  have hword : ∀ n ∈ [9, 10, 11, 12, 13, 0x20, 0x85, 0xA0, 0x1680, 0x2000, 0x2001, 0x2002, 0x2003,
      0x2004, 0x2005, 0x2006, 0x2007, 0x2008, 0x2009, 0x200A, 0x2028, 0x2029, 0x202F, 0x205F,
      0x3000], Token.inWord (.ofNat n) = false := by
    decide
  by_contra hblank
  rw [← Char.ofNat_toNat c, hword c.toNat ?_] at h
  · cases h
  · simp [Chars.isBlank] at hblank ⊢
    omega

/-- Between tokens a blank is passed over or refused. -/
theorem start?_of_isBlank {c : Char} (h : Chars.isBlank c) :
    Token.start? c = some (none, .idle) ∨ Token.start? c = none := by
  by_cases hgap : Token.isGap c
  · exact .inl (by simp [Token.start?, hgap])
  · right
    have hne {d : Char} (hd : Chars.isBlank d = false) : c ≠ d := by
      rintro rfl
      rw [h] at hd
      cases hd
    have hquote : c ≠ '\x22' := hne (by decide)
    have hmark : Token.mark? c = none := by
      rw [Token.mark?.eq_def]
      split <;> first | exact absurd rfl (hne (by decide)) | rfl
    have hword : Token.inWord c = false :=
      Bool.eq_false_iff.2 fun hword => absurd (isBlank_of_inWord hword) (by simp [h])
    simp [Token.start?, hgap, hquote, hword, hmark]

/-- Nothing is read of a blank text. -/
theorem read?_of_isBlank {text : String} (h : Text.isBlank text) : read? text = none := by
  have hscan : ∀ s : Chars, Chars.allBlank s →
      Token.scan? s = some [] ∨ Token.scan? s = none := fun s hs => by
    induction s with
    | nil => exact .inl rfl
    | cons c s ih =>
      obtain ⟨hc, hs⟩ := Bool.and_eq_true_iff.1 hs
      rcases start?_of_isBlank hc with hstart | hstart
      · have hstep : Token.advance? .idle c = some ([], .idle) := by simp [Token.advance?, hstart]
        rw [Token.scan?, Token.scanFrom?_cons_nil hstep]
        exact ih hs
      · simp [Token.scan?, Token.scanFrom?, Token.advance?, hstart]
  rcases hscan _ h with hscan | hscan
  · rw [read?, hscan]
    rfl
  · rw [read?, hscan]
    rfl

theorem readValue?_eq {text : String} {v : Json} (h : read? text = some v) (hv : v.isReadable) :
    readValue? text = some v.canonical := by
  simp [readValue?, h, hv]

theorem canonicalItems_eq_map (items : List Json) :
    canonicalItems items = items.map canonical := by
  induction items with
  | nil => rfl
  | cons v rest ih => rw [canonicalItems, ih, List.map_cons]

end Json

/-! ## The documents of the rows -/

/-- The text of the table is blank, or it is a document nested at most `room` deep. -/
def Table.HoldsDocument (room : Nat) (t : Table) : Prop :=
  Text.isBlank t.text ∨ ∃ v, read? t.text = some v ∧ v.Fits room

theorem Table.holdsDocument_of_isEmpty {t : Table} (h : t.isEmpty) : t.HoldsDocument room := by
  obtain ⟨hrows, hraw⟩ := Bool.and_eq_true_iff.1 h
  have htext : t.text = "" := by
    rw [text, Option.isNone_iff_eq_none.1 hraw, toCsv, List.isEmpty_iff.1 hrows]
    rfl
  exact .inl (by rw [htext]; rfl)

/-- What is read of the table of a row. -/
theorem Table.HoldsDocument.cases {t : Table} (h : t.HoldsDocument room) :
    Text.isBlank t.text = true ∧ readValue? t.text = none ∨
      Text.isBlank t.text = false ∧ ∃ v, readValue? t.text = some v.canonical ∧
        Embeds room t.text.toList v := by
  cases hblank : Text.isBlank t.text with
  | true => exact .inl ⟨rfl, by rw [readValue?, Json.read?_of_isBlank hblank]; rfl⟩
  | false =>
    rcases h with h | ⟨v, hread, hfits⟩
    · rw [hblank] at h
      cases h
    · exact .inr ⟨rfl, v, Json.readValue?_eq hread hfits.1, Json.embeds_of_read? hread hfits⟩

namespace EntryMerge

/-- The array of the documents is read as the array of their values. -/
theorem raw_arrayTable_bind_readValue? {documents : List String} {values : List Json}
    (hroom : room < depthLimit)
    (h : List.Forall₂ (Embeds room) (documents.map String.toList) values) :
    (arrayTable documents).raw.bind readValue? = some (.array (values.map Json.canonical)) := by
  have hembeds := Json.embeds_array hroom h
  have htext : "[" ++ Text.join ",\n" documents ++ "]" =
      .ofList ('[' :: (Chars.join [',', '\n'] (documents.map String.toList) ++ [']'])) := by
    simp [← String.toList_inj, Text.toList_join]
  have hread := hembeds.read?_eq hroom
  rw [arrayTable, Table.ofRaw, Option.bind_some, htext, Json.readValue?_eq hread hembeds.1.1,
    Json.canonical, Json.canonicalItems_eq_map]

/-- The text of the item for a row: its line, and one separator for a row without cells. -/
def entryText (row : Row) : String := if row = [] then cellSeparator else row.toLine cellSeparator

theorem join_append_cellSeparator (row : Row) :
    Text.join cellSeparator row ++ cellSeparator = entryText row := by
  have hsep : cellSeparator.toList = [';'] := rfl
  rw [entryText]
  split
  · rename_i hrow
    subst hrow
    rfl
  · rename_i hrow
    rw [← String.toList_inj, String.toList_append, Text.toList_join, hsep]
    exact (Row.toList_toLine_of_ne_nil ';' hrow).symm

theorem canonical_item (s : String) (v : Json) :
    (Json.object [("entry", .text s), ("result", v)]).canonical =
      .object [("entry", .text s), ("result", v.canonical)] := by
  have hless : ¬"result" < "entry" := by decide
  simp [Json.canonical, Json.canonicalFields, Json.sortFields, NameMap.ofList, NameMap.insertAll,
    NameMap.insert, NameMap.empty, NameMap.insertEntry, hless]

/-- The document for the table of a row. -/
def resultText (t : Table) : String := if Text.isBlank t.text then "null" else t.text

/-- The item for a row is an object with the row and the document. -/
theorem embeds_extendedItem {entry : Row × Table} {v : Json}
    (h : Embeds room (resultText entry.2).toList v) :
    Embeds (room + 1) (extendedItem entry).toList
      (.object [("entry", .text (entryText entry.1)), ("result", v)]) := by
  obtain ⟨hfits, ts, hscan, hread⟩ := h
  have hfields : ∀ f ∈ [("entry", Json.text (entryText entry.1)), ("result", v)], f.2.Fits room := by
    simp [hfits, Json.fits_text]
  have hchars : (extendedItem entry).toList = '\x7b' :: (Json.quoteChars "entry".toList ++
      ':' :: ' ' :: (Json.quoteChars (entryText entry.1).toList ++
        ',' :: ' ' :: (Json.quoteChars "result".toList ++
          ':' :: ' ' :: ((resultText entry.2).toList ++ ['\x7d'])))) := by
    have hentry : Json.quoteChars ['e', 'n', 't', 'r', 'y'] =
        ['\x22', 'e', 'n', 't', 'r', 'y', '\x22'] := by decide
    have hresult : Json.quoteChars ['r', 'e', 's', 'u', 'l', 't'] =
        ['\x22', 'r', 'e', 's', 'u', 'l', 't', '\x22'] := by decide
    simp [extendedItem, hentry, hresult, resultText, Json.quote, join_append_cellSeparator]
  refine ⟨Json.fits_object.2 ⟨room.succ_pos, hfields⟩,
    .openObject :: .quoted (some "entry") :: .colon :: .quoted (some (entryText entry.1)) ::
      .comma :: .quoted (some "result") :: .colon :: (ts ++ [.closeObject]), ?_,
    fun stack hstack rest => ?_⟩
  · rw [hchars]
    exact .mark rfl (.quoted _ (.mark rfl (.gap rfl (.quoted _ (.mark rfl (.gap rfl (.quoted _
      (.mark rfl (.gap rfl (hscan.append (by decide) (.mark rfl .nil)))))))))))
  · change Json.Cursor.run? ⟨.fields [("entry", .text (entryText entry.1))] (some "result") true ::
      stack, .value⟩ (ts ++ [.closeObject] ++ rest) = _
    rw [List.append_assoc, hread _ (by rw [List.length_cons]; omega),
      ← Json.Cursor.close_eq_deliver room.succ_pos hstack]
    rfl

variable {entries : List (Row × Table)}

/-- The documents of the rows stand for their values, blank ones left out. -/
theorem exists_values (h : ∀ e ∈ entries, e.2.HoldsDocument room) :
    ∃ values, values.map Json.canonical = entries.filterMap (fun e => readValue? e.2.text) ∧
      List.Forall₂ (Embeds room)
        (((entries.map fun e => e.2.text).filter fun text => !Text.isBlank text).map String.toList)
        values := by
  induction entries with
  | nil => exact ⟨[], rfl, .nil⟩
  | cons e entries ih =>
    obtain ⟨values, hvalues, hembeds⟩ := ih fun d hd => h d (List.mem_cons_of_mem _ hd)
    rcases (h e List.mem_cons_self).cases with ⟨hblank, hread⟩ | ⟨hblank, v, hread, hv⟩
    · refine ⟨values, by simp [hread, hvalues], ?_⟩
      rwa [List.map_cons, List.filter_cons_of_neg (by simp [hblank])]
    · refine ⟨v :: values, by simp [hread, hvalues], ?_⟩
      rw [List.map_cons, List.filter_cons_of_pos (by simp [hblank])]
      exact .cons hv hembeds

/-- The value of the item for a row, given the text for the row. -/
def itemValue (text : String) (t : Table) : Json :=
  .object [("entry", .text text), ("result", (readValue? t.text).getD .null)]

/-- The item for a row stands for an object with the row and the value of its document. -/
theorem exists_item {e : Row × Table} (h : e.2.HoldsDocument room) :
    ∃ v, Json.canonical v = itemValue (entryText e.1) e.2 ∧
      Embeds (room + 1) (extendedItem e).toList v := by
  rcases h.cases with ⟨hblank, hread⟩ | ⟨hblank, v, hread, hv⟩
  · have hnull : Embeds room (resultText e.2).toList .null := by
      rw [resultText, if_pos hblank]
      exact Json.embeds_of_read? rfl Json.fits_null
    refine ⟨_, ?_, embeds_extendedItem hnull⟩
    rw [canonical_item, itemValue, hread]
    rfl
  · have hresult : Embeds room (resultText e.2).toList v := by
      rwa [resultText, hblank]
    refine ⟨_, ?_, embeds_extendedItem hresult⟩
    rw [canonical_item, itemValue, hread]
    rfl

theorem exists_items (h : ∀ e ∈ entries, e.2.HoldsDocument room) :
    ∃ values, values.map Json.canonical = entries.map (fun e => itemValue (entryText e.1) e.2) ∧
      List.Forall₂ (Embeds (room + 1)) ((entries.map extendedItem).map String.toList) values := by
  induction entries with
  | nil => exact ⟨[], rfl, .nil⟩
  | cons e entries ih =>
    obtain ⟨values, hvalues, hembeds⟩ := ih fun d hd => h d (List.mem_cons_of_mem _ hd)
    obtain ⟨v, hv, hitem⟩ := exists_item (h e List.mem_cons_self)
    exact ⟨v :: values, by simp [hv, hvalues], .cons hitem hembeds⟩

theorem jsonArray_readValue? (h : ∀ e ∈ entries, e.2.HoldsDocument room)
    (hroom : room < depthLimit) :
    (merge entries .jsonArray).raw.bind readValue? =
      some (.array (entries.filterMap fun e => readValue? e.2.text)) := by
  obtain ⟨values, hvalues, hembeds⟩ := exists_values h
  rw [merge, raw_arrayTable_bind_readValue? hroom hembeds, hvalues]

theorem jsonArrayExtended_readValue? (h : ∀ e ∈ entries, e.2.HoldsDocument room)
    (hroom : room + 1 < depthLimit) :
    (merge entries .jsonArrayExtended).raw.bind readValue? =
      some (.array (entries.map fun e => itemValue (entryText e.1) e.2)) := by
  obtain ⟨values, hvalues, hembeds⟩ := exists_items h
  rw [merge, raw_arrayTable_bind_readValue? hroom hembeds, hvalues]

/-- Only a row without cells is not written as its line. -/
theorem entryText_eq_toLine_iff {row : Row} : entryText row = row.toLine cellSeparator ↔ row ≠ [] := by
  rw [entryText]
  split
  · rename_i hrow
    subst hrow
    exact iff_of_false (by decide) (by simp)
  · rename_i hrow
    exact iff_of_true rfl hrow

theorem itemValue_inj {a b : String} {t : Table} : itemValue a t = itemValue b t ↔ a = b := by
  simp [itemValue]

/-- **The documents of the rows are read back from one array**, whatever is written in the rows and
in the documents. As they are, those that are not blank are the items, in the order of the rows. With
their rows, each row has an object with its text and its value or null. The text of the row is its
line, every cell with the separator after it, exactly where the row has a cell: a row without cells
is written as one separator. -/
theorem arrays_read_back (h : ∀ e ∈ entries, e.2.HoldsDocument room) :
    (room < depthLimit →
      (merge entries .jsonArray).raw.bind readValue? =
        some (.array (entries.filterMap fun e => readValue? e.2.text))) ∧
    (room + 1 < depthLimit →
      (merge entries .jsonArrayExtended).raw.bind readValue? =
        some (.array (entries.map fun e => itemValue (entryText e.1) e.2)) ∧
      ((merge entries .jsonArrayExtended).raw.bind readValue? =
        some (.array (entries.map fun e => itemValue (e.1.toLine cellSeparator) e.2)) ↔
          ∀ e ∈ entries, e.1 ≠ [])) := by
  refine ⟨jsonArray_readValue? h, fun hroom => ?_⟩
  have hread := jsonArrayExtended_readValue? h hroom
  refine ⟨hread, ?_⟩
  rw [hread, Option.some_inj, Json.array.injEq, List.map_inj_left]
  simp only [itemValue_inj, entryText_eq_toLine_iff]

end EntryMerge

/-! ## Rows with quotes, and a row without cells -/

namespace QuotedRows

open EntryMerge

/-- The document of a disk, with gaps, brackets and quotes in it. -/
def document : String := " [\"],\x7b\", null ]\n"

/-- The value of the document. -/
def value : Json := .array [.text "],\x7b", .null]

/-- Two disks. The first answers with a document, the second with nothing. -/
def entries : List (Row × Table) := [(["a\"b", "\\;\n"], .ofRaw document), (["d1"], .empty)]

theorem read?_document : read? (Table.ofRaw document).text = some value := by
  have hchars : (Table.ofRaw document).text.toList =
      [' ', '[', '\x22', ']', ',', '\x7b', '\x22', ',', ' ', 'n', 'u', 'l', 'l', ' ', ']', '\n'] :=
    rfl
  rw [read?, hchars]
  rfl

theorem readValue?_document : readValue? (Table.ofRaw document).text = some value :=
  Json.readValue?_eq read?_document (by decide)

theorem holdsDocument : (Table.ofRaw document).HoldsDocument 1 :=
  .inr ⟨value, read?_document, by decide⟩

theorem holdDocuments : ∀ e ∈ entries, e.2.HoldsDocument 1 := by
  simp [entries, holdsDocument, Table.holdsDocument_of_isEmpty (t := .empty) rfl]

/-- Both arrays of the disks are read back. -/
theorem entries_read_back :
    (∀ e ∈ entries, e.2.HoldsDocument 1) ∧
      (merge entries .jsonArray).raw.bind readValue? = some (.array [value]) ∧
      (merge entries .jsonArrayExtended).raw.bind readValue? =
        some (.array [
          .object [("entry", .text "a\"b;\\;\n;"), ("result", value)],
          .object [("entry", .text "d1;"), ("result", .null)]]) := by
  obtain ⟨harray, hextended⟩ := arrays_read_back holdDocuments
  have hnone : readValue? Table.empty.text = none := rfl
  refine ⟨holdDocuments, (harray (by decide)).trans ?_,
    ((hextended (by decide)).2.2 (by simp [entries])).trans ?_⟩
  · simp [entries, readValue?_document, hnone]
  · have hlines : Row.toLine cellSeparator ["a\"b", "\\;\n"] = "a\"b;\\;\n;" ∧
        Row.toLine cellSeparator ["d1"] = "d1;" := ⟨rfl, rfl⟩
    simp [entries, itemValue, readValue?_document, hnone, hlines]

/-- A row without cells, for which there is a document. -/
def cellless : List (Row × Table) := [([], .ofRaw document)]

/-- The item for a row without cells has a separator that no cell stands before. -/
theorem cellless_not_line :
    (∀ e ∈ cellless, e.2.HoldsDocument 1) ∧
      (merge cellless .jsonArrayExtended).raw.bind readValue? ≠
        some (.array (cellless.map fun e => itemValue (e.1.toLine cellSeparator) e.2)) := by
  have hholds : ∀ e ∈ cellless, e.2.HoldsDocument 1 := List.forall_mem_singleton.2 holdsDocument
  have hne : entryText [] ≠ Row.toLine cellSeparator [] := by decide
  refine ⟨hholds, ?_⟩
  rw [jsonArrayExtended_readValue? hholds (by decide)]
  simp [cellless, itemValue_inj, hne]

end QuotedRows

end HardwareWatch
