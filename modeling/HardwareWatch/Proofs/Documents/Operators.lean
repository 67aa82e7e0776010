import HardwareWatch.Operator.Document
import HardwareWatch.Proofs.Json.Shapes

/-!
# Operators are read back

An operator is read back from its document as it was written, whether or not the document is held
back, as long as its numbers fit in 64-bit words. The numbers of an operator that was read do.

* `Operator.numbers` are the numbers in an operator; `Operator.InWords` says that they fit.
* `Operator.ofJson?_toJson` and `Operator.inWords_of_ofJson?` are the two statements.
-/

namespace HardwareWatch

open Json FieldReader

variable {P : Nat → Prop} {room : Nat}

namespace TranslationRef

theorem ofJson?_toJson (t : TranslationRef) : ofJson? t.toJson = some t := by
  cases t with
  | named name => rfl
  | inline table =>
    have hread : map? text? (ofMap .text table) = some table := map?_ofMap fun _ _ => rfl
    rw [toJson, ofJson?, hread]
    rfl

theorem plain_toJson (t : TranslationRef) : Plain P (room + 1) t.toJson := by
  cases t with
  | named name => trivial
  | inline table => exact plain_ofMap fun _ _ => trivial

end TranslationRef

namespace Operator

/-- The numbers in an operator: columns and the numbers of fields. -/
def numbers : Operator → List Nat
  | arithmetic _ column _ | bitwise _ column _ | substring column .. | translate column _
  | arrayTranslate column .. | duplicateColumn column | concat _ column _ | replace column ..
  | pathProperty column _ | convert column _ | perBitTranslation column .. => [column]
  | lines _ column .. => column.toList
  | extract column field _ => [column, field]
  | keepColumns _ | fromJson .. | fromXml .. | awk _ => []

/-- The numbers of the operator fit in 64-bit words. -/
def InWords (op : Operator) : Prop := ∀ n ∈ op.numbers, n < word64

/-! ## Reading back -/

theorem word64?_ofNat {n : Nat} (h : n < word64) : Json.word64? (ofNat n) = some n := nat?_ofNat h

theorem takes_columnValue {make : Nat → String → Operator} {column : Nat} {value : String}
    (h : column < word64) :
    Takes [("column", .ofNat column), ("value", .text value)] (columnValue make)
      (make column value) :=
  .bind (takes_required rfl (word64?_ofNat h)) <| .bind (takes_required rfl rfl) takes_pure

theorem takes_lineFields {filter : LineFilter} {column : Option Nat} {pattern values : Option String}
    (h : ∀ n ∈ column, n < word64) :
    Takes (content (.lines filter column pattern values)) (lineFields filter)
      (.lines filter column pattern values) :=
  .bind (takes_optional rfl (nullable?_ofNat? h)) <|
    .bind (takes_optional rfl (nullable?_ofText? _)) <|
      .bind (takes_optional rfl (nullable?_ofText? _)) takes_pure

theorem takes_content (op : Operator) (h : op.InWords) :
    Takes op.content (fields op.name) op := by
  have first {column : Nat} {more : List Nat} (hn : op.numbers = column :: more) :
      Json.word64? (ofNat column) = some column :=
    word64?_ofNat (h column (hn ▸ List.mem_cons_self))
  cases op with
  | arithmetic op column operand =>
    cases op <;> exact takes_columnValue (h column List.mem_cons_self)
  | bitwise op column operand =>
    cases op <;> exact takes_columnValue (h column List.mem_cons_self)
  | concat side column value =>
    cases side <;> exact takes_columnValue (h column List.mem_cons_self)
  | lines filter column pattern values =>
    cases filter <;> exact takes_lineFields fun n hn => h n (Option.mem_toList.2 hn)
  | substring column start length =>
    exact .bind (takes_required rfl (first rfl)) <| .bind (takes_required rfl rfl) <|
      .bind (takes_required rfl rfl) takes_pure
  | translate column table =>
    exact .bind (takes_required rfl (first rfl)) <|
      .bind (takes_required rfl table.ofJson?_toJson) takes_pure
  | arrayTranslate column table separator joiner =>
    exact .bind (takes_required rfl (first rfl)) <|
      .bind (takes_required rfl table.ofJson?_toJson) <|
        .bind (takes_optional rfl (nullable?_ofText? separator)) <|
          .bind (takes_optional rfl (nullable?_ofText? joiner)) takes_pure
  | duplicateColumn column => exact .bind (takes_required rfl (first rfl)) takes_pure
  | replace column old new =>
    exact .bind (takes_required rfl (first rfl)) <| .bind (takes_required rfl rfl) <|
      .bind (takes_required rfl rfl) takes_pure
  | extract column field separators =>
    have hfield : field < word64 := h field (List.mem_cons_of_mem _ List.mem_cons_self)
    exact .bind (takes_required rfl (first rfl)) <|
      .bind (takes_required rfl (word64?_ofNat hfield)) <| .bind (takes_required rfl rfl) takes_pure
  | pathProperty column property =>
    exact .bind (takes_required rfl (first rfl)) <| .bind (takes_required rfl rfl) takes_pure
  | keepColumns columns => exact .bind (takes_required rfl rfl) takes_pure
  | convert column conversion =>
    cases conversion <;>
      exact .bind (takes_required rfl (first rfl)) <| .bind (takes_required rfl rfl) takes_pure
  | perBitTranslation column bits table =>
    exact .bind (takes_required rfl (first rfl)) <| .bind (takes_required rfl rfl) <|
      .bind (takes_required rfl table.ofJson?_toJson) takes_pure
  | fromJson entryKey properties separator =>
    exact .bind (takes_required rfl rfl) <|
      .bind (takes_optional rfl (nullable?_ofText? properties)) <|
        .bind (takes_optional rfl (nullable?_ofText? separator)) takes_pure
  | fromXml recordTag properties =>
    exact .bind (takes_required rfl rfl) <| .bind (takes_required rfl rfl) takes_pure
  | awk call =>
    exact .bind (takes_required rfl rfl) <|
      .bind (takes_optional rfl (nullable?_ofText? call.exclude)) <|
        .bind (takes_optional rfl (nullable?_ofText? call.keep)) <|
          .bind (takes_optional rfl (nullable?_ofText? call.separators)) <|
            .bind (takes_optional rfl (nullable?_ofText? call.selectColumns)) takes_pure

/-- No field of an operator has the name of the field with the kind. -/
theorem tagName_notMem_content (op : Operator) : tagName ∉ op.content.map Prod.fst := by
  cases op <;> simp [content, tagName]

theorem plain_content (op : Operator) (h : ∀ n ∈ op.numbers, P n) :
    ∀ f ∈ op.content, Plain P (room + 1) f.2 := by
  cases op <;>
    simp_all [numbers, content, Plain, plain_ofNat, plain_ofText?, plain_ofNat?,
      TranslationRef.plain_toJson]

theorem plain_toJson {op : Operator} (h : ∀ n ∈ op.numbers, P n) :
    Plain P (room + 2) op.toJson := by
  refine plain_object fun f hf => ?_
  rcases List.mem_cons.1 hf with rfl | hf
  · trivial
  · exact op.plain_content h f hf

/-- An operator is read back as it was written. -/
theorem ofJson?_toJson {op : Operator} (h : op.InWords) (held : Bool) :
    ofJson? held op.toJson = some op := by
  have hplain : Plain (· < word64) (0 + 2) op.toJson := plain_toJson h
  rw [ofJson?, toJson, tagged?_object op.tagName_notMem_content (Plain.isReadable _ hplain)]
  exact (op.takes_content h).read?

/-! ## Bounds of what is read -/

theorem inWords_of_numbers_eq_nil {op : Operator} (h : op.numbers = []) : InWords op := by
  simp [InWords, h]

theorem inWords_of_numbers_eq_singleton {op : Operator} {n : Nat} (h : op.numbers = [n])
    (hn : n < word64) : InWords op := by
  simpa [InWords, h] using hn

/-- A reader that asks for a column, and then for what makes an operator on it. -/
theorem yields_onColumn {rest : Nat → FieldReader Operator}
    (h : ∀ column, column < word64 → Yields InWords (rest column)) :
    Yields InWords (required "column" Json.word64? >>= rest) :=
  .bind (yields_required fun _ _ => lt_of_nat?) h

theorem yields_columnValue {make : Nat → String → Operator}
    (h : ∀ column value, (make column value).numbers = [column]) :
    Yields InWords (columnValue make) :=
  yields_onColumn fun _ hc => yields_step fun _ =>
    yields_pure (inWords_of_numbers_eq_singleton (h _ _) hc)

theorem yields_lineFields (filter : LineFilter) : Yields InWords (lineFields filter) :=
  .bind (yields_optional fun _ _ => lt_of_nat?) fun _ hc =>
    yields_step fun _ => yields_step fun _ =>
      yields_pure fun n hn => hc n (Option.mem_toList.1 hn)

theorem yields_fields (kind : String) : Yields InWords (fields kind) := by
  have one {op : Operator} {column : Nat} (h : op.numbers = [column]) (hc : column < word64) :
      Yields InWords (pure op) :=
    yields_pure (inWords_of_numbers_eq_singleton h hc)
  have none {op : Operator} (h : op.numbers = []) : Yields InWords (pure op) :=
    yields_pure (inWords_of_numbers_eq_nil h)
  unfold fields
  split
  any_goals exact yields_columnValue fun _ _ => rfl
  any_goals exact yields_lineFields _
  · exact yields_onColumn fun _ hc => yields_step fun _ => yields_step fun _ => one rfl hc
  · exact yields_onColumn fun _ hc => yields_step fun _ => one rfl hc
  · exact yields_onColumn fun _ hc => yields_step fun _ => yields_step fun _ =>
      yields_step fun _ => one rfl hc
  · exact yields_onColumn fun _ hc => one rfl hc
  · exact yields_onColumn fun _ hc => yields_step fun _ => yields_step fun _ => one rfl hc
  -- An operator with two numbers.
  · refine yields_onColumn fun column hc =>
      .bind (yields_required fun _ _ => lt_of_nat?) fun field hf => yields_step fun _ =>
        yields_pure fun n hn => ?_
    rcases List.mem_cons.1 hn with rfl | hn
    · exact hc
    · exact List.mem_singleton.1 hn ▸ hf
  · exact yields_onColumn fun _ hc => yields_step fun _ => one rfl hc
  · exact yields_step fun _ => none rfl
  · exact yields_onColumn fun _ hc => yields_step fun _ => one rfl hc
  · exact yields_onColumn fun _ hc => yields_step fun _ => yields_step fun _ => one rfl hc
  · exact yields_step fun _ => yields_step fun _ => yields_step fun _ => none rfl
  · exact yields_step fun _ => yields_step fun _ => none rfl
  · exact yields_step fun _ => yields_step fun _ => yields_step fun _ => yields_step fun _ =>
      yields_step fun _ => none rfl
  · exact yields_failure

/-- The numbers of an operator that was read fit in 64-bit words. -/
theorem inWords_of_ofJson? {held : Bool} {v : Json} {op : Operator} (h : ofJson? held v = some op) :
    op.InWords := by
  obtain ⟨⟨kind, record⟩, -, hread⟩ := Option.bind_eq_some_iff.1 h
  exact (yields_fields kind).of_read? hread

end Operator

end HardwareWatch
