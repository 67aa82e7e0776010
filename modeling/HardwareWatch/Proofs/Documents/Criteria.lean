import HardwareWatch.Connector.Criterion
import HardwareWatch.Proofs.Documents.Operators

/-!
# Criteria are read back

A criterion is read back from its document as it was written, as long as its numbers fit in 64-bit
words. Its position is not written.

* `Criterion.InWords` says that the numbers of a criterion fit.
* `Criterion.ofJson?_toJson` and `Criterion.inWords_of_ofJson?` are the two statements.
-/

namespace HardwareWatch

open Json FieldReader

variable {P : Nat → Prop} {room : Nat}

theorem DeviceKind.ofJson?_toJson (held : Bool) (kind : DeviceKind) :
    DeviceKind.ofJson? held kind.toJson = some kind :=
  kind.lookup_word

/-! ## Kinds -/

namespace CriterionKind

/-- The numbers in the details of a kind. -/
def numbers : CriterionKind → List Nat
  | commandLine c => c.timeout.toList
  | http _ | snmpGet _ | snmpGetNext _ | wmi _ | wbem _ | ipmi | sql .. | process _ | service _
  | deviceType .. | productRequirements .. => []

/-- The numbers of the kind fit in 64-bit words. -/
def InWords (kind : CriterionKind) : Prop := ∀ n ∈ kind.numbers, n < word64

theorem takes_snmpFields (make : SnmpCriterion → CriterionKind) (v : SnmpCriterion) :
    Takes [("oid", .text v.oid), ("expectedResult", ofText? v.expectedResult)] (snmpFields make)
      (make v) :=
  .bind (takes_required rfl rfl) <|
    .bind (takes_optional rfl (nullable?_ofText? v.expectedResult)) takes_pure

theorem takes_queryFields (make : QueryCriterion → CriterionKind) (q : QueryCriterion) :
    Takes (queryContent q) (queryFields make) (make q) :=
  .bind (takes_required rfl rfl) <| .bind (takes_optional rfl (nullable?_ofText? q.nameSpace)) <|
    .bind (takes_optional rfl (nullable?_ofText? q.expectedResult)) <|
      .bind (takes_optional rfl (nullable?_ofText? q.errorMessage)) takes_pure

theorem takes_content (kind : CriterionKind) (h : kind.InWords) :
    Takes kind.content (fields kind.type.word) kind := by
  cases kind with
  | http r =>
    exact .bind (takes_withDefault rfl rfl) <|
      .bind (takes_optional rfl (nullable?_ofText? r.url)) <|
        .bind (takes_optional rfl (nullable?_ofText? r.path)) <|
          .bind (takes_optional rfl (nullable?_ofText? r.header)) <|
            .bind (takes_optional rfl (nullable?_ofText? r.body)) <|
              .bind (takes_optional rfl (nullable?_ofText? r.expectedResult)) <|
                .bind (takes_optional rfl (nullable?_ofText? r.errorMessage)) takes_pure
  | snmpGet v => exact takes_snmpFields .snmpGet v
  | snmpGetNext v => exact takes_snmpFields .snmpGetNext v
  | wmi q => exact takes_queryFields .wmi q
  | wbem q => exact takes_queryFields .wbem q
  | commandLine c =>
    have htimeout : ∀ n ∈ c.timeout, n < word64 := fun n hn => h n (Option.mem_toList.2 hn)
    exact .bind (takes_required rfl rfl) <| .bind (takes_withDefault rfl rfl) <|
      .bind (takes_optional rfl (nullable?_ofText? c.expectedResult)) <|
        .bind (takes_optional rfl (nullable?_ofText? c.errorMessage)) <|
          .bind (takes_optional rfl (nullable?_ofNat? htimeout)) takes_pure
  | ipmi => exact takes_pure
  | sql query expectedResult =>
    exact .bind (takes_required rfl rfl) <|
      .bind (takes_optional rfl (nullable?_ofText? expectedResult)) takes_pure
  | process command => exact .bind (takes_required rfl rfl) takes_pure
  | service name => exact .bind (takes_required rfl rfl) takes_pure
  | deviceType keep exclude =>
    have kinds (l : List DeviceKind) :
        list? (DeviceKind.ofJson? true) (.array (l.map DeviceKind.toJson)) = some l :=
      list?_map fun kind _ => kind.ofJson?_toJson true
    exact .bind (takes_withDefault rfl (kinds keep)) <|
      .bind (takes_withDefault rfl (kinds exclude)) takes_pure
  | productRequirements engineVersion kbVersion =>
    exact .bind (takes_optional rfl (nullable?_ofText? engineVersion)) <|
      .bind (takes_optional rfl (nullable?_ofText? kbVersion)) takes_pure

theorem plain_kinds (l : List DeviceKind) :
    Plain P (room + 1) (.array (l.map DeviceKind.toJson)) :=
  plain_map fun _ _ => trivial

theorem plain_content (kind : CriterionKind) (h : ∀ n ∈ kind.numbers, P n) :
    ∀ f ∈ kind.content, Plain P (room + 1) f.2 := by
  cases kind with
  | deviceType keep exclude => simp [content, plain_kinds]
  | _ => simp_all [numbers, content, queryContent, Plain, plain_ofText?, plain_ofNat?]

/-- No field of a kind has a name that all criteria have. -/
theorem notMem_content {kind : CriterionKind} {name : String}
    (h : name = tagName ∨ name = "forceSerialization") : name ∉ kind.content.map Prod.fst := by
  rcases h with rfl | rfl <;> cases kind <;> simp [content, queryContent, tagName]

theorem yields_fields (kind : String) : Yields InWords (fields kind) := by
  have none {kind : CriterionKind} (h : kind.numbers = []) : Yields InWords (pure kind) :=
    yields_pure (by simp [InWords, h])
  unfold fields
  split
  any_goals exact yields_step fun _ => none rfl
  any_goals exact yields_step fun _ => yields_step fun _ => none rfl
  any_goals exact yields_step fun _ => yields_step fun _ => yields_step fun _ =>
    yields_step fun _ => none rfl
  · exact yields_step fun _ => yields_step fun _ => yields_step fun _ => yields_step fun _ =>
      yields_step fun _ => yields_step fun _ => yields_step fun _ => none rfl
  · exact yields_step fun _ => yields_step fun _ => yields_step fun _ => yields_step fun _ =>
      .bind (yields_optional fun _ _ => lt_of_nat?) fun _ htimeout =>
        yields_pure fun n hn => htimeout n (Option.mem_toList.1 hn)
  · exact none rfl
  · exact yields_failure

end CriterionKind

/-! ## Criteria -/

namespace Criterion

/-- The numbers of the criterion fit in 64-bit words. -/
def InWords (c : Criterion) : Prop := c.kind.InWords

/-- The field that all criteria have as it is written. -/
def commonContent (c : Criterion) : List (String × Json) :=
  [("forceSerialization", .bool c.forceSerialization)]

/-- The kind and its fields as they are written. -/
def kindContent (c : Criterion) : List (String × Json) :=
  (tagName, .text c.type.word) :: c.kind.content

theorem toJson_eq (c : Criterion) : c.toJson = .object (c.commonContent ++ c.kindContent) := rfl

theorem plain_kindContent {c : Criterion} (h : ∀ n ∈ c.kind.numbers, P n) :
    ∀ f ∈ c.kindContent, Plain P (room + 1) f.2 := by
  intro f hf
  rcases List.mem_cons.1 hf with rfl | hf
  · trivial
  · exact c.kind.plain_content h f hf

theorem plain_toJson {c : Criterion} (h : ∀ n ∈ c.kind.numbers, P n) :
    Plain P (room + 2) c.toJson := by
  rw [toJson_eq]
  refine plain_object fun f hf => ?_
  rcases List.mem_append.1 hf with hf | hf
  · rw [List.mem_singleton.1 hf]
    trivial
  · exact plain_kindContent h f hf

theorem notMem_kindContent (c : Criterion) : "forceSerialization" ∉ c.kindContent.map Prod.fst := by
  rw [kindContent, List.map_cons, List.mem_cons, not_or]
  exact ⟨by simp [tagName], CriterionKind.notMem_content (.inr rfl)⟩

/-- A criterion is read back as it was written, but for its position. -/
theorem ofJson?_toJson {c : Criterion} (h : c.InWords) :
    ofJson? c.toJson = some { c with position := 0 } := by
  have hforced : Takes (c.commonContent ++ c.kindContent)
      (withDefault "forceSerialization" false bool?) c.forceSerialization :=
    takes_withDefault (v := .bool c.forceSerialization)
      (filter_name_append c.notMem_kindContent) rfl
  have hheld : heldBack? ["forceSerialization"] (c.commonContent ++ c.kindContent) =
      some c.kindContent := by
    refine heldBack?_append c.commonContent (by simp [commonContent])
      (fun f hf hname => ?_) (areFieldsReadable_of_plain 1 (plain_kindContent h))
    exact c.notMem_kindContent (List.mem_singleton.1 hname ▸ List.mem_map_of_mem hf)
  have htagged : taggedFields? CriterionKind.names true c.kindContent =
      some (c.type.word, .named c.kind.content) :=
    taggedFields?_cons (CriterionKind.notMem_content (.inl rfl))
  have hfields : Record.read? (CriterionKind.fields c.type.word) (.named c.kind.content) =
      some c.kind :=
    (c.kind.takes_content h).read?
  rw [toJson_eq, ofJson?, object?]
  simp [hforced.read?, hheld, htagged, hfields]

/-- The numbers of a criterion that was read fit in 64-bit words, and it is the first of its
connector as far as its document says. -/
theorem inWords_of_ofJson? {v : Json} {c : Criterion} (h : ofJson? v = some c) :
    c.position = 0 ∧ c.InWords := by
  cases v with
  | object fields =>
    obtain ⟨forced, -, h⟩ := Option.bind_eq_some_iff.1 h
    obtain ⟨rest, -, h⟩ := Option.bind_eq_some_iff.1 h
    obtain ⟨⟨kind, record⟩, -, h⟩ := Option.bind_eq_some_iff.1 h
    obtain ⟨details, hdetails, rfl⟩ := Option.map_eq_some_iff.1 h
    exact ⟨rfl, (CriterionKind.yields_fields kind).of_read? hdetails⟩
  | _ => cases h

end Criterion

end HardwareWatch
