import HardwareWatch.Json.Shape
import HardwareWatch.Proofs.Json.Scanning

/-!
# Shapes that are written and read

Each shape that definitions have in a document is read back as what was written, and what a reader
gives keeps to the bounds of the reader.

* `Json.list?_map`, `Json.map?_ofMap` and `Json.nullable?_ofOption` read back lists, maps and values
  that may be missing.
* `Json.FieldReader.Takes` says what a reader takes from the fields of an object,
  `Json.FieldReader.Yields` what holds of everything that it gives. Both have one rule for each way
  to ask for a field.
-/

namespace HardwareWatch.Json

variable {α β : Type}

/-! ## Plain values -/

section Plain

variable {P : Nat → Prop} {room : Nat}

mutual

/-- A plain value has no part without a value. -/
theorem Plain.isReadable (v : Json) {room : Nat} (h : Plain P room v) : v.isReadable := by
  match v with
  | .null | .bool _ | .integer _ | .text _ => rfl
  | .double _ | .unreadable => exact h.elim
  | .array items => exact PlainItems.areReadable items h.2
  | .object fields => exact PlainFields.areFieldsReadable fields h.2

theorem PlainItems.areReadable (items : List Json) {room : Nat} (h : PlainItems P room items) :
    areReadable items := by
  match items with
  | [] => rfl
  | v :: rest =>
    rw [Json.areReadable, Plain.isReadable v h.1, PlainItems.areReadable rest h.2]
    rfl

theorem PlainFields.areFieldsReadable (fields : List (String × Json)) {room : Nat}
    (h : PlainFields P room fields) : areFieldsReadable fields := by
  match fields with
  | [] => rfl
  | (_, v) :: rest =>
    rw [Json.areFieldsReadable, Plain.isReadable v h.1, PlainFields.areFieldsReadable rest h.2]
    rfl

end

theorem areFieldsReadable_of_plain {fields : List (String × Json)} (room : Nat)
    (h : ∀ f ∈ fields, Plain P room f.2) : areFieldsReadable fields :=
  PlainFields.areFieldsReadable fields (plainFields_iff.2 h)

theorem plain_ofNat {n : Nat} (h : P n) : Plain P room (ofNat n) := ⟨n, rfl, h⟩

theorem plain_ofOption {write : α → Json} {a : Option α} (h : ∀ x ∈ a, Plain P room (write x)) :
    Plain P room (ofOption write a) := by
  cases a with
  | none => trivial
  | some x => exact h x rfl

theorem plain_ofText? (s : Option String) : Plain P room (ofText? s) :=
  plain_ofOption fun _ _ => trivial

theorem plain_ofNat? {n : Option Nat} (h : ∀ m ∈ n, P m) : Plain P room (ofNat? n) :=
  plain_ofOption fun m hm => plain_ofNat (h m hm)

theorem plain_map {write : α → Json} {l : List α} (h : ∀ a ∈ l, Plain P room (write a)) :
    Plain P (room + 1) (.array (l.map write)) :=
  plain_array (List.forall_mem_map.2 h)

theorem plain_ofTexts (texts : List String) : Plain P (room + 1) (ofTexts texts) :=
  plain_map fun _ _ => trivial

theorem plain_ofMap {write : α → Json} {m : NameMap α}
    (h : ∀ e ∈ m.toList, Plain P room (write e.2)) : Plain P (room + 1) (ofMap write m) :=
  plain_object (List.forall_mem_map.2 h)

end Plain

/-! ## Reading back -/

theorem nat?_ofNat {bound n : Nat} (h : n < bound) : nat? bound (ofNat n) = some n := if_pos h

/-- What is written for a value is not taken for a missing one. -/
theorem nullable?_ofOption {read : Json → Option α} {write : α → Json} {a : Option α}
    (hnull : ∀ x, write x ≠ .null) (h : ∀ x ∈ a, read (write x) = some x) :
    nullable? read (ofOption write a) = some a := by
  cases a with
  | none => rfl
  | some x =>
    have hx : read (write x) = some x := h x rfl
    rw [ofOption, nullable?.eq_def]
    split
    · rename_i he
      exact absurd he (hnull x)
    · rw [hx]
      rfl

theorem nullable?_ofText? (s : Option String) : nullable? text? (ofText? s) = some s :=
  nullable?_ofOption (fun _ => nofun) fun _ _ => rfl

theorem nullable?_ofNat? {bound : Nat} {n : Option Nat} (h : ∀ m ∈ n, m < bound) :
    nullable? (nat? bound) (ofNat? n) = some n :=
  nullable?_ofOption (fun _ => nofun) fun m hm => nat?_ofNat (h m hm)

theorem list?_map {read : Json → Option α} {write : α → Json} {l : List α}
    (h : ∀ a ∈ l, read (write a) = some a) : list? read (.array (l.map write)) = some l := by
  rw [list?]
  induction l with
  | nil => rfl
  | cons a l ih =>
    rw [List.map_cons, List.mapM_cons, h a List.mem_cons_self,
      ih fun b hb => h b (List.mem_cons_of_mem _ hb)]
    rfl

theorem list?_ofTexts (texts : List String) : list? text? (ofTexts texts) = some texts :=
  list?_map fun _ _ => rfl

theorem map?_ofMap {read : Json → Option α} {write : α → Json} {m : NameMap α}
    (h : ∀ e ∈ m.toList, read (write e.2) = some e.2) : map? read (ofMap write m) = some m := by
  have hentries : (m.toList.map fun e => (e.1, write e.2)).mapM
      (fun f => (read f.2).map fun a => (f.1, a)) = some m.toList := by
    revert h
    generalize m.toList = entries
    intro h
    induction entries with
    | nil => rfl
    | cons e entries ih =>
      rw [List.map_cons, List.mapM_cons, h e List.mem_cons_self,
        ih fun f hf => h f (List.mem_cons_of_mem _ hf)]
      rfl
  rw [ofMap, map?, hentries, Option.map_some, NameMap.ofList_toList]

/-! ## Bounds of what is read -/

theorem exists_of_mem_mapM {f : α → Option β} {l : List α} {l' : List β} (h : l.mapM f = some l')
    {b : β} (hb : b ∈ l') : ∃ a ∈ l, f a = some b := by
  induction l generalizing l' with
  | nil =>
    cases h
    cases hb
  | cons a l ih =>
    rw [List.mapM_cons] at h
    obtain ⟨b', hb', h⟩ := Option.bind_eq_some_iff.1 h
    obtain ⟨more, hmore, h⟩ := Option.bind_eq_some_iff.1 h
    cases h
    rcases List.mem_cons.1 hb with rfl | hb
    · exact ⟨a, List.mem_cons_self, hb'⟩
    · obtain ⟨x, hx, he⟩ := ih hmore hb
      exact ⟨x, List.mem_cons_of_mem _ hx, he⟩

theorem lt_of_nat? {bound n : Nat} {v : Json} (h : nat? bound v = some n) : n < bound := by
  rw [nat?.eq_def] at h
  split at h
  · split at h
    · rename_i hm
      exact Option.some.inj h ▸ hm
    · cases h
  · cases h

theorem forall_of_list? {Q : α → Prop} {read : Json → Option α}
    (hread : ∀ w a, read w = some a → Q a) {v : Json} {l : List α} (h : list? read v = some l) :
    ∀ a ∈ l, Q a := by
  intro a ha
  cases v with
  | array items =>
    obtain ⟨w, -, hw⟩ := exists_of_mem_mapM h ha
    exact hread w a hw
  | _ => cases h

theorem forall_of_map? {Q : α → Prop} {read : Json → Option α}
    (hread : ∀ w a, read w = some a → Q a) {v : Json} {m : NameMap α} (h : map? read v = some m) :
    ∀ e ∈ m.toList, Q e.2 := by
  intro e he
  cases v with
  | object fields =>
    obtain ⟨entries, hentries, rfl⟩ := Option.map_eq_some_iff.1 h
    obtain ⟨f, -, hf⟩ := exists_of_mem_mapM hentries (NameMap.mem_of_mem_toList_ofList he)
    obtain ⟨a, ha, rfl⟩ := Option.map_eq_some_iff.1 hf
    exact hread f.2 a ha
  | _ => cases h

theorem forall_of_nullable? {Q : α → Prop} {read : Json → Option α}
    (hread : ∀ w a, read w = some a → Q a) {v : Json} {o : Option α}
    (h : nullable? read v = some o) : ∀ a ∈ o, Q a := by
  rintro a rfl
  rw [nullable?.eq_def] at h
  split at h
  · cases h
  · obtain ⟨b, hb, he⟩ := Option.map_eq_some_iff.1 h
    cases he
    exact hread v a hb

namespace FieldReader

/-! ## What a reader takes from named fields -/

/-- The reader takes `a` from the fields, all of which stay. -/
def Takes (fields : List (String × Json)) (reader : FieldReader α) (a : α) : Prop :=
  reader (.named fields) = some (a, .named fields)

section Takes

variable {fields : List (String × Json)} {name : String} {v : Json} {read : Json → Option α}
  {a : α}

theorem takes_pure : Takes fields (pure a) a := rfl

theorem Takes.bind {x : FieldReader α} {f : α → FieldReader β} {b : β} (hx : Takes fields x a)
    (hf : Takes fields (f a) b) : Takes fields (x >>= f) b := by
  change (x (.named fields)).bind _ = _
  rw [show x (.named fields) = _ from hx]
  exact hf

theorem takes_lift {o : Option α} (h : o = some a) : Takes fields (liftM o) a := by
  rw [h]
  rfl

theorem takes_value? (h : fields.filter (·.1 = name) = [(name, v)]) :
    Takes fields (value? name) (some v) := by
  simp only [Takes, value?, h]

theorem takes_required (h : fields.filter (·.1 = name) = [(name, v)]) (hr : read v = some a) :
    Takes fields (required name read) a :=
  (takes_value? h).bind (takes_lift hr)

theorem takes_withDefault {default : α} (h : fields.filter (·.1 = name) = [(name, v)])
    (hr : read v = some a) : Takes fields (withDefault name default read) a :=
  (takes_value? h).bind (takes_lift hr)

theorem takes_optional {a : Option α} (h : fields.filter (·.1 = name) = [(name, v)])
    (hr : nullable? read v = some a) : Takes fields (optional name read) a :=
  takes_withDefault h hr

end Takes

theorem Takes.read? {fields : List (String × Json)} {reader : FieldReader α} {a : α}
    (h : Takes fields reader a) : Record.read? reader (.named fields) = some a := by
  rw [Record.read?, h]

theorem Takes.record? {fields : List (String × Json)} {reader : FieldReader α} {a : α}
    (h : Takes fields reader a) : record? reader (.object fields) = some a :=
  h.read?

/-! ## What holds of everything a reader gives -/

/-- Everything that the reader gives has the property. -/
def Yields (Q : α → Prop) (reader : FieldReader α) : Prop :=
  ∀ record a rest, reader record = some (a, rest) → Q a

section Yields

variable {Q : α → Prop} {R : β → Prop} {name : String} {read : Json → Option α}

theorem yields_pure {a : α} (h : Q a) : Yields Q (pure a) := by
  intro record b rest hb
  cases hb
  exact h

theorem yields_failure : Yields Q failure := nofun

theorem Yields.bind {x : FieldReader α} {f : α → FieldReader β} (hx : Yields Q x)
    (hf : ∀ a, Q a → Yields R (f a)) : Yields R (x >>= f) := by
  intro record b rest h
  obtain ⟨⟨a, middle⟩, ha, hb⟩ := Option.bind_eq_some_iff.1 h
  exact hf a (hx record a middle ha) middle b rest hb

/-- A step of which nothing is needed. -/
theorem yields_step {x : FieldReader α} {f : α → FieldReader β} (hf : ∀ a, Yields R (f a)) :
    Yields R (x >>= f) :=
  Yields.bind (Q := fun _ => True) (fun _ _ _ _ => trivial) fun a _ => hf a

theorem yields_lift {o : Option α} (h : ∀ a, o = some a → Q a) : Yields Q (liftM o) := by
  intro record a rest ha
  obtain ⟨b, hb, he⟩ := Option.bind_eq_some_iff.1 ha
  cases he
  exact h a hb

theorem yields_required (h : ∀ v a, read v = some a → Q a) : Yields Q (required name read) := by
  refine yields_step fun found => ?_
  cases found with
  | none => exact yields_failure
  | some v => exact yields_lift (h v)

theorem yields_withDefault {default : α} (hdefault : Q default)
    (h : ∀ v a, read v = some a → Q a) : Yields Q (withDefault name default read) := by
  refine yields_step fun found => ?_
  cases found with
  | none => exact yields_pure hdefault
  | some v => exact yields_lift (h v)

theorem yields_optional (h : ∀ v a, read v = some a → Q a) :
    Yields (fun o : Option α => ∀ a ∈ o, Q a) (optional name read) := by
  have hnull : ∀ v o, nullable? read v = some o → ∀ a ∈ o, Q a := fun v o =>
    forall_of_nullable? h
  intro record
  cases record with
  | named fields => exact yields_withDefault nofun hnull (.named fields)
  | listed items => exact yields_required hnull (.listed items)

theorem Yields.of_read? {reader : FieldReader α} (h : Yields Q reader) {record : Record} {a : α}
    (ha : Record.read? reader record = some a) : Q a := by
  rw [Record.read?] at ha
  split at ha
  · cases ha
    exact h _ _ _ (by assumption)
  · cases ha
    exact h _ _ _ (by assumption)
  · cases ha

theorem Yields.of_record? {reader : FieldReader α} (h : Yields Q reader) {v : Json} {a : α}
    (ha : record? reader v = some a) : Q a := by
  cases v with
  | object fields => exact h.of_read? ha
  | array items => exact h.of_read? ha
  | _ => cases ha

end Yields

end FieldReader

/-! ## Records in parts -/

section Parts

variable {fields rest : List (String × Json)} {name : String}

theorem filter_name_eq_nil (h : name ∉ fields.map Prod.fst) :
    fields.filter (·.1 = name) = [] := by
  refine List.filter_eq_nil_iff.2 fun f hf => ?_
  simpa using fun he : f.1 = name => h (he ▸ List.mem_map_of_mem hf)

/-- A field is not among fields with other names. -/
theorem filter_name_append (h : name ∉ rest.map Prod.fst) :
    (fields ++ rest).filter (·.1 = name) = fields.filter (·.1 = name) := by
  rw [List.filter_append, filter_name_eq_nil h, List.append_nil]

/-- What is held back are the fields behind those with names of their own. -/
theorem heldBack?_append {known : List String} (fields : List (String × Json)) (hfields : ∀ f ∈ fields, f.1 ∈ known)
    (hrest : ∀ f ∈ rest, f.1 ∉ known) (h : areFieldsReadable rest) :
    heldBack? known (fields ++ rest) = some rest := by
  have hdrop : fields.filter (fun f => !known.contains f.1) = [] :=
    List.filter_eq_nil_iff.2 fun f hf => by simpa using hfields f hf
  have hkeep : rest.filter (fun f => !known.contains f.1) = rest :=
    List.filter_eq_self.2 fun f hf => by simpa using hrest f hf
  rw [heldBack?, List.filter_append, hdrop, hkeep, List.nil_append, if_pos h]

/-- A record that names its kind is told apart from its fields. -/
theorem taggedFields?_cons {kinds : List String} {held : Bool} {kind : String}
    (h : tagName ∉ fields.map Prod.fst) :
    taggedFields? kinds held ((tagName, .text kind) :: fields) = some (kind, .named fields) := by
  have htag : ((tagName, Json.text kind) :: fields).filter (·.1 = tagName) =
      [(tagName, .text kind)] := by
    rw [List.filter_cons_of_pos (by simp), filter_name_eq_nil h]
  have hothers : ((tagName, Json.text kind) :: fields).filter (·.1 ≠ tagName) = fields := by
    rw [List.filter_cons_of_neg (by simp)]
    refine List.filter_eq_self.2 fun f hf => ?_
    simpa using fun he : f.1 = tagName => h (he ▸ List.mem_map_of_mem hf)
  rw [taggedFields?, htag, hothers]
  rfl

theorem tagged?_object {kinds : List String} {held : Bool} {kind : String}
    (h : tagName ∉ fields.map Prod.fst)
    (hread : (Json.object ((tagName, .text kind) :: fields)).isReadable) :
    tagged? kinds held (.object ((tagName, .text kind) :: fields)) =
      some (kind, .named fields) := by
  rw [tagged?, hread]
  exact taggedFields?_cons h

end Parts

end HardwareWatch.Json
