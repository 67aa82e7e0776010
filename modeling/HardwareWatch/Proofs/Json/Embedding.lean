import HardwareWatch.Json.Reader
import HardwareWatch.Proofs.Json.Scanning
import Mathlib.Data.List.Forall2

/-!
# Documents inside documents

A document that is read as a value may stand where a longer document has a value, whatever stands
around it: it is cut into the same tokens as long as no word goes on behind it, and these are read as
the same value as long as the longer document is not nested too deep there. So texts can be put
together to arrays and objects without reading them.

* `Json.depth` is how deep a value is nested, `Json.Fits room v` says that all of `v` has a value and
  is nested at most `room` deep.
* `Token.scanFrom?_append` and `Cursor.run?_onto` are the laws of tokens and of the cursor.
* `Json.Embeds room s v` says that `s` may stand for `v`; `embeds_of_read?` and `embeds_array` are its
  rules, `Embeds.read?_eq` is what follows of the document alone.
-/

namespace HardwareWatch.Json

variable {room : Nat}

/-! ## Nesting -/

mutual

/-- How deep arrays and objects are nested. -/
def depth : Json → Nat
  | .array items => itemsDepth items + 1
  | .object fields => fieldsDepth fields + 1
  | .null | .bool _ | .integer _ | .double _ | .text _ | .unreadable => 0

/-- How deep the deepest item is nested. -/
def itemsDepth : List Json → Nat
  | [] => 0
  | v :: rest => max v.depth (itemsDepth rest)

/-- How deep the deepest field is nested. -/
def fieldsDepth : List (String × Json) → Nat
  | [] => 0
  | (_, v) :: rest => max v.depth (fieldsDepth rest)

end

/-- Every part has a value, and nothing is nested deeper than `room`. -/
def Fits (room : Nat) (v : Json) : Prop := v.isReadable ∧ v.depth ≤ room

instance (room : Nat) (v : Json) : Decidable (v.Fits room) :=
  inferInstanceAs (Decidable (v.isReadable ∧ v.depth ≤ room))

theorem not_fits_unreadable : ¬unreadable.Fits room := fun h => absurd h.1 (by decide)

theorem items_fit_iff {items : List Json} :
    areReadable items ∧ itemsDepth items ≤ room ↔ ∀ v ∈ items, v.Fits room := by
  induction items with
  | nil => simp [areReadable, itemsDepth]
  | cons v rest ih =>
    rw [List.forall_mem_cons, ← ih, areReadable, itemsDepth, Bool.and_eq_true, Nat.max_le, Fits]
    exact and_and_and_comm

theorem fields_fit_iff {fields : List (String × Json)} :
    areFieldsReadable fields ∧ fieldsDepth fields ≤ room ↔ ∀ f ∈ fields, f.2.Fits room := by
  induction fields with
  | nil => simp [areFieldsReadable, fieldsDepth]
  | cons f rest ih =>
    rw [List.forall_mem_cons, ← ih, areFieldsReadable, fieldsDepth, Bool.and_eq_true, Nat.max_le,
      Fits]
    exact and_and_and_comm

theorem fits_array {items : List Json} :
    (array items).Fits room ↔ 0 < room ∧ ∀ v ∈ items, v.Fits (room - 1) := by
  have hdepth : itemsDepth items + 1 ≤ room ↔ 0 < room ∧ itemsDepth items ≤ room - 1 := by omega
  rw [← items_fit_iff, Fits, isReadable, depth, hdepth, and_left_comm]

theorem fits_object {fields : List (String × Json)} :
    (object fields).Fits room ↔ 0 < room ∧ ∀ f ∈ fields, f.2.Fits (room - 1) := by
  have hdepth : fieldsDepth fields + 1 ≤ room ↔ 0 < room ∧ fieldsDepth fields ≤ room - 1 := by
    omega
  rw [← fields_fit_iff, Fits, isReadable, depth, hdepth, and_left_comm]

theorem fits_text (s : String) : (text s).Fits room := ⟨rfl, Nat.zero_le _⟩

theorem fits_null : null.Fits room := ⟨rfl, Nat.zero_le _⟩

/-! ## Tokens -/

namespace Token

/-- What stands behind a document does not change its tokens unless it goes on with a word. -/
theorem scanFrom?_append {rest : Chars} (hrest : EndsWord rest) {s : Chars} {p : Progress}
    {ts : List Token} (h : scanFrom? p s = some ts) :
    scanFrom? p (s ++ rest) = (scanFrom? .idle rest).map (ts ++ ·) := by
  induction s generalizing p ts with
  | nil =>
    cases p with
    | idle =>
      obtain rfl : [] = ts := Option.some.inj h
      exact Option.map_id_apply.symm
    | word seen =>
      obtain ⟨t, ht, rfl⟩ := Option.map_eq_some_iff.1 h
      exact scanFrom?_word_of_endsWord hrest ht
    | quotes _ | escape _ | code _ _ _ => cases h
  | cons c s ih =>
    obtain ⟨⟨now, q⟩, hstep, h⟩ := Option.bind_eq_some_iff.1 h
    obtain ⟨later, hlater, h⟩ := Option.bind_eq_some_iff.1 h
    obtain rfl : now ++ later = ts := Option.some.inj h
    rw [List.cons_append, scanFrom?_cons hstep, ih hlater, Option.map_map]
    simp [Function.comp_def]

/-- The characters are cut into the tokens, whatever stands behind them. -/
def Scans (s : Chars) (ts : List Token) : Prop :=
  ∀ rest, EndsWord rest → scanFrom? .idle (s ++ rest) = (scanFrom? .idle rest).map (ts ++ ·)

namespace Scans

variable {a s : Chars} {c : Char} {t : Token} {ts us : List Token}

theorem nil : Scans [] [] := fun _ _ => Option.map_id_apply.symm

theorem of_scan? (h : scan? s = some ts) : Scans s ts := fun _ hrest => scanFrom?_append hrest h

theorem scan?_eq (h : Scans s ts) : scan? s = some ts := by
  simpa [scan?, scanFrom?, finish?] using h [] endsWord_nil

theorem gap (hc : isGap c) (h : Scans s ts) : Scans (c :: s) ts := fun rest hrest => by
  have hstep : advance? .idle c = some ([], .idle) := by simp [advance?, start?, hc]
  rw [List.cons_append, scanFrom?_cons_nil hstep, h rest hrest]

theorem mark (hc : advance? .idle c = some ([t], .idle)) (h : Scans s ts) :
    Scans (c :: s) (t :: ts) := fun rest hrest => by
  rw [List.cons_append, scanFrom?_mark hc, h rest hrest, Option.map_map]
  rfl

theorem quoted (name : String) (h : Scans s ts) :
    Scans (quoteChars name.toList ++ s) (.quoted (some name) :: ts) := fun rest hrest => by
  rw [List.append_assoc, scanFrom?_quoteChars, h rest hrest, Option.map_map]
  rfl

theorem append (ha : Scans a ts) (hc : inWord c = false) (h : Scans (c :: s) us) :
    Scans (a ++ c :: s) (ts ++ us) := fun rest hrest => by
  rw [List.append_assoc, ha (c :: s ++ rest) (endsWord_cons hc _), h rest hrest, Option.map_map]
  simp [Function.comp_def]

end Scans

end Token

/-! ## The cursor -/

/-- What an open array or object holds fits, and all its fields had names. -/
def Frame.Fits (room : Nat) : Frame → Prop
  | .items read => ∀ v ∈ read, v.Fits room
  | .fields read _ named => named ∧ ∀ f ∈ read, f.2.Fits room

namespace Cursor

/-- All that is open fits into a value that fits. -/
def StackFits (room : Nat) : List Frame → Prop
  | [] => True
  | frame :: outer =>
    outer.length < room ∧ frame.Fits (room - (outer.length + 1)) ∧ StackFits room outer

/-- All that is read fits into a value that fits. -/
def Fits (room : Nat) (c : Cursor) : Prop :=
  match c.place with
  | .done v => v.Fits room
  | _ => StackFits room c.stack

/-- The cursor with more open around what it reads. -/
def onto (base : List Frame) (c : Cursor) : Cursor :=
  match c.place with
  | .done v => deliver v base
  | place => ⟨c.stack ++ base, place⟩

theorem run?_append (c : Cursor) (a b : List Token) :
    run? c (a ++ b) = (run? c a).bind fun after => run? after b := by
  induction a generalizing c with
  | nil => rfl
  | cons t a ih => simp only [List.cons_append, run?, ih, Option.bind_assoc]

theorem deliver_onto (v : Json) (stack base : List Frame) :
    (deliver v stack).onto base = deliver v (stack ++ base) := by
  rcases stack with _ | ⟨_ | ⟨_, _ | _, _⟩, _⟩ <;> rfl

/-- What was handed on fits, and so does what it was handed to. -/
theorem fits_of_deliver {v : Json} {stack : List Frame} (h : (deliver v stack).Fits room) :
    v.Fits (room - stack.length) ∧ StackFits room stack := by
  match stack with
  | [] => exact ⟨h, trivial⟩
  | .items read :: outer =>
    obtain ⟨hlength, hread, houter⟩ := h
    exact ⟨hread v List.mem_cons_self, hlength, fun w hw => hread w (List.mem_cons_of_mem _ hw),
      houter⟩
  | .fields read (some name) named :: outer =>
    obtain ⟨hlength, ⟨hnamed, hread⟩, houter⟩ := h
    exact ⟨hread (name, v) List.mem_cons_self, hlength,
      ⟨hnamed, fun f hf => hread f (List.mem_cons_of_mem _ hf)⟩, houter⟩
  | .fields read none named :: outer => exact absurd h.2.1.1 (by decide)

/-- What was closed and fits was not nested too deep, and was handed on. -/
theorem close_eq_deliver_of_fits {v : Json} {outer : List Frame} (h : (close v outer).Fits room) :
    close v outer = deliver v outer := by
  rw [close] at h ⊢
  split at h
  · rename_i hshallow
    rw [if_pos hshallow]
  · exact absurd (fits_of_deliver h).1 not_fits_unreadable

theorem close_onto {v : Json} {outer base : List Frame} (hv : 0 < v.depth)
    (h : (close v outer).Fits room) (hbase : base.length + room ≤ depthLimit) :
    close v (outer ++ base) = (close v outer).onto base := by
  have hvalue := close_eq_deliver_of_fits h
  rw [hvalue] at h
  have hdepth : v.depth ≤ room - outer.length := (fits_of_deliver h).1.2
  have hroom : (outer ++ base).length + (room - outer.length) ≤ depthLimit := by
    rw [List.length_append]
    omega
  rw [hvalue, deliver_onto]
  exact close_eq_deliver (hv.trans_le hdepth) hroom

/-! ### One token -/

section Step

variable {stack base : List Frame} {t : Token} {c : Cursor}

theorem openValue?_onto (base : List Frame) (h : openValue? stack t = some c) :
    openValue? (stack ++ base) t = some (c.onto base) := by
  match t with
  | .openArray | .openObject =>
    obtain rfl := Option.some.inj h
    rfl
  | .scalar _ | .quoted (some _) | .quoted none =>
    obtain rfl := Option.some.inj h
    rw [deliver_onto]
    rfl
  | .closeArray | .closeObject | .colon | .comma => cases h

theorem name?_onto (base : List Frame) (h : name? stack t = some c) :
    name? (stack ++ base) t = some (c.onto base) := by
  match stack, t with
  | .fields _ _ _ :: _, .quoted _ =>
    obtain rfl := Option.some.inj h
    rfl

theorem close?_onto (h : close? stack t = some c) (hfits : c.Fits room)
    (hbase : base.length + room ≤ depthLimit) :
    close? (stack ++ base) t = some (c.onto base) := by
  match stack, t with
  | .items _ :: _, .closeArray =>
    obtain rfl := Option.some.inj h
    exact congrArg some (close_onto (Nat.succ_pos _) hfits hbase)
  | .fields _ _ true :: _, .closeObject =>
    obtain rfl := Option.some.inj h
    exact congrArg some (close_onto (Nat.succ_pos _) hfits hbase)
  | .fields _ _ false :: _, .closeObject =>
    obtain rfl := Option.some.inj h
    have hvalue := close_eq_deliver_of_fits hfits
    rw [if_neg Bool.false_ne_true] at hvalue hfits
    rw [hvalue] at hfits
    exact absurd (fits_of_deliver hfits).1 not_fits_unreadable

theorem stackFits_of_openValue? (h : openValue? stack t = some c) (hfits : c.Fits room) :
    StackFits room stack := by
  match t with
  | .openArray | .openObject =>
    obtain rfl := Option.some.inj h
    exact hfits.2.2
  | .scalar _ | .quoted (some _) | .quoted none =>
    obtain rfl := Option.some.inj h
    exact (fits_of_deliver hfits).2
  | .closeArray | .closeObject | .colon | .comma => cases h

theorem stackFits_of_name? (h : name? stack t = some c) (hfits : c.Fits room) :
    StackFits room stack := by
  match stack, t with
  | .fields _ _ _ :: _, .quoted _ =>
    obtain rfl := Option.some.inj h
    exact hfits

theorem stackFits_of_close? (h : close? stack t = some c) (hfits : c.Fits room) :
    StackFits room stack := by
  match stack, t with
  | .items read :: outer, .closeArray =>
    obtain rfl := Option.some.inj h
    rw [close_eq_deliver_of_fits hfits] at hfits
    obtain ⟨hvalue, houter⟩ := fits_of_deliver hfits
    obtain ⟨hpos, hitems⟩ := fits_array.1 hvalue
    exact ⟨by omega, fun v hv => hitems v (List.mem_reverse.2 hv), houter⟩
  | .fields read name named :: outer, .closeObject =>
    obtain rfl := Option.some.inj h
    rw [close_eq_deliver_of_fits hfits] at hfits
    obtain ⟨hvalue, houter⟩ := fits_of_deliver hfits
    cases named with
    | false => exact absurd hvalue not_fits_unreadable
    | true =>
      obtain ⟨hpos, hfields⟩ := fits_object.1 hvalue
      exact ⟨by omega, ⟨rfl, fun f hf => hfields f (List.mem_reverse.2 hf)⟩, houter⟩

/-- What begins a value or a name ends nothing. -/
theorem close?_eq_none (h : (openValue? stack t).isSome ∨ (name? stack t).isSome)
    (outer : List Frame) : close? outer t = none := by
  match t with
  | .openArray | .openObject | .scalar _ | .quoted _ =>
    rcases outer with _ | ⟨_ | _, _⟩ <;> rfl
  | .closeArray | .closeObject | .colon | .comma =>
    rcases stack with _ | ⟨_ | _, _⟩ <;> rcases h with h | h <;> cases h

theorem ends_of_close? (h : close? stack t = some c) : t = .closeArray ∨ t = .closeObject := by
  match stack, t with
  | .items _ :: _, .closeArray => exact .inl rfl
  | .fields .. :: _, .closeObject => exact .inr rfl

/-- The ways to read a token. -/
inductive Step : Cursor → Token → Cursor → Prop
  | opened {stack : List Frame} {place : Place} {t : Token} {c : Cursor}
      (hplace : place = .value ∨ place = .firstItem) (h : openValue? stack t = some c) :
      Step ⟨stack, place⟩ t c
  | closed {stack : List Frame} {place : Place} {t : Token} {c : Cursor}
      (hplace : place = .firstItem ∨ place = .firstName ∨ place = .next)
      (h : close? stack t = some c) : Step ⟨stack, place⟩ t c
  | named {stack : List Frame} {place : Place} {t : Token} {c : Cursor}
      (hplace : place = .firstName ∨ place = .name) (h : name? stack t = some c) :
      Step ⟨stack, place⟩ t c
  | colon (stack : List Frame) : Step ⟨stack, .colon⟩ .colon ⟨stack, .value⟩
  | nextItem (read : List Json) (outer : List Frame) :
      Step ⟨.items read :: outer, .next⟩ .comma ⟨.items read :: outer, .value⟩
  | nextName (read : List (String × Json)) (name : Option String) (named : Bool)
      (outer : List Frame) :
      Step ⟨.fields read name named :: outer, .next⟩ .comma ⟨.fields read name named :: outer, .name⟩

theorem step_of_step? {b : Cursor} (h : step? c t = some b) : Step c t b := by
  obtain ⟨stack, place⟩ := c
  match place with
  | .value => exact .opened (.inl rfl) h
  | .firstItem =>
    rcases (Option.orElse_eq_some _ _ _).1 h with h | ⟨-, h⟩
    · exact .closed (.inl rfl) h
    · exact .opened (.inr rfl) h
  | .firstName =>
    rcases (Option.orElse_eq_some _ _ _).1 h with h | ⟨-, h⟩
    · exact .closed (.inr (.inl rfl)) h
    · exact .named (.inl rfl) h
  | .name => exact .named (.inr rfl) h
  | .colon =>
    match t with
    | .colon =>
      obtain rfl := Option.some.inj h
      exact .colon stack
  | .next =>
    match t, stack with
    | .comma, .items _ :: _ =>
      obtain rfl := Option.some.inj h
      exact .nextItem ..
    | .comma, .fields .. :: _ =>
      obtain rfl := Option.some.inj h
      exact .nextName ..
    | .comma, [] => cases h
    | .openArray, _ | .closeArray, _ | .openObject, _ | .closeObject, _ | .colon, _ | .scalar _, _
    | .quoted _, _ => exact .closed (.inr (.inr rfl)) h
  | .done _ => cases h

theorem step?_of_step {b : Cursor} (h : Step c t b) : step? c t = some b := by
  cases h with
  | opened hplace h =>
    rcases hplace with rfl | rfl
    · exact h
    · simp [step?, close?_eq_none (.inl (Option.isSome_of_eq_some h)), h]
  | closed hplace h =>
    rcases hplace with rfl | rfl | rfl
    · simp [step?, h]
    · simp [step?, h]
    · rcases ends_of_close? h with rfl | rfl <;> exact h
  | named hplace h =>
    rcases hplace with rfl | rfl
    · simp [step?, close?_eq_none (.inr (Option.isSome_of_eq_some h)), h]
    · exact h
  | colon | nextItem | nextName => rfl

/-- A cursor whose value will fit has read nothing that does not. -/
theorem fits_of_step? {b : Cursor} (h : step? c t = some b) (hfits : b.Fits room) :
    c.Fits room := by
  cases step_of_step? h with
  | opened hplace h =>
    have hstack := stackFits_of_openValue? h hfits
    rcases hplace with rfl | rfl <;> exact hstack
  | closed hplace h =>
    have hstack := stackFits_of_close? h hfits
    rcases hplace with rfl | rfl | rfl <;> exact hstack
  | named hplace h =>
    have hstack := stackFits_of_name? h hfits
    rcases hplace with rfl | rfl <;> exact hstack
  | colon | nextItem | nextName => exact hfits

/-- A token is read in the same way with more open around it. -/
theorem step?_onto {b : Cursor} (h : step? c t = some b) (hfits : b.Fits room)
    (hbase : base.length + room ≤ depthLimit) : step? (c.onto base) t = some (b.onto base) := by
  refine step?_of_step ?_
  cases step_of_step? h with
  | opened hplace h =>
    have hopen := openValue?_onto base h
    rcases hplace with rfl | rfl <;> exact .opened (by simp) hopen
  | closed hplace h =>
    have hclose := close?_onto h hfits hbase
    rcases hplace with rfl | rfl | rfl <;> exact .closed (by simp) hclose
  | named hplace h =>
    have hname := name?_onto base h
    rcases hplace with rfl | rfl <;> exact .named (by simp) hname
  | colon stack => exact .colon (stack ++ base)
  | nextItem read outer => exact .nextItem read (outer ++ base)
  | nextName read name named outer => exact .nextName read name named (outer ++ base)

end Step

/-! ### Many tokens -/

theorem fits_of_run? {ts : List Token} {c b : Cursor} (h : run? c ts = some b)
    (hfits : b.Fits room) : c.Fits room := by
  induction ts generalizing c with
  | nil =>
    obtain rfl := Option.some.inj h
    exact hfits
  | cons t ts ih =>
    obtain ⟨a, hstep, hrun⟩ := Option.bind_eq_some_iff.1 h
    exact fits_of_step? hstep (ih hrun)

/-- Tokens are read in the same way with more open around them. -/
theorem run?_onto {ts : List Token} {base : List Frame} (hbase : base.length + room ≤ depthLimit)
    {c b : Cursor} (h : run? c ts = some b) (hfits : b.Fits room) :
    run? (c.onto base) ts = some (b.onto base) := by
  induction ts generalizing c with
  | nil =>
    obtain rfl := Option.some.inj h
    rfl
  | cons t ts ih =>
    obtain ⟨a, hstep, hrun⟩ := Option.bind_eq_some_iff.1 h
    rw [run?_cons (step?_onto hstep (fits_of_run? hrun hfits) hbase), ih hrun]

end Cursor

/-! ## Documents -/

namespace Cursor

/-- The tokens are read as the value wherever there is room for it. -/
def ReadsAs (room : Nat) (ts : List Token) (v : Json) : Prop :=
  ∀ stack : List Frame, stack.length + room ≤ depthLimit →
    ∀ rest, run? ⟨stack, .value⟩ (ts ++ rest) = run? (deliver v stack) rest

variable {ts : List Token} {v : Json}

theorem readsAs_of_ofTokens? (h : ofTokens? ts = some v) (hfits : v.Fits room) :
    ReadsAs room ts v := by
  intro stack hstack rest
  rw [ofTokens?] at h
  split at h
  · rename_i inner w hrun
    obtain rfl : w = v := Option.some.inj h
    have hmore : run? ⟨stack, .value⟩ ts = some (deliver w stack) := run?_onto hstack hrun hfits
    rw [run?_append, hmore, Option.bind_some]
  · cases h

theorem ReadsAs.ofTokens?_eq (h : ReadsAs room ts v) (hroom : room ≤ depthLimit) :
    ofTokens? ts = some v := by
  have hrun : run? ⟨[], .value⟩ ts = some ⟨[], .done v⟩ := by
    simpa [run?, deliver] using h [] (by simpa using hroom) []
  rw [ofTokens?, hrun]

/-- A value is read as the first item of an array as anywhere else. -/
theorem ReadsAs.firstItem (h : ReadsAs room ts v) (hroom : room ≤ depthLimit)
    (stack : List Frame) (rest : List Token) :
    run? ⟨stack, .firstItem⟩ (ts ++ rest) = run? ⟨stack, .value⟩ (ts ++ rest) := by
  have halone : run? ⟨[], .value⟩ ts = some ⟨[], .done v⟩ := by
    simpa [run?, deliver] using h [] (by simpa using hroom) []
  cases ts with
  | nil => cases halone
  | cons t ts =>
    obtain ⟨c, hopen, -⟩ := Option.bind_eq_some_iff.1 halone
    have hclose := close?_eq_none (.inl (Option.isSome_of_eq_some hopen)) stack
    simp only [List.cons_append, run?, step?, hclose]
    rfl

end Cursor

/-- The characters may stand for the value wherever there is room for it. -/
def Embeds (room : Nat) (s : Chars) (v : Json) : Prop :=
  v.Fits room ∧ ∃ ts, Token.Scans s ts ∧ Cursor.ReadsAs room ts v

/-- A document may stand for its value. -/
theorem embeds_of_read? {document : String} {v : Json} (h : read? document = some v)
    (hfits : v.Fits room) : Embeds room document.toList v := by
  obtain ⟨ts, hscan, hvalue⟩ := Option.bind_eq_some_iff.1 h
  exact ⟨hfits, ts, .of_scan? hscan, Cursor.readsAs_of_ofTokens? hvalue hfits⟩

/-- What may stand for a value is a document of it. -/
theorem Embeds.read?_eq {s : Chars} {v : Json} (h : Embeds room s v) (hroom : room ≤ depthLimit) :
    read? (.ofList s) = some v := by
  obtain ⟨-, ts, hscan, hread⟩ := h
  rw [read?, String.toList_ofList, hscan.scan?_eq, Option.bind_some, hread.ofTokens?_eq hroom]

theorem fits_of_embeds {documents : List Chars} {values : List Json}
    (h : List.Forall₂ (Embeds room) documents values) : ∀ v ∈ values, v.Fits room := by
  induction h with
  | nil => simp
  | cons hv _ ih => exact List.forall_mem_cons.2 ⟨hv.1, ih⟩

/-- Documents with a comma and a line feed between them are the items of an array that is open. -/
theorem exists_items_tokens (hroom : room < depthLimit) {s : Chars} {documents : List Chars}
    {v : Json} {values : List Json}
    (h : List.Forall₂ (Embeds room) (s :: documents) (v :: values)) :
    ∃ ts, Token.Scans (Chars.join [',', '\n'] (s :: documents)) ts ∧
      (∀ (stack : List Frame) (rest : List Token),
        Cursor.run? ⟨stack, .firstItem⟩ (ts ++ rest) = Cursor.run? ⟨stack, .value⟩ (ts ++ rest)) ∧
      ∀ (read : List Json) (stack : List Frame), stack.length + 1 + room ≤ depthLimit →
        ∀ rest, Cursor.run? ⟨.items read :: stack, .value⟩ (ts ++ .closeArray :: rest) =
          Cursor.run? (Cursor.close (.array (read.reverse ++ v :: values)) stack) rest := by
  induction documents generalizing s v values with
  | nil =>
    obtain ⟨⟨-, ts, hscan, hread⟩, hnone⟩ := List.forall₂_cons.1 h
    obtain rfl := List.forall₂_nil_left_iff.1 hnone
    refine ⟨ts, by simpa [Chars.join] using hscan, hread.firstItem hroom.le,
      fun read stack hstack rest => ?_⟩
    rw [hread (.items read :: stack) hstack, ← List.reverse_cons]
    exact Cursor.run?_cons rfl rest
  | cons s' documents ih =>
    obtain ⟨⟨-, ts, hscan, hread⟩, hmore⟩ := List.forall₂_cons.1 h
    obtain ⟨v', values, -, -, rfl⟩ := List.forall₂_cons_left_iff.1 hmore
    obtain ⟨us, hscans, -, hreads⟩ := ih hmore
    refine ⟨ts ++ .comma :: us, ?_, fun stack rest => ?_, fun read stack hstack rest => ?_⟩
    · rw [Chars.join_cons_of_ne_nil _ _ (List.cons_ne_nil _ _), List.append_assoc]
      exact hscan.append (by decide) (.mark rfl (.gap rfl hscans))
    · rw [List.append_assoc, hread.firstItem hroom.le]
    · rw [List.append_assoc, hread (.items read :: stack) hstack, List.cons_append, Cursor.deliver,
        Cursor.run?_cons (b := ⟨.items (v :: read) :: stack, .value⟩) rfl,
        hreads (v :: read) stack hstack]
      simp

/-- Documents in brackets, with a comma and a line feed between them, may stand for an array. -/
theorem embeds_array (hroom : room < depthLimit) {documents : List Chars} {values : List Json}
    (h : List.Forall₂ (Embeds room) documents values) :
    Embeds (room + 1) ('[' :: (Chars.join [',', '\n'] documents ++ [']'])) (.array values) := by
  refine ⟨fits_array.2 ⟨room.succ_pos, fits_of_embeds h⟩, ?_⟩
  cases h with
  | nil =>
    refine ⟨[.openArray, .closeArray], .mark rfl (.mark rfl .nil), fun stack hstack rest => ?_⟩
    rw [← Cursor.close_eq_deliver room.succ_pos hstack]
    exact (Cursor.run?_cons rfl _).trans (Cursor.run?_cons rfl _)
  | cons hfirst hmore =>
    obtain ⟨ts, hscan, hfirstItem, hread⟩ := exists_items_tokens hroom (.cons hfirst hmore)
    refine ⟨.openArray :: (ts ++ [.closeArray]),
      .mark rfl (hscan.append (by decide) (.mark rfl .nil)), fun stack hstack rest => ?_⟩
    rw [← Cursor.close_eq_deliver room.succ_pos hstack, List.cons_append, List.append_assoc,
      Cursor.run?_cons (b := ⟨.items [] :: stack, .firstItem⟩) rfl, hfirstItem, List.singleton_append,
      hread [] stack (by omega)]
    rfl

end HardwareWatch.Json
