import HardwareWatch.Proofs.Telemetry.Recollection

/-!
# What a collection changes

A row of a collection is written onto the monitor that has its keys, if there is one, and nothing
else becomes of it. So a collection neither makes nor removes monitors, and it changes none in
anything but the values that rows write.

* `Resource.withoutValues` is a resource without the values that rows write, and
  `Resource.WrittenAt` says that such values were written onto some monitors and that nothing else
  was changed.
* `readings` is what each element of a list reads in the state that the elements before it led to.
  `JobContext.foundKeys` is the monitors that the rows of a collection find.
* `JobContext.writtenAt_collectRow` says what one row changes,
  `JobContext.writtenAt_foldl_collectRow` what any number of them do.
* `JobContext.writtenAt_collections` is the result for the two kinds of collection.
-/

namespace HardwareWatch

theorem NameMap.mapEntries_modify {α β : Type} (m : NameMap α) (k : String) {f : α → α} {g : α → β}
    (h : ∀ a, g (f a) = g a) :
    ((m.modify k f).mapEntries fun _ a => g a) = m.mapEntries fun _ a => g a := by
  rw [modify, mapEntries_mapEntries]
  refine congrArg (m.mapEntries ·) (funext fun k' => funext fun a => ?_)
  rw [apply_ite g, h, ite_self]

/-! ## Values that are written -/

/-- The monitor without the values that rows write: its metrics and its legacy parameters. -/
def Monitor.withoutValues (m : Monitor) : Monitor :=
  { m with metrics := .empty, legacyTextParameters := .empty }

theorem Monitor.Rewritten.withoutValues_eq {m m' : Monitor} (h : m.Rewritten m') :
    m'.withoutValues = m.withoutValues := by
  rw [h]
  rfl

namespace Resource

/-- The resource without the values that rows write onto its monitors. -/
def withoutValues (r : Resource) : Resource :=
  { r with monitors := r.monitors.mapEntries fun _ ms => ms.mapEntries fun _ m => m.withoutValues }

/-- Values of monitors at some places were written, and nothing else was changed. In particular
there are monitors at the same places. -/
structure WrittenAt (places : String → String → Prop) (r r' : Resource) : Prop where
  kept : r'.withoutValues = r.withoutValues
  only : ∀ type key, r'.at? type key ≠ r.at? type key → places type key

variable {P Q : String → String → Prop} {r r' r'' : Resource} {type key : String}

theorem at?_withoutValues (r : Resource) (type key : String) :
    r.withoutValues.at? type key = (r.at? type key).map Monitor.withoutValues := by
  rw [at?, at?, monitorsOf, monitorsOf, withoutValues, NameMap.get?_mapEntries]
  cases r.monitors.get? type with
  | none => rfl
  | some ms => exact NameMap.get?_mapEntries ms (fun _ m => m.withoutValues) key

namespace WrittenAt

theorem refl (r : Resource) : r.WrittenAt P r := ⟨rfl, fun _ _ h => absurd rfl h⟩

theorem mono (h : r.WrittenAt P r') (hPQ : ∀ type key, P type key → Q type key) :
    r.WrittenAt Q r' :=
  ⟨h.kept, fun type key hne => hPQ type key (h.only type key hne)⟩

theorem trans (h : r.WrittenAt P r') (h' : r'.WrittenAt P r'') : r.WrittenAt P r'' := by
  refine ⟨h'.kept.trans h.kept, fun type key hne => ?_⟩
  by_cases hsame : r'.at? type key = r.at? type key
  · exact h'.only type key (hsame ▸ hne)
  · exact h.only type key hsame

/-- There is a monitor of a connector afterwards where there was one before. -/
theorem exists_connector (h : r.WrittenAt P r') {connector : Option String}
    (hm : ∃ m, r'.at? type key = some m ∧ m.connector = connector) :
    ∃ m, r.at? type key = some m ∧ m.connector = connector := by
  obtain ⟨m', hm', hc⟩ := hm
  have herased := at?_withoutValues r type key
  rw [← h.kept, at?_withoutValues, hm'] at herased
  obtain ⟨m, hm, heq⟩ := Option.map_eq_some_iff.1 herased.symm
  exact ⟨m, hm, (congrArg Monitor.connector heq).trans hc⟩

end WrittenAt

end Resource

/-! ## States that are passed through -/

/-- What each element of a list reads in the state that the elements before it led to. -/
def readings {σ α β : Type} (step : σ → α → σ) (read : σ → α → β) : σ → List α → List β
  | _, [] => []
  | s, a :: l => read s a :: readings step read (step s a) l

variable {σ α β : Type} {step : σ → α → σ} {read : σ → α → β}

theorem length_readings (s : σ) (l : List α) : (readings step read s l).length = l.length := by
  induction l generalizing s with
  | nil => rfl
  | cons a l ih => rw [readings, List.length_cons, ih, List.length_cons]

theorem readings_concat (s : σ) (l : List α) (a : α) :
    readings step read s (l ++ [a]) = readings step read s l ++ [read (l.foldl step s) a] := by
  induction l generalizing s with
  | nil => rfl
  | cons b l ih => rw [List.cons_append, readings, ih, readings, List.foldl_cons, List.cons_append]

namespace JobContext

open Resource

variable (job : JobContext) (mapping : Mapping)

/-! ## Rows -/

theorem writtenAt_update (r : Resource) (key : String) (values : InterpretedRow) :
    r.WrittenAt (fun type' key' => type' = job.type ∧ key' = key)
      (job.update r key (job.writeValues values)) where
  kept := by
    rw [update_eq, withoutValues]
    dsimp only
    rw [NameMap.mapEntries_modify r.monitors _ fun ms => NameMap.mapEntries_modify ms _ fun m =>
      (job.rewritten_writeValues values m).withoutValues_eq]
    rfl
  only type' key' hne := by
    by_contra hother
    rw [at?_update] at hne
    simp only [if_neg hother, Option.map_id'] at hne
    exact hne rfl

/-- The monitor that a row finds. -/
def foundKey? (r : Resource) (row : Nat × Row) : Option String :=
  job.existing? r (mapping.interpret ⟨row.2, row.1, r⟩).attributes

/-- The monitors that the rows of a collection find, each in the resource as the rows before it left
it. -/
def foundKeys (rows : List Row) (r : Resource) : List (Option String) :=
  readings (job.collectRow mapping) (fun state => job.foundKey? mapping state.1) (r, 0)
    (numbered rows)

variable {job}

/-- What is found is a monitor that the attributes match. -/
theorem exists_isMatch {r : Resource} {attributes : NameMap String} {key : String}
    (h : job.existing? r attributes = some key) :
    ∃ m, r.at? job.type key = some m ∧ job.isMatch attributes m = true := by
  obtain ⟨⟨key, m⟩, hfind, rfl⟩ := Option.map_eq_some_iff.1 h
  exact ⟨m, NameMap.get?_eq_some_iff.2 (List.mem_of_find?_eq_some hfind),
    by simpa using List.find?_some hfind⟩

theorem connector_of_isMatch {attributes : NameMap String} {m : Monitor}
    (h : job.isMatch attributes m = true) : m.connector = some job.connector.id := by
  rw [isMatch, Bool.and_eq_true, beq_iff_eq] at h
  exact h.1

variable (job)

/-- A row changes at most the monitor that it finds, which is one of its connector and type, and is
counted if it finds one. -/
theorem writtenAt_collectRow (state : Resource × Nat) (row : Nat × Row) :
    state.1.WrittenAt (fun type key => type = job.type ∧
        job.foundKey? mapping state.1 row = some key ∧
        ∃ m, state.1.at? type key = some m ∧ m.connector = some job.connector.id)
      (job.collectRow mapping state row).1 ∧
    (job.collectRow mapping state row).2 =
      state.2 + if (job.foundKey? mapping state.1 row).isSome then 1 else 0 := by
  obtain ⟨r, count⟩ := state
  rw [collectRow, foundKey?]
  dsimp only
  cases hkey : job.existing? r (mapping.interpret ⟨row.2, row.1, r⟩).attributes with
  | none => exact ⟨.refl r, rfl⟩
  | some key =>
    refine ⟨(job.writtenAt_update r key _).mono ?_, rfl⟩
    rintro _ _ ⟨rfl, rfl⟩
    obtain ⟨m, hm, hmatch⟩ := exists_isMatch hkey
    exact ⟨rfl, rfl, m, hm, connector_of_isMatch hmatch⟩

theorem writtenAt_foldl_collectRow (rows : List (Nat × Row)) (state : Resource × Nat) :
    let keys := readings (job.collectRow mapping) (fun state => job.foundKey? mapping state.1) state
      rows
    let state' := rows.foldl (job.collectRow mapping) state
    state.1.WrittenAt (fun type key => type = job.type ∧ some key ∈ keys ∧
        ∃ m, state.1.at? type key = some m ∧ m.connector = some job.connector.id) state'.1 ∧
      state'.2 = state.2 + keys.countP Option.isSome := by
  induction rows generalizing state with
  | nil => exact ⟨.refl state.1, rfl⟩
  | cons row rest ih =>
    obtain ⟨hrow, hcount⟩ := job.writtenAt_collectRow mapping state row
    obtain ⟨hrest, hcountRest⟩ := ih (job.collectRow mapping state row)
    dsimp only at hrest hcountRest ⊢
    rw [List.foldl_cons, readings]
    refine ⟨(hrow.mono ?_).trans (hrest.mono ?_), ?_⟩
    · rintro type key ⟨htype, hkey, hm⟩
      exact ⟨htype, hkey ▸ List.mem_cons_self, hm⟩
    · rintro type key ⟨htype, hkey, hm⟩
      exact ⟨htype, List.mem_cons_of_mem _ hkey, hrow.exists_connector hm⟩
    · rw [hcountRest, hcount, List.countP_cons, Nat.add_assoc, Nat.add_comm (ite _ _ _)]

/-- **What collections change.** A collection writes values of monitors and changes nothing else. It
writes onto no more than one monitor for each row, the one that the row finds, which belongs to the
connector and the type of the job, and it counts the rows that find one. A collection for a single
monitor writes values of this monitor only, and it looks at the first row only. -/
theorem writtenAt_collections (job : JobContext) (mapping : Mapping) (rows : List Row) (id : String)
    (r : Resource) :
    ((job.foundKeys mapping rows r).length = rows.length ∧
      r.WrittenAt (fun type key => type = job.type ∧ some key ∈ job.foundKeys mapping rows r ∧
        ∃ m, r.at? type key = some m ∧ m.connector = some job.connector.id)
          (job.collect mapping rows r).1 ∧
      (job.collect mapping rows r).2 = (job.foundKeys mapping rows r).countP Option.isSome) ∧
    r.WrittenAt (fun type key => type = job.type ∧ key = monitorKey (some job.connector.id) id)
      (job.collectOne mapping rows id r).1 ∧
    ∀ rows', rows'.head? = rows.head? →
      job.collectOne mapping rows' id r = job.collectOne mapping rows id r := by
  obtain ⟨hwritten, hcount⟩ := job.writtenAt_foldl_collectRow mapping (numbered rows) (r, 0)
  refine ⟨⟨?_, hwritten, hcount.trans (Nat.zero_add _)⟩, ?_, fun rows' hhead => ?_⟩
  · rw [foundKeys, length_readings, numbered, List.length_mapIdx]
  · cases rows with
    | nil => exact .refl r
    | cons row rest => exact job.writtenAt_update r _ _
  · cases rows <;> cases rows' <;> cases hhead <;> rfl

end JobContext

end HardwareWatch
