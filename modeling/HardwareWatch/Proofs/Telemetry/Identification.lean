import HardwareWatch.Proofs.Telemetry.Collecting
import HardwareWatch.Proofs.Telemetry.Rediscovery
import HardwareWatch.Proofs.Text.Numerals

/-!
# Monitors that are known by their keys

A discovery makes the id of a monitor from the key attributes of a row, and a collection compares
the key attributes of a row with those of the monitors. The two agree on every resource in which the
attributes of the monitors still tell their ids.

* `JobContext.keyValues?` is the values that identify a monitor. `JobContext.isMatch_iff` says that
  attributes match a monitor exactly if they have its values.
* `JobContext.Identified` says that the monitors of a job are kept under the ids that their
  attributes tell. Every row keeps it (`Identified.discoverRow`), and so does whatever leaves ids
  and attributes alone (`Identified.of_kept`).
* `JobContext.existing?_eq_some_iff` says which monitor is found by attributes.
* `JobContext.existing_by_attributes_iff_by_id` is the result for all histories of a job, whose
  steps are `JobContext.Applies`.
-/

namespace HardwareWatch

open Relation

/-- The entries of a map that is added take the place of those that there were. -/
theorem NameMap.get?_insertAll_toList {α : Type} (m m' : NameMap α) (k : String) :
    (m.insertAll m'.toList).get? k = (m'.get? k).or (m.get? k) := by
  rw [get?_insertAll]
  congr 1
  cases hlast : (valuesUnder k m'.toList).getLast? with
  | none =>
    cases hk : m'.get? k with
    | none => rfl
    | some a =>
      have hmem := mem_valuesUnder_iff.2 (get?_eq_some_iff.1 hk)
      rw [List.getLast?_eq_none_iff.1 hlast] at hmem
      exact absurd hmem List.not_mem_nil
  | some a =>
    have hmem := mem_valuesUnder_iff.1 (List.mem_of_getLast? hlast)
    exact (get?_eq_some_iff.2 hmem).symm

namespace JobContext

variable {job : JobContext} {a b : NameMap String} {vs : List String} {key id v : String}
  {r r' : Resource} {m : Monitor}

/-! ## The values of the keys -/

/-- The values that identify a monitor: those of the keys, if none of them is missing. -/
def keyValues? (job : JobContext) (attributes : NameMap String) : Option (List String) :=
  job.keys.mapM (keyValue? attributes)

theorem monitorId?_eq_some_iff :
    job.monitorId? a = some id ↔ ∃ vs, job.keyValues? a = some vs ∧ Text.join "_" vs = id :=
  Option.map_eq_some_iff

theorem keyValues?_eq_some_iff :
    job.keyValues? a = some vs ↔ List.Forall₂ (fun key v => keyValue? a key = some v) job.keys vs :=
  mapM_eq_some_iff

theorem length_of_keyValues? (h : job.keyValues? a = some vs) : vs.length = job.keys.length :=
  (keyValues?_eq_some_iff.1 h).length_eq.symm

theorem sameKey_iff (h : keyValue? a key = some v) :
    sameKey a b key = true ↔ keyValue? b key = some v := by
  rw [keyValue?] at h
  obtain ⟨hget, hv⟩ := Option.filter_eq_some_iff.1 h
  obtain ⟨x, hx, rfl⟩ := Option.map_eq_some_iff.1 hget
  rw [sameKey, hx, keyValue?]
  cases b.get? key with
  | none => simp
  | some y =>
    rw [Option.map_some, Option.filter_eq_some_iff, Option.some.injEq, and_iff_left hv, beq_iff_eq]
    exact eq_comm

theorem all_sameKey_iff (h : job.keyValues? a = some vs) :
    job.keys.all (sameKey a b) = true ↔ job.keyValues? b = some vs := by
  rw [keyValues?_eq_some_iff] at h ⊢
  generalize job.keys = keys at h
  induction h with
  | nil => simp
  | cons hv _ ih => rw [List.all_cons, Bool.and_eq_true, sameKey_iff hv, ih, List.forall₂_cons]

/-- Attributes match a monitor of the connector exactly if they have the same values of the keys. -/
theorem isMatch_iff (h : job.keyValues? m.attributes = some vs) :
    job.isMatch a m = true ↔ m.connector = some job.connector.id ∧ job.keyValues? a = some vs := by
  rw [isMatch, Bool.and_eq_true, beq_iff_eq, all_sameKey_iff h]

/-- Attributes that are added bring their values of the keys with them. -/
theorem keyValues?_insertAll (h : job.keyValues? a = some vs) :
    job.keyValues? (b.insertAll a.toList) = some vs := by
  rw [keyValues?_eq_some_iff] at h ⊢
  refine h.imp fun key v hv => ?_
  rw [keyValue?] at hv ⊢
  obtain ⟨hget, -⟩ := Option.filter_eq_some_iff.1 hv
  obtain ⟨x, hx, -⟩ := Option.map_eq_some_iff.1 hget
  rw [NameMap.get?_insertAll_toList, hx, Option.some_or, ← hx]
  exact hv

theorem keyValues?_renewed {values : InterpretedRow}
    (h : job.keyValues? values.attributes = some vs) :
    job.keyValues? (job.renewed values r id).attributes = some vs := by
  rw [renewed, job.rewritten_writeValues values]
  exact keyValues?_insertAll h

/-- A row changes neither the owner nor the id of a monitor. -/
theorem sameOwner_renewed (values : InterpretedRow) (r : Resource) (id : String) :
    Resource.SameOwner (r.found (some job.connector.id) job.type id) (job.renewed values r id) := by
  rw [renewed, job.rewritten_writeValues values]
  exact ⟨rfl, rfl⟩

/-! ## Monitors whose attributes tell their ids -/

/-- The monitors of the connector are kept under their ids, and their attributes tell the ids. -/
def Identified (job : JobContext) (r : Resource) : Prop :=
  ∀ key m, r.at? job.type key = some m → m.connector = some job.connector.id →
    key = monitorKey (some job.connector.id) m.id ∧
      ∃ vs, job.keyValues? m.attributes = some vs ∧ m.id = Text.join "_" vs

namespace Identified

/-- Monitors are identified as long as they keep their owners, ids and attributes. -/
theorem of_kept (h : job.Identified r) (hkept : ∀ key m', r'.at? job.type key = some m' →
    ∃ m, r.at? job.type key = some m ∧ m'.connector = m.connector ∧ m'.id = m.id ∧
      m'.attributes = m.attributes) : job.Identified r' := by
  intro key m' hm' hc
  obtain ⟨m, hm, hconnector, hid, hattributes⟩ := hkept key m' hm'
  rw [hid, hattributes]
  exact h key m hm (hconnector ▸ hc)

theorem discoverRow (h : job.Identified r) (mapping : Mapping) (ids : NameSet) (row : Nat × Row) :
    job.Identified (job.discoverRow mapping (r, ids) row).1 := by
  rw [discoverRow_eq]
  generalize mapping.interpret ⟨row.2, row.1, (r, ids).1⟩ = values
  dsimp only
  cases hid : job.monitorId? values.attributes with
  | none => exact h
  | some id =>
    obtain ⟨vs, hvs, rfl⟩ := monitorId?_eq_some_iff.1 hid
    intro key m hm hc
    rw [Resource.at?_put] at hm
    split at hm
    · rename_i hkey
      cases hm
      have howner : Resource.SameOwner _ (job.renewed values r (Text.join "_" vs)) :=
        sameOwner_renewed values r _
      -- The monitor that was there belongs to the connector, since it does so afterwards.
      have hfound : (r.found (some job.connector.id) job.type (Text.join "_" vs)).id =
          Text.join "_" vs := by
        rw [Resource.found]
        cases hm₀ : r.at? job.type (monitorKey (some job.connector.id) (Text.join "_" vs)) with
        | none => rfl
        | some m₀ =>
          rw [Resource.found, hm₀] at howner
          exact (monitorKey_inj.1 (h _ m₀ hm₀ (howner.1.symm.trans hc)).1).symm
      have hsame := howner.2.trans hfound
      exact ⟨by rw [hsame, hkey.2], vs, keyValues?_renewed hvs, hsame⟩
    · exact h key m hm hc

theorem discover (h : job.Identified r) (mapping : Mapping) (rows : List Row) :
    job.Identified (job.discover mapping rows r).1 :=
  List.foldlRecOn (motive := fun state => job.Identified state.1) _ (job.discoverRow mapping) h
    fun state h row _ => h.discoverRow mapping state.2 row

theorem update (h : job.Identified r) (key : String) (values : InterpretedRow) :
    job.Identified (job.update r key (job.writeValues values)) := by
  refine h.of_kept fun key' m' hm' => ?_
  rw [at?_update] at hm'
  obtain ⟨m, hm, rfl⟩ := Option.map_eq_some_iff.1 hm'
  refine ⟨m, hm, ?_⟩
  split
  · rw [job.rewritten_writeValues values m]
    exact ⟨rfl, rfl, rfl⟩
  · exact ⟨rfl, rfl, rfl⟩

theorem collect (h : job.Identified r) (mapping : Mapping) (rows : List Row) :
    job.Identified (job.collect mapping rows r).1 := by
  rw [collect_eq_carryOut]
  exact List.foldlRecOn (motive := job.Identified) _ _ h fun _ h p _ => h.update p.1 p.2

theorem collectOne (h : job.Identified r) (mapping : Mapping) (rows : List Row) (id : String) :
    job.Identified (job.collectOne mapping rows id r).1 := by
  cases rows with
  | nil => exact h
  | cons row rest => exact h.update _ _

theorem markStale (h : job.Identified r) (ids : NameSet) :
    job.Identified (r.markStale job.connector.id job.type ids) := by
  refine h.of_kept fun key m' hm' => ?_
  rw [Resource.at?_markStale] at hm'
  obtain ⟨m, hm, rfl⟩ := Option.map_eq_some_iff.1 hm'
  refine ⟨m, hm, ?_⟩
  split <;> exact ⟨rfl, rfl, rfl⟩

end Identified

/-! ## Monitors that are found -/

/-- A monitor that attributes match stands under the id that they tell. -/
theorem Identified.of_isMatch (h : job.Identified r) (hm : r.at? job.type key = some m)
    (hmatch : job.isMatch a m = true) :
    job.monitorId? a = some m.id ∧ key = monitorKey (some job.connector.id) m.id := by
  obtain ⟨hkey, vs, hvs, hid⟩ := h key m hm (connector_of_isMatch hmatch)
  exact ⟨monitorId?_eq_some_iff.2 ⟨vs, ((isMatch_iff hvs).1 hmatch).2, hid.symm⟩, hkey⟩

/-- What is found by attributes is the monitor of the connector with the id that they tell, provided
they match it. -/
theorem existing?_eq_some_iff (h : job.Identified r) : job.existing? r a = some key ↔
    ∃ m, job.monitorId? a = some m.id ∧ key = monitorKey (some job.connector.id) m.id ∧
      r.connectorMonitor? job.connector.id job.type m.id = some m ∧ job.isMatch a m = true := by
  constructor
  · intro hkey
    obtain ⟨m, hm, hmatch⟩ := exists_isMatch hkey
    obtain ⟨hid, rfl⟩ := h.of_isMatch hm hmatch
    exact ⟨m, hid, rfl, hm, hmatch⟩
  · rintro ⟨m, hid, rfl, hm, hmatch⟩
    cases hkey : job.existing? r a with
    | none =>
      have hno := List.find?_eq_none.1 (Option.map_eq_none_iff.1 hkey)
      exact absurd hmatch (hno _ (NameMap.get?_eq_some_iff.1 hm))
    | some key =>
      -- The search may have stopped at another monitor, but that one stands under the same id.
      obtain ⟨m', hm', hmatch'⟩ := exists_isMatch hkey
      obtain ⟨hid', rfl⟩ := h.of_isMatch hm' hmatch'
      rw [Option.some.inj (hid'.symm.trans hid)]

/-! ## Histories of a job -/

/-- The job at another instant. -/
def atTime (job : JobContext) (time : Instant) : JobContext := { job with time }

/-- The job changes the resource once. -/
inductive Applies (job : JobContext) : Resource → Resource → Prop
  | discovery (time : Instant) (mapping : Mapping) (rows : List Row) (r : Resource) :
    job.Applies r ((job.atTime time).discover mapping rows r).1
  | collection (time : Instant) (mapping : Mapping) (rows : List Row) (r : Resource) :
    job.Applies r ((job.atTime time).collect mapping rows r).1
  | collectionOfOne (time : Instant) (mapping : Mapping) (rows : List Row) (id : String)
      (r : Resource) : job.Applies r ((job.atTime time).collectOne mapping rows id r).1
  | staleness (ids : NameSet) (r : Resource) :
    job.Applies r (r.markStale job.connector.id job.type ids)

theorem Identified.applies (h : job.Identified r) (hr : job.Applies r r') : job.Identified r' := by
  have hat (time : Instant) : (job.atTime time).Identified r := h
  cases hr with
  | discovery time mapping rows => exact (hat time).discover mapping rows
  | collection time mapping rows => exact (hat time).collect mapping rows
  | collectionOfOne time mapping rows id => exact (hat time).collectOne mapping rows id
  | staleness ids => exact h.markStale ids

/-- **Finding by attributes agrees with finding by id.** Let a job begin with a resource on which
its connector has no monitors of the type, and discover, collect and mark monitors as missed in
whatever order and with whatever rows and mappings. Then no two monitors match the same attributes,
and what is found by attributes is the monitor of the connector with the id that they tell, provided
they match it. -/
theorem existing_by_attributes_iff_by_id {r₀ : Resource}
    (hnone : ∀ key m, r₀.at? job.type key = some m → m.connector ≠ some job.connector.id)
    (hr : ReflTransGen job.Applies r₀ r) (a : NameMap String) :
    (∀ key m key' m', r.at? job.type key = some m → r.at? job.type key' = some m' →
      job.isMatch a m = true → job.isMatch a m' = true → key = key') ∧
    ∀ key, job.existing? r a = some key ↔
      ∃ m, job.monitorId? a = some m.id ∧ key = monitorKey (some job.connector.id) m.id ∧
        r.connectorMonitor? job.connector.id job.type m.id = some m ∧ job.isMatch a m = true := by
  have hidentified : job.Identified r := by
    induction hr with
    | refl => exact fun key m hm hc => absurd hc (hnone key m hm)
    | tail _ hstep ih => exact ih.applies hstep
  refine ⟨fun key m key' m' hm hm' hmatch hmatch' => ?_,
    fun key => existing?_eq_some_iff hidentified⟩
  obtain ⟨hid, hkey⟩ := hidentified.of_isMatch hm hmatch
  obtain ⟨hid', hkey'⟩ := hidentified.of_isMatch hm' hmatch'
  rw [hkey, hkey', Option.some.inj (hid.symm.trans hid')]

end JobContext

/-! ## Disks that are known by two keys -/

namespace RackedDisks

/-- The job for disks that are known by their rack and their slot. -/
def job : JobContext :=
  ⟨⟨1, "raid", none, none, [], ⟨[], false, [], []⟩, .empty, .empty, [], .empty⟩, "disk",
    ["rack", "slot"], 60000⟩

/-- The rack, the slot and a size. -/
def mapping : Mapping :=
  ⟨"disks", .ofList [("rack", "$1"), ("slot", "$2")], .ofList [("hw.size", "$3")], .empty⟩

/-- A host of which nothing is known. -/
def unknown : Resource := .named "srv" .linux

/-- The attributes of a disk. -/
def disk (rack slot : String) : NameMap String := .ofList [("rack", rack), ("slot", slot)]

/-- The host after a discovery of two disks, one of which is missed later, and a collection. -/
def known : Resource :=
  let found := (job.atTime 60000).discover mapping [["r1", "s1", "20"], [" r1", "s2", "40"]] unknown
  ((job.atTime 120000).collect mapping [["r1", "s2", "40"]]
    (found.1.markStale "raid" "disk" (.ofNames ["r1_s2"]))).1

theorem reflTransGen_known : ReflTransGen job.Applies unknown known :=
  ((ReflTransGen.single (.discovery 60000 mapping _ unknown)).tail (.staleness _ _)).tail
    (.collection 120000 mapping _ _)

/-- The second disk is found by its attributes, and under the id that they tell. -/
theorem existing_second_disk :
    (∀ key m, unknown.at? job.type key = some m → m.connector ≠ some job.connector.id) ∧
    ReflTransGen job.Applies unknown known ∧
    job.existing? known (disk "r1" "s2 ") = some "raid_r1_s2" ∧
    ∃ m, job.monitorId? (disk "r1" "s2 ") = some m.id ∧
      known.connectorMonitor? "raid" "disk" m.id = some m := by
  have hnone : ∀ key m, unknown.at? job.type key = some m → m.connector ≠ some job.connector.id :=
    nofun
  have hfound : job.existing? known (disk "r1" "s2 ") = some "raid_r1_s2" := by decide +kernel
  refine ⟨hnone, reflTransGen_known, hfound, ?_⟩
  obtain ⟨m, hid, -, hm, -⟩ := ((JobContext.existing_by_attributes_iff_by_id hnone
    reflTransGen_known (disk "r1" "s2 ")).2 _).1 hfound
  exact ⟨m, hid, hm⟩

end RackedDisks

end HardwareWatch
