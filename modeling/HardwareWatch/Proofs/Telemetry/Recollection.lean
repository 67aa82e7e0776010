import HardwareWatch.Proofs.Telemetry.Recording

/-!
# Rows that are collected twice at one instant

Which monitors the rows of a table are about, and which values they have, depends on the connectors
and the attributes of the monitors that there are. A collection changes neither, so the whole plan
of a collection is settled when it begins, and a second one at the same instant has the same plan.

* `Resource.identities` is the connectors and the attributes of the monitors.
* `JobContext.plan` is the monitors that some rows are about with what is written onto them, and
  `JobContext.collect_eq_carryOut` says that a collection carries its plan out.
* `JobContext.carryOut_eq` says what this does to each monitor.
* `JobContext.collect_twice` is the result.
-/

namespace HardwareWatch

/-! ## What rows are read against -/

/-- The connectors and the attributes of the monitors of a type, by their keys. -/
def Resource.identities (r : Resource) (type : String) :
    NameMap (Option String × NameMap String) :=
  (r.monitorsOf type).mapEntries fun _ m => (m.connector, m.attributes)

variable {r r' : Resource}

namespace RowReader

variable {row : Row} {number : Nat}

theorem lookup?_of_identities (h : r.identities = r'.identities) (arguments : List String) :
    lookup? ⟨row, number, r⟩ arguments = lookup? ⟨row, number, r'⟩ arguments := by
  have hfind (r : Resource) (type name keyName wanted : String) :
      (((r.monitorsOf type).values.find? fun m => m.attributes.get? keyName = some wanted).bind
        (·.attributes.get? name)) =
      ((r.identities type).values.find? fun known => known.2.get? keyName = some wanted).bind
        (·.2.get? name) := by
    rw [Resource.identities, NameMap.values_mapEntries, List.find?_map, Option.bind_map]
    rfl
  rw [lookup?.eq_def, lookup?.eq_def]
  split
  · rename_i type name keyName keyValue
    refine congrArg (Option.bind _) (funext fun wanted => ?_)
    exact (hfind r type name keyName wanted).trans (h ▸ (hfind r' type name keyName wanted).symm)
  · rfl

theorem plain?_of_identities (h : r.identities = r'.identities) :
    plain? ⟨row, number, r⟩ = plain? ⟨row, number, r'⟩ := by
  funext directive
  rw [plain?, plain?]
  cases FunctionCall.parse? directive with
  | none => rfl
  | some call =>
    dsimp only
    split
    case h_7 => exact lookup?_of_identities h _
    all_goals rfl

theorem metric?_of_identities (h : r.identities = r'.identities) :
    metric? ⟨row, number, r⟩ = metric? ⟨row, number, r'⟩ := by
  funext directive
  rw [metric?, metric?, plain?_of_identities h]
  split <;> rfl

end RowReader

theorem Mapping.interpret_of_identities (h : r.identities = r'.identities) (m : Mapping)
    (row : Row) (number : Nat) :
    m.interpret ⟨row, number, r⟩ = m.interpret ⟨row, number, r'⟩ := by
  rw [interpret, interpret, RowReader.plain?_of_identities h, RowReader.metric?_of_identities h]

namespace JobContext

variable (job : JobContext) (mapping : Mapping)

theorem existing?_of_identities (h : r.identities = r'.identities)
    (attributes : NameMap String) : job.existing? r attributes = job.existing? r' attributes := by
  have hfind (r : Resource) : job.existing? r attributes =
      ((r.identities job.type).toList.find? fun (_, connector, known) =>
        connector == some job.connector.id && job.keys.all (sameKey known attributes)).map
          Prod.fst := by
    rw [existing?, Resource.identities, NameMap.mapEntries, List.find?_map, Option.map_map]
    rfl
  rw [hfind, hfind, h]

/-- The key of the monitor that a row is about, with the values of the row. -/
def target? (r : Resource) (row : Nat × Row) : Option (String × InterpretedRow) :=
  let values := mapping.interpret ⟨row.2, row.1, r⟩
  (job.existing? r values.attributes).map fun key => (key, values)

/-- The keys of the monitors that the rows are about, each with the values of the row. -/
def plan (rows : List Row) (r : Resource) : List (String × InterpretedRow) :=
  (numbered rows).filterMap (job.target? mapping r)

/-- The resource after the values of a plan were written. -/
def carryOut (plan : List (String × InterpretedRow)) (r : Resource) : Resource :=
  plan.foldl (fun r p => job.update r p.1 (job.writeValues p.2)) r

theorem target?_of_identities (h : r.identities = r'.identities) :
    job.target? mapping r = job.target? mapping r' := by
  funext row
  rw [target?, target?, mapping.interpret_of_identities h, job.existing?_of_identities h]

theorem at?_update (r : Resource) (key : String) (f : Monitor → Monitor) (type' key' : String) :
    (job.update r key f).at? type' key' =
      (r.at? type' key').map fun m => if type' = job.type ∧ key' = key then f m else m := by
  by_cases h : type' = job.type ∧ key' = key
  · obtain ⟨rfl, rfl⟩ := h
    cases hm : r.at? job.type key' <;> simp [update, hm, Resource.at?_put]
  · have hother : ¬(job.type = type' ∧ key = key') := fun he => h ⟨he.1.symm, he.2.symm⟩
    simp only [if_neg h, Option.map_id']
    rw [update]
    split
    · rw [Resource.at?_put, if_neg hother]
    · rfl

theorem identities_update (r : Resource) (key : String) (row : InterpretedRow) :
    (job.update r key (job.writeValues row)).identities = r.identities := by
  funext type
  refine NameMap.ext fun key' => ?_
  have hkept (m : Monitor) : ((job.writeValues row m).connector, (job.writeValues row m).attributes) =
      (m.connector, m.attributes) := by rw [writeValues_eq]
  rw [Resource.identities, Resource.identities, NameMap.get?_mapEntries, NameMap.get?_mapEntries,
    ← Resource.at?, at?_update, Option.map_map, ← Resource.at?]
  refine congrArg (fun f => Option.map f _) (funext fun m => ?_)
  rw [Function.comp_apply]
  split
  · exact hkept m
  · rfl

/-! ## A collection and its plan -/

/-- Rows that are applied to a resource one by one carry out the plan that there was for them at the
start. -/
theorem foldl_collectRow (h : r.identities = r'.identities) (rows : List (Nat × Row))
    (count : Nat) :
    rows.foldl (job.collectRow mapping) (r', count) =
      (job.carryOut (rows.filterMap (job.target? mapping r)) r',
        count + (rows.filterMap (job.target? mapping r)).length) := by
  induction rows generalizing r' count with
  | nil => rfl
  | cons row rest ih =>
    have hrow : job.collectRow mapping (r', count) row =
        match job.target? mapping r row with
        | none => (r', count)
        | some p => (job.update r' p.1 (job.writeValues p.2), count + 1) := by
      rw [job.target?_of_identities mapping h, collectRow, target?]
      cases job.existing? r' _ <;> rfl
    rw [List.foldl_cons, hrow, List.filterMap_cons]
    cases job.target? mapping r row with
    | none => exact ih h count
    | some p =>
      dsimp only
      rw [ih (h.trans (job.identities_update r' p.1 p.2).symm), List.length_cons,
        Nat.add_assoc, Nat.add_comm 1]
      rfl

theorem collect_eq_carryOut (rows : List Row) (r : Resource) : job.collect mapping rows r =
    (job.carryOut (job.plan mapping rows r) r, (job.plan mapping rows r).length) := by
  rw [collect, job.foldl_collectRow mapping rfl, Nat.zero_add]
  rfl

theorem identities_carryOut (plan : List (String × InterpretedRow)) (r : Resource) :
    (job.carryOut plan r).identities = r.identities :=
  List.foldlRecOn (motive := fun r' => r'.identities = r.identities) _ _ rfl fun r' h p _ =>
    (job.identities_update r' p.1 p.2).trans h

theorem identities_collect (rows : List Row) (r : Resource) :
    (job.collect mapping rows r).1.identities = r.identities := by
  rw [collect_eq_carryOut]
  exact job.identities_carryOut _ r

theorem update_eq (r : Resource) (key : String) (f : Monitor → Monitor) : job.update r key f =
    { r with monitors := r.monitors.modify job.type (·.modify key f) } := by
  rw [NameMap.modify_eq, update, Resource.at?, Resource.monitorsOf]
  cases hms : r.monitors.get? job.type with
  | none => rfl
  | some ms =>
    dsimp only [Option.getD_some]
    rw [NameMap.modify_eq]
    cases hm : ms.get? key with
    | none => rw [NameMap.insert_of_get? hms]
    | some m => simp only [Resource.put, Resource.monitorsOf, hms, Option.getD_some]

/-- Onto each monitor the rows that are about it are written. -/
theorem carryOut_eq (plan : List (String × InterpretedRow)) (r : Resource) :
    job.carryOut plan r = { r with
      monitors := r.monitors.modify job.type (·.mapEntries fun key m =>
        job.writeRows (valuesUnder key plan) m) } := by
  induction plan generalizing r with
  | nil =>
    have hself (monitors : NameMap Monitor) :
        (monitors.mapEntries fun key m => job.writeRows (valuesUnder key []) m) = monitors :=
      monitors.mapEntries_self
    simp only [hself, NameMap.modify_self]
    rfl
  | cons p rest ih =>
    have hrows (monitors : NameMap Monitor) :
        ((monitors.modify p.1 (job.writeValues p.2)).mapEntries fun key m =>
          job.writeRows (valuesUnder key rest) m) =
        monitors.mapEntries fun key m => job.writeRows (valuesUnder key (p :: rest)) m := by
      rw [NameMap.modify, NameMap.mapEntries_mapEntries]
      congr 1
      funext key m
      rw [valuesUnder_cons]
      by_cases h : p.1 = key
      · rw [if_pos h, if_pos h.symm]
        rfl
      · rw [if_neg h, if_neg (Ne.symm h)]
    rw [carryOut, List.foldl_cons, ← carryOut, ih, update_eq]
    simp only [NameMap.modify_modify, hrows]

variable {job mapping}

/-- Carried out twice, a plan with orderly values leaves the same resource. -/
theorem carryOut_twice {plan : List (String × InterpretedRow)}
    (h : ∀ key, Orderly ((valuesUnder key plan).flatMap (·.metrics.toList))) (r : Resource) :
    job.carryOut plan (job.carryOut plan r) = job.carryOut plan r := by
  simp only [carryOut_eq, NameMap.modify_modify, NameMap.mapEntries_mapEntries, writeRows_twice (h _)]

end JobContext

/-! ## The values that a mapping makes -/

theorem RowReader.isPlain_metric? {reader reader' : RowReader} {directive : String}
    {value value' : MetricValue} (h : reader.metric? directive = some value)
    (h' : reader'.metric? directive = some value') : value.isPlain = value'.isPlain := by
  rw [metric?] at h h'
  -- Which function the directive calls does not depend on the reader.
  generalize FunctionCall.parse? directive = call at h h'
  split at h
  case h_1 | h_2 =>
    obtain ⟨_, -, rfl⟩ := Option.map_eq_some_iff.1 h
    obtain ⟨_, -, rfl⟩ := Option.map_eq_some_iff.1 h'
    rfl
  case h_3 hrate hcounter =>
    obtain ⟨_, -, rfl⟩ := Option.map_eq_some_iff.1 h
    split at h'
    · exact absurd rfl (hrate _)
    · exact absurd rfl (hcounter _)
    · obtain ⟨_, -, rfl⟩ := Option.map_eq_some_iff.1 h'
      rfl

namespace Mapping

variable {m : Mapping}

theorem exists_directive {reader : RowReader} {v : String × MetricValue}
    (h : v ∈ (m.interpret reader).metrics.toList) :
    ∃ directive, m.metrics.get? v.1 = some directive ∧ reader.metric? directive = some v.2 := by
  obtain ⟨⟨name, directive⟩, hmem, hv⟩ :=
    List.mem_filterMap.1 (NameMap.mem_of_mem_toList_ofList h)
  dsimp only at hv
  obtain ⟨value, hvalue, rfl⟩ := Option.map_eq_some_iff.1 hv
  exact ⟨directive, NameMap.get?_eq_some_iff.2 hmem, hvalue⟩

/-- A mapping that reserves no name makes orderly values: whether a value is plain depends on the
directive for its name. -/
theorem orderly_interpret (h : ∀ name ∈ m.metrics.keys, ¬IsReserved name)
    {rows : List InterpretedRow} (hrows : ∀ row ∈ rows, ∃ reader, row = m.interpret reader) :
    Orderly (rows.flatMap (·.metrics.toList)) := by
  have hdirective : ∀ v ∈ rows.flatMap (·.metrics.toList), ∃ reader directive,
      m.metrics.get? v.1 = some directive ∧ RowReader.metric? reader directive = some v.2 := by
    intro v hv
    obtain ⟨row, hrow, hv⟩ := List.mem_flatMap.1 hv
    obtain ⟨reader, rfl⟩ := hrows row hrow
    exact ⟨reader, exists_directive hv⟩
  constructor
  · intro v hv
    obtain ⟨-, directive, hget, -⟩ := hdirective v hv
    exact h v.1 (List.mem_map_of_mem (NameMap.get?_eq_some_iff.1 hget))
  · intro v hv v' hv' he
    obtain ⟨reader, directive, hget, hvalue⟩ := hdirective v hv
    obtain ⟨reader', directive', hget', hvalue'⟩ := hdirective v' hv'
    rw [he, hget'] at hget
    cases hget
    exact RowReader.isPlain_metric? hvalue hvalue'

end Mapping

namespace JobContext

/-- **Collecting twice at one instant is collecting once.** For every mapping that has no metric with
a name that is reserved for baselines: rows that are collected a second time at the same instant
leave the whole resource as the first time left it, and as many rows have a monitor. -/
theorem collect_twice (job : JobContext) (mapping : Mapping)
    (h : ∀ name ∈ mapping.metrics.keys, ¬IsReserved name) (rows : List Row) (r : Resource) :
    job.collect mapping rows (job.collect mapping rows r).1 = job.collect mapping rows r := by
  have hplan : job.plan mapping rows (job.collect mapping rows r).1 = job.plan mapping rows r := by
    rw [collect_eq_carryOut, plan, plan,
      job.target?_of_identities mapping (job.identities_carryOut _ r)]
  have horderly (key : String) :
      Orderly ((valuesUnder key (job.plan mapping rows r)).flatMap (·.metrics.toList)) := by
    refine mapping.orderly_interpret h fun row hrow => ?_
    obtain ⟨_, -, htarget⟩ := List.mem_filterMap.1 (mem_valuesUnder_iff.1 hrow)
    obtain ⟨_, -, he⟩ := Option.map_eq_some_iff.1 htarget
    exact ⟨_, (Prod.mk.inj he).2.symm⟩
  rw [collect_eq_carryOut, hplan, collect_eq_carryOut, carryOut_twice horderly]

end JobContext

/-! ## A disk with a size and a rate -/

namespace DiskActivity

/-- The job for the disks of a connector. -/
def job : JobContext :=
  ⟨⟨1, "raid", none, none, [], ⟨[], false, [], []⟩, .empty, .empty, [], .empty⟩, "disk", ["id"],
    60000⟩

/-- A size, and a rate of the bytes that were read. -/
def mapping : Mapping :=
  ⟨"disks", .ofList [("id", "$1")], .ofList [("hw.size", "$2"), ("hw.read", "rate($3)")], .empty⟩

/-- A host on which one disk was discovered. -/
def host : Resource :=
  (Resource.named "srv" .linux).upsert (some "raid") "disk" "sda"
    (job.renew (.ofList [("id", "sda")]))

/-- Two rows about the disk, and one about a disk that is not known. -/
def rows : List Row := [["sda", "20", "7"], ["sdb", "8", "1"], ["sda", "21", "9"]]

theorem collect_disk_twice :
    (∀ name ∈ mapping.metrics.keys, ¬IsReserved name) ∧ (job.collect mapping rows host).2 = 2 ∧
      job.collect mapping rows (job.collect mapping rows host).1 = job.collect mapping rows host := by
  have hhead : ∀ name ∈ mapping.metrics.keys, name.toList.head? ≠ some '_' := by decide +kernel
  have hnames : ∀ name ∈ mapping.metrics.keys, ¬IsReserved name := fun name h =>
    not_isReserved (hhead name h)
  exact ⟨hnames, by decide +kernel, job.collect_twice mapping hnames rows host⟩

end DiskActivity

end HardwareWatch
