import HardwareWatch.Proofs.Telemetry.Ownership

/-!
# Monitors found by their ids

A look-up takes the id for a key first, and only then looks for the id among the monitors of the
type. The key of a monitor that a connector discovered is not its id, but it can be the id that is
looked up. Then the look-up gives this monitor, whether there is another one with the id or not.

* `Resource.IdInKey` says what is in keys. It holds of all monitors of reachable resources.
* `Resource.FindsById` says that a look-up gives what has the id, and nothing else.
* `Resource.findsById_iff_at` says when a look-up goes by the id in any resource.
* `Resource.Reachable.findsById_iff` says for which ids it does in a reachable one: for those that
  are no key of a connector's monitor.
* `KeyForId.misses_disk` has a look-up that passes over the monitor with the id.
-/

namespace HardwareWatch

theorem monitorKey_some_ne (c id : String) : monitorKey (some c) id ≠ id := by
  intro h
  have hlength := congrArg String.length h
  simp only [monitorKey, String.length_append] at hlength
  have hunderscore : "_".length = 1 := by decide +kernel
  omega

namespace Resource

variable {r : Resource} {type id : String} {m : Monitor}

/-- The key is the id, or the id with that of a connector in front. -/
def IdInKey (_ key : String) (m : Monitor) : Prop := ∃ connector, key = monitorKey connector m.id

theorem Reachable.idInKey (hr : r.Reachable) : r.Everywhere IdInKey :=
  hr.everywhere
    { made := fun connector _ _ => ⟨connector, rfl⟩
      same := fun hsame ⟨connector, hkey⟩ => ⟨connector, by rw [hkey, hsame.2]⟩
      detected := fun hid _ ⟨connector, hkey⟩ => ⟨connector, by rw [hkey, hid]⟩ }

/-- A monitor with another id than its key is under a key of a connector. -/
theorem Reachable.id_ne_iff (hr : r.Reachable) {key : String} (hm : r.at? type key = some m) :
    m.id ≠ key ↔ ∃ c, key = monitorKey (some c) m.id := by
  constructor
  · intro hne
    obtain ⟨connector, hkey⟩ := hr.idInKey type key m hm
    cases connector with
    | none => exact absurd hkey.symm hne
    | some c => exact ⟨c, hkey⟩
  · rintro ⟨c, hkey⟩ he
    exact monitorKey_some_ne c m.id (hkey.symm.trans he.symm)

/-! ## Look-ups -/

/-- There is a monitor of the type with the id. -/
def HasId (r : Resource) (type id : String) : Prop := ∃ key m, r.at? type key = some m ∧ m.id = id

/-- A look-up of the id gives a monitor exactly if there is one with the id, and gives one that has
it. -/
structure FindsById (r : Resource) (type id : String) : Prop where
  isSome_iff : (r.monitor? type id).isSome ↔ r.HasId type id
  id_eq : ∀ m, r.monitor? type id = some m → m.id = id

theorem monitor?_of_at? (h : r.at? type id = some m) : r.monitor? type id = some m := by
  rw [monitor?, h]
  rfl

theorem monitor?_of_at?_eq_none (h : r.at? type id = none) :
    r.monitor? type id = (r.monitorsOf type).values.find? (·.id = id) := by
  rw [monitor?, h]
  rfl

theorem hasId_iff : r.HasId type id ↔ ∃ m ∈ (r.monitorsOf type).values, m.id = id := by
  constructor
  · rintro ⟨key, m, hm, hid⟩
    exact ⟨m, NameMap.mem_values_iff.2 ⟨key, hm⟩, hid⟩
  · rintro ⟨m, hm, hid⟩
    obtain ⟨key, hkey⟩ := NameMap.mem_values_iff.1 hm
    exact ⟨key, m, hkey, hid⟩

/-- Whatever has the id, the look-up gives something. -/
theorem isSome_monitor?_of_hasId (h : r.HasId type id) : (r.monitor? type id).isSome := by
  cases hm : r.at? type id with
  | some m => rw [monitor?_of_at? hm, Option.isSome_some]
  | none =>
    rw [monitor?_of_at?_eq_none hm, List.find?_isSome]
    simpa using hasId_iff.1 h

/-- What is looked up is under the id as its key, or has the id. -/
theorem at?_or_of_monitor? (h : r.monitor? type id = some m) :
    r.at? type id = some m ∨ m.id = id ∧ r.HasId type id := by
  cases hm : r.at? type id with
  | some m' =>
    rw [monitor?_of_at? hm] at h
    exact .inl h
  | none =>
    rw [monitor?_of_at?_eq_none hm] at h
    have hid : m.id = id := by simpa using List.find?_some h
    exact .inr ⟨hid, hasId_iff.2 ⟨m, List.mem_of_find?_eq_some h, hid⟩⟩

/-- A look-up goes by the id exactly if what is under the id as a key has the id. -/
theorem findsById_iff_at : r.FindsById type id ↔ ∀ m, r.at? type id = some m → m.id = id := by
  refine ⟨fun h m hm => h.id_eq m (monitor?_of_at? hm), fun h => ?_⟩
  have hfound : ∀ m, r.monitor? type id = some m → m.id = id ∧ r.HasId type id := fun m hm =>
    (at?_or_of_monitor? hm).elim (fun hat => ⟨h m hat, id, m, hat, h m hat⟩) fun hid => hid
  refine ⟨⟨fun hsome => ?_, isSome_monitor?_of_hasId⟩, fun m hm => (hfound m hm).1⟩
  obtain ⟨m, hm⟩ := Option.isSome_iff_exists.1 hsome
  exact (hfound m hm).2

/-- **The ids that are found.** In a reachable resource a look-up gives something wherever a monitor
has the id, and what it gives has the id or is under it as the key of a connector. So it goes by the
id exactly if the id is no key of a connector's monitor, and look-ups of all ids do exactly if no
monitor of the type is under such a key. -/
theorem Reachable.findsById_iff (hr : r.Reachable) (type : String) :
    (∀ id, (r.HasId type id → (r.monitor? type id).isSome) ∧
      (∀ m, r.monitor? type id = some m → m.id = id ∨ ∃ c, id = monitorKey (some c) m.id) ∧
      (r.FindsById type id ↔ ∀ m, r.at? type id = some m → ¬∃ c, id = monitorKey (some c) m.id)) ∧
    ((∀ id, r.FindsById type id) ↔
      ∀ key m, r.at? type key = some m → ¬∃ c, key = monitorKey (some c) m.id) := by
  have hiff : ∀ id, r.FindsById type id ↔
      ∀ m, r.at? type id = some m → ¬∃ c, id = monitorKey (some c) m.id := by
    intro id
    rw [findsById_iff_at]
    refine forall₂_congr fun m hm => ?_
    rw [← hr.id_ne_iff hm, not_not]
  refine ⟨fun id => ⟨isSome_monitor?_of_hasId, fun m hm => ?_, hiff id⟩, forall_congr' hiff⟩
  rcases at?_or_of_monitor? hm with hat | ⟨hid, -⟩
  · exact or_iff_not_imp_left.2 (hr.id_ne_iff hat).1
  · exact .inl hid

end Resource

/-! ## A key that is the id of another monitor -/

namespace KeyForId

open CollidingIds

/-- The host with a disk of a connector. -/
def first : Resource := unknown.upsert (some "a") "disk" "d0" ((disks "a").renew (disk "d0"))

/-- The host with a disk of another connector too, whose id is the key of the first one. -/
def both : Resource := first.upsert (some "b") "disk" "a_d0" ((disks "b").renew (disk "a_d0"))

theorem reachable_first : first.Reachable := by
  have hid : (disks "a").monitorId? (disk "d0") = some "d0" := by decide +kernel
  have hrenew : (disks "a").createOrRenew unknown (disk "d0") = some (first, "a_d0") := by
    rw [JobContext.createOrRenew, hid]
    rfl
  exact reachable_unknown.steps (.single (.renewal hrenew))

theorem reachable_both : both.Reachable := by
  have hid : (disks "b").monitorId? (disk "a_d0") = some "a_d0" := by decide +kernel
  have hrenew : (disks "b").createOrRenew first (disk "a_d0") = some (both, "b_a_d0") := by
    rw [JobContext.createOrRenew, hid]
    rfl
  exact reachable_first.steps (.single (.renewal hrenew))

/-- The disk of the first connector is found by its id. -/
theorem finds_first_disk : both.Reachable ∧
    (∀ m, both.at? "disk" "d0" = some m → ¬∃ c, "d0" = monitorKey (some c) m.id) ∧
    both.FindsById "disk" "d0" := by
  have hnone : both.at? "disk" "d0" = none := by decide +kernel
  have hkey : ∀ m, both.at? "disk" "d0" = some m → ¬∃ c, "d0" = monitorKey (some c) m.id := by
    intro m hm
    rw [hnone] at hm
    cases hm
  exact ⟨reachable_both, hkey, ((reachable_both.findsById_iff "disk").1 "d0").2.2.2 hkey⟩

/-- The look-up of the second disk gives the first one, and a look-up gives the second one by an id
that none has. -/
theorem misses_disk : both.Reachable ∧
    (both.monitorsOf "disk").values.map (·.id) = ["d0", "a_d0"] ∧
    (both.monitor? "disk" "a_d0").map (·.id) = some "d0" ∧
    (both.monitor? "disk" "b_a_d0").map (·.id) = some "a_d0" ∧
    ¬both.FindsById "disk" "a_d0" ∧ ¬both.FindsById "disk" "b_a_d0" := by
  have hids : (both.monitorsOf "disk").values.map (·.id) = ["d0", "a_d0"] := by decide +kernel
  have hfirst : (both.monitor? "disk" "a_d0").map (·.id) = some "d0" := by decide +kernel
  have hsecond : (both.monitor? "disk" "b_a_d0").map (·.id) = some "a_d0" := by decide +kernel
  refine ⟨reachable_both, hids, hfirst, hsecond, fun h => ?_, fun h => ?_⟩
  · obtain ⟨m, hm, hid⟩ := Option.map_eq_some_iff.1 hfirst
    exact absurd ((h.id_eq m hm).symm.trans hid) (by decide)
  · obtain ⟨m, hm, hid⟩ := Option.map_eq_some_iff.1 hsecond
    exact absurd ((h.id_eq m hm).symm.trans hid) (by decide)

end KeyForId

end HardwareWatch
