import HardwareWatch.Proofs.Telemetry.Monitors
import HardwareWatch.Proofs.Telemetry.Reachable

/-!
# Whose monitor is under a key

Connectors find their monitors by keys that are made of the id of the connector and the id of the
monitor. Different ids can make the same key, and then two connectors, or a connector and the host
itself, share one monitor.

* `monitorKey_eq_some_iff` says which ids make the same key.
* `Resource.Keyed` says how keys and monitors go together. `Resource.Reachable.keyed` says that it is
  so in all reachable resources, by `Resource.Everywhere.step`, which is about any such property.
* `owned_createOrRenew_iff` says when a connector gets a monitor of its own and leaves those of others
  alone: when the key leads to none of these.
* `CollidingIds.renewal_of_another_connector` has two connectors that share a monitor.
-/

namespace HardwareWatch

open Relation

/-! ## Keys -/

/-- A connector and an id have the key of another connector, or of none, and another id. -/
def SameKey (c id : String) : Option String → String → Prop
  | none, id' => id' = c ++ "_" ++ id
  | some c', id' => (c' = c ∧ id' = id) ∨ (∃ d, c' = c ++ "_" ++ d ∧ id = d ++ "_" ++ id') ∨
    ∃ d, c = c' ++ "_" ++ d ∧ id' = d ++ "_" ++ id

theorem append_cons_eq_append_cons_iff {α : Type} {a : α} {l r l' r' : List α} :
    l ++ a :: r = l' ++ a :: r' ↔ (l' = l ∧ r' = r) ∨
      (∃ d, l' = l ++ a :: d ∧ r = d ++ a :: r') ∨ ∃ d, l = l' ++ a :: d ∧ r' = d ++ a :: r := by
  rw [List.append_eq_append_iff]
  constructor
  · rintro (⟨d, hl, hr⟩ | ⟨d, hl, hr⟩)
    · cases d with
      | nil =>
        cases hr
        exact .inl ⟨by simpa using hl, rfl⟩
      | cons b d =>
        cases hr
        exact .inr (.inl ⟨d, hl, rfl⟩)
    · cases d with
      | nil =>
        cases hr
        exact .inl ⟨by simpa using hl.symm, rfl⟩
      | cons b d =>
        cases hr
        exact .inr (.inr ⟨d, hl, rfl⟩)
  · rintro (⟨rfl, rfl⟩ | ⟨d, rfl, rfl⟩ | ⟨d, rfl, rfl⟩)
    · exact .inl ⟨[], by simp, rfl⟩
    · exact .inl ⟨a :: d, rfl, rfl⟩
    · exact .inr ⟨a :: d, rfl, rfl⟩

theorem eq_append_underscore_iff {a b e : String} :
    a = b ++ "_" ++ e ↔ a.toList = b.toList ++ '_' :: e.toList := by
  rw [← String.toList_inj, String.toList_append, String.toList_append, List.append_assoc]
  rfl

theorem exists_string_iff {P : List Char → Prop} :
    (∃ d : String, P d.toList) ↔ ∃ d, P d :=
  ⟨fun ⟨d, hd⟩ => ⟨d.toList, hd⟩, fun ⟨d, hd⟩ => ⟨.ofList d, by rwa [String.toList_ofList]⟩⟩

/-- **The ids that make the same key** are the same, or the longer id of a connector is the shorter
one with an underscore and a part of the other id behind it. -/
theorem monitorKey_eq_some_iff {c id : String} {connector : Option String} {id' : String} :
    monitorKey connector id' = monitorKey (some c) id ↔ SameKey c id connector id' := by
  cases connector with
  | none => exact Iff.rfl
  | some c' =>
    have hkeys : monitorKey (some c') id' = monitorKey (some c) id ↔
        c.toList ++ '_' :: id.toList = c'.toList ++ '_' :: id'.toList := by
      rw [monitorKey, monitorKey, eq_comm, eq_append_underscore_iff, String.toList_append,
        String.toList_append, List.append_assoc]
      rfl
    rw [hkeys, append_cons_eq_append_cons_iff, SameKey]
    simp only [eq_append_underscore_iff, String.toList_inj]
    exact or_congr_right (or_congr exists_string_iff.symm exists_string_iff.symm)

/-! ## Keys and monitors -/

namespace Resource

/-- A monitor is kept under the key of its connector and its id. The monitor of a detection is kept
under the id of its connector. -/
def Keyed (r : Resource) : Prop :=
  ∀ type key m, r.at? type key = some m →
    key = monitorKey m.connector m.id ∨ type = connectorMonitorType ∧ m.connector = some key

/-- The connector and the id of a monitor stay as they are. -/
def SameOwner (m m' : Monitor) : Prop := m'.connector = m.connector ∧ m'.id = m.id

/-- All monitors have a property that tells of their types and keys too. -/
def Everywhere (P : (type key : String) → Monitor → Prop) (r : Resource) : Prop :=
  ∀ type key m, r.at? type key = some m → P type key m

/-- What all new monitors have, and what the changes of monitors leave alone. -/
structure IsKept (P : (type key : String) → Monitor → Prop) : Prop where
  made : ∀ connector type id, P type (monitorKey connector id) (.named id type connector)
  same : ∀ {type key m m'}, SameOwner m m' → P type key m → P type key m'
  /-- A detection gives the monitor under the id of a connector to this connector. -/
  detected : ∀ {key m m'}, m'.id = m.id → m'.connector = some key →
    P connectorMonitorType key m → P connectorMonitorType key m'

namespace Everywhere

variable {P : (type key : String) → Monitor → Prop} {r r' : Resource}

theorem put (hr : r.Everywhere P) {type key : String} {m : Monitor} (hm : P type key m) :
    (r.put type key m).Everywhere P := by
  intro type' key' m' hm'
  rw [at?_put] at hm'
  split at hm'
  · rename_i h
    obtain ⟨rfl, rfl⟩ := h
    cases hm'
    exact hm
  · exact hr type' key' m' hm'

theorem found (hP : IsKept P) (hr : r.Everywhere P) (connector : Option String)
    (type id : String) : P type (monitorKey connector id) (r.found connector type id) := by
  rw [Resource.found]
  cases hm : r.at? type (monitorKey connector id) with
  | none => exact hP.made connector type id
  | some m => exact hr type _ m hm

theorem upsert (hP : IsKept P) (hr : r.Everywhere P) {connector : Option String}
    {type id : String} {f : Monitor → Monitor} (hf : ∀ m, SameOwner m (f m)) :
    (r.upsert connector type id f).Everywhere P :=
  hr.put (hP.same (hf _) (hr.found hP connector type id))

theorem update (hP : IsKept P) (hr : r.Everywhere P) (job : JobContext) (key : String)
    {f : Monitor → Monitor} (hf : ∀ m, SameOwner m (f m)) :
    (job.update r key f).Everywhere P := by
  rw [JobContext.update]
  split
  · rename_i m hm
    exact hr.put (hP.same (hf m) (hr _ _ m hm))
  · exact hr

theorem markStale (hP : IsKept P) (hr : r.Everywhere P) (connector type : String)
    (ids : NameSet) : (r.markStale connector type ids).Everywhere P := by
  intro type' key m hm
  rw [at?_markStale] at hm
  obtain ⟨m₀, hm₀, rfl⟩ := Option.map_eq_some_iff.1 hm
  have h := hr type' key m₀ hm₀
  have hsame : SameOwner m₀ { m₀ with isStale := true } := ⟨rfl, rfl⟩
  split
  · exact hP.same hsame h
  · exact h

/-- A small step leaves all monitors with such a property. -/
theorem step (hP : IsKept P) (hr : r.Everywhere P) (h : Step r r') : r'.Everywhere P := by
  cases h with
  | endpoint name value time => exact hr.upsert hP fun m => ⟨rfl, rfl⟩
  | detection time c result =>
    have h := hr.found hP none connectorMonitorType c.id
    exact hr.put (hP.detected (m := r.found none connectorMonitorType c.id) rfl rfl h)
  | renewal h =>
    obtain ⟨id, -, hid⟩ := Option.map_eq_some_iff.1 h
    cases hid
    exact hr.upsert hP fun m => ⟨rfl, rfl⟩
  | values job key row =>
    refine hr.update hP job key fun m => ?_
    rw [job.rewritten_writeValues row m]
    exact ⟨rfl, rfl⟩
  | staleness connector type ids => exact hr.markStale hP connector type ids
  | other hm hn =>
    intro type key m hm'
    rw [at?, monitorsOf, hm] at hm'
    exact hr type key m hm'

end Everywhere

theorem Reachable.everywhere {P : (type key : String) → Monitor → Prop} (hP : IsKept P)
    {r : Resource} (hr : r.Reachable) : r.Everywhere P :=
  hr.invariant (fun _ _ => nofun) fun _ _ h => h.step hP

/-- **Keys and monitors go together** in all reachable resources. -/
theorem Reachable.keyed {r : Resource} (hr : r.Reachable) : r.Keyed :=
  hr.everywhere
    { made := fun _ _ _ => .inl rfl
      same := fun hsame h => by rwa [hsame.1, hsame.2]
      detected := fun _ hc _ => .inr ⟨rfl, hc⟩ }

end Resource

/-! ## Renewals -/

namespace JobContext

/-- The connector has the monitor with the id under its key, and the monitors of others, and the one
that stands for the host, are what they were. -/
def LeavesOthersAlone (job : JobContext) (id : String) (r r' : Resource) : Prop :=
  (∃ m, r'.at? job.type (monitorKey (some job.connector.id) id) = some m ∧
    m.connector = some job.connector.id ∧ m.id = id) ∧
  r.Keeps (fun m m' => m.connector ≠ some job.connector.id ∨ m.isEndpoint = true → m' = m) r'

/-- What is under the key of a connector in a reachable resource has the id of the key, if it belongs
to the connector. -/
theorem id_of_connector {r : Resource} (hr : r.Reachable) {type c id : String} {m : Monitor}
    (hm : r.at? type (monitorKey (some c) id) = some m) (hc : m.connector = some c) :
    m.id = id := by
  rcases hr.keyed type _ m hm with hkey | ⟨-, hkey⟩
  · rw [hc] at hkey
    exact ((String.append_right_inj (c ++ "_")).1 hkey).symm
  · have hself : c = c ++ "_" ++ id := Option.some.inj (hc.symm.trans hkey)
    rw [eq_append_underscore_iff, List.self_eq_append_right] at hself
    exact nomatch hself

/-- **A connector gets a monitor of its own** and leaves those of others alone exactly where its key
leads to no monitor of another connector, and to none that stands for the host and would be changed.
The key is that of all the ids that are listed. -/
theorem owned_createOrRenew_iff {r : Resource} (hr : r.Reachable) {job : JobContext}
    {attributes : NameMap String} {id : String} (hid : job.monitorId? attributes = some id) :
    (∃ r', job.createOrRenew r attributes = some (r', monitorKey (some job.connector.id) id) ∧
      (job.LeavesOthersAlone id r r' ↔
        ∀ m, r.at? job.type (monitorKey (some job.connector.id) id) = some m →
          m.connector = some job.connector.id ∧
            (m.isEndpoint = true → job.renew attributes m = m))) ∧
    ∀ connector id', monitorKey connector id' = monitorKey (some job.connector.id) id ↔
      SameKey job.connector.id id connector id' := by
  refine ⟨⟨_, by rw [createOrRenew, hid]; rfl, ?_⟩, fun _ _ => monitorKey_eq_some_iff⟩
  constructor
  · rintro ⟨⟨m', hm', hc, -⟩, hkeeps⟩ m hm
    rw [Resource.at?_upsert, if_pos ⟨rfl, rfl⟩, Resource.found, hm] at hm'
    cases hm'
    refine ⟨hc, fun hendpoint => ?_⟩
    obtain ⟨m'', hm'', heq⟩ := hkeeps _ _ m hm
    rw [Resource.at?_upsert, if_pos ⟨rfl, rfl⟩, Resource.found, hm] at hm''
    cases hm''
    exact heq (.inr hendpoint)
  · intro hown
    refine ⟨⟨_, by rw [Resource.at?_upsert, if_pos ⟨rfl, rfl⟩], ?_⟩, .upsert (fun m _ => rfl) ?_⟩
    · rw [Resource.found]
      cases hm : r.at? job.type (monitorKey (some job.connector.id) id) with
      | none => exact ⟨rfl, rfl⟩
      | some m =>
        obtain ⟨hc, -⟩ := hown m hm
        have hi := id_of_connector hr hm hc
        exact ⟨hc, hi⟩
    · rintro m hm (hc | hendpoint)
      · exact absurd (hown m hm).1 hc
      · exact (hown m hm).2 hendpoint

end JobContext

/-! ## Two connectors that share a monitor -/

namespace CollidingIds

/-- The job for disks of a connector. -/
def disks (connector : String) : JobContext :=
  ⟨⟨1, connector, none, none, [], ⟨[], false, [], []⟩, .empty, .empty, [], .empty⟩, "disk", ["id"],
    0⟩

/-- The attributes of a disk. -/
def disk (id : String) : NameMap String := .ofList [("id", id)]

/-- A host of which nothing is known. -/
def unknown : Resource := .named "srv" .linux

/-- The host with a disk of a connector. -/
def known : Resource :=
  unknown.upsert (some "a_b") "disk" "c" ((disks "a_b").renew (disk "c"))

/-- The disk of this connector. -/
def first : Monitor := (disks "a_b").renew (disk "c") (.named "c" "disk" (some "a_b"))

/-- This disk as another connector renews it. -/
def taken : Monitor := (disks "a").renew (disk "b_c") first

theorem reachable_unknown : unknown.Reachable := ⟨"srv", .linux, .refl⟩

/-- On a host without disks the connector makes one of its own. -/
theorem leavesOthersAlone_unknown : ∃ r',
    (disks "a").createOrRenew unknown (disk "b_c") = some (r', "a_b_c") ∧
      (disks "a").LeavesOthersAlone "b_c" unknown r' := by
  have hid : (disks "a").monitorId? (disk "b_c") = some "b_c" := by decide +kernel
  obtain ⟨⟨r', hr', hiff⟩, -⟩ := JobContext.owned_createOrRenew_iff reachable_unknown hid
  exact ⟨r', hr', hiff.2 nofun⟩

theorem reachable_known : known.Reachable := by
  have hid : (disks "a_b").monitorId? (disk "c") = some "c" := by decide +kernel
  have hrenew : (disks "a_b").createOrRenew unknown (disk "c") = some (known, "a_b_c") := by
    rw [JobContext.createOrRenew, hid]
    rfl
  exact reachable_unknown.steps (.single (.renewal hrenew))

theorem known_at? : known.at? "disk" "a_b_c" = some first := by
  rw [known, Resource.at?_upsert]
  exact if_pos ⟨rfl, rfl⟩

/-- The disk of the other connector is taken for its own. -/
theorem renewal_of_another_connector : known.Reachable ∧
    (disks "a").monitorId? (disk "b_c") = some "b_c" ∧
    monitorKey (some "a") "b_c" = monitorKey (some "a_b") "c" ∧
    ∃ r', (disks "a").createOrRenew known (disk "b_c") = some (r', "a_b_c") ∧
      r'.at? "disk" "a_b_c" = some taken ∧ taken.connector = some "a_b" ∧ taken.id = "c" ∧
      known.at? "disk" "a_b_c" = some first ∧ taken ≠ first := by
  have hid : (disks "a").monitorId? (disk "b_c") = some "b_c" := by decide +kernel
  have hne : taken.attributes ≠ first.attributes := by decide +kernel
  refine ⟨reachable_known, hid, by decide, known.upsert (some "a") "disk" "b_c"
    ((disks "a").renew (disk "b_c")), ?_, ?_, rfl, rfl, known_at?, fun h => hne (by rw [h])⟩
  · rw [JobContext.createOrRenew, hid]
    rfl
  · have hfound : known.found (some "a") "disk" "b_c" = first := by
      have hkey : monitorKey (some "a") "b_c" = "a_b_c" := by decide
      rw [Resource.found, hkey, known_at?]
      rfl
    rw [Resource.at?_upsert, hfound]
    exact if_pos ⟨rfl, by decide⟩

end CollidingIds

end HardwareWatch
