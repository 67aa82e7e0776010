import HardwareWatch.Proofs.Telemetry.Ownership

/-!
# The monitors that a discovery finds

A discovery makes or renews one monitor for each of its rows and lists their ids. Where keys and
monitors of the type go together, the listed ids are those of the monitors that were renewed, and
no monitor of another connector is touched.

* `Resource.KeyedIn` and `Resource.OwnKeys` say how keys and monitors of a type go together.
* `JobContext.discoverRow_eq` says all that one row does, `JobContext.discoverRow_cases` what it does
  where keys and monitors go together.
* `JobContext.Discovered` is what holds after any number of rows. It is kept by each row, and
  `JobContext.discovered_discover` says that it holds after a discovery.
-/

namespace HardwareWatch

/-- A key of a connector has one id. -/
theorem monitorKey_inj {connector id id' : String} :
    monitorKey (some connector) id = monitorKey (some connector) id' ↔ id = id' :=
  String.append_right_inj (connector ++ "_")

namespace Resource

/-- Every monitor of a type is kept under the key of its connector and its id. -/
def KeyedIn (r : Resource) (type : String) : Prop :=
  ∀ key m, r.at? type key = some m → key = monitorKey m.connector m.id

/-- No key of a connector leads to a monitor of another one. -/
def OwnKeys (r : Resource) (connector type : String) : Prop :=
  ∀ id m, r.at? type (monitorKey (some connector) id) = some m → m.connector = some connector

variable {r : Resource} {connector type key id : String} {m : Monitor}

theorem at?_of_monitorsOf {r' : Resource} (h : r'.monitorsOf type = r.monitorsOf type)
    (key : String) : r'.at? type key = r.at? type key := by rw [at?, at?, h]

theorem put_put (r : Resource) (type key : String) (m m' : Monitor) :
    (r.put type key m).put type key m' = r.put type key m' := by
  simp only [put, monitorsOf, NameMap.get?_insert, if_pos, Option.getD_some, NameMap.insert_insert]

/-- The monitor under a key of its connector has the id of the key. -/
theorem KeyedIn.id_eq (h : r.KeyedIn type)
    (hm : r.at? type (monitorKey (some connector) id) = some m)
    (hc : m.connector = some connector) : m.id = id := by
  have hkey := h _ m hm
  rw [hc, monitorKey_inj] at hkey
  exact hkey.symm

theorem KeyedIn.put (h : r.KeyedIn type) (hkey : key = monitorKey m.connector m.id) :
    (r.put type key m).KeyedIn type := by
  intro key' m' hm'
  rw [at?_put] at hm'
  split at hm'
  · rename_i he
    cases hm'
    exact he.2 ▸ hkey
  · exact h key' m' hm'

theorem OwnKeys.put (h : r.OwnKeys connector type) (hm : m.connector = some connector) :
    (r.put type key m).OwnKeys connector type := by
  intro id' m' hm'
  rw [at?_put] at hm'
  split at hm'
  · cases hm'
    exact hm
  · exact h id' m' hm'

end Resource

/-- The monitor has the owner it had and has not become stale. If it belongs to another connector
than the one that discovers, it is as stale as it was. -/
structure Monitor.Renewed (connector : String) (m m' : Monitor) : Prop where
  owner : Resource.SameOwner m m'
  fresh : m'.isStale = true → m.isStale = true
  others : m.connector ≠ some connector → m'.isStale = m.isStale

namespace Monitor.Renewed

variable {connector : String} {m m' m'' : Monitor}

theorem refl (m : Monitor) : m.Renewed connector m := ⟨⟨rfl, rfl⟩, fun h => h, fun _ => rfl⟩

theorem trans (h : m.Renewed connector m') (h' : m'.Renewed connector m'') :
    m.Renewed connector m'' := by
  refine ⟨⟨h'.owner.1.trans h.owner.1, h'.owner.2.trans h.owner.2⟩, fun hs => h.fresh (h'.fresh hs),
    fun hc => ?_⟩
  exact (h'.others fun hc' => hc (h.owner.1 ▸ hc')).trans (h.others hc)

end Monitor.Renewed

namespace JobContext

open Resource

variable {job : JobContext} {mapping : Mapping} {r : Resource} {state : Resource × NameSet}

theorem update_put (r : Resource) (key : String) (m : Monitor) (f : Monitor → Monitor) :
    job.update (r.put job.type key m) key f = r.put job.type key (f m) := by
  rw [update, at?_put, if_pos ⟨rfl, rfl⟩]
  exact put_put ..

/-- The monitor with an id as a row leaves it. -/
def renewed (job : JobContext) (values : InterpretedRow) (r : Resource) (id : String) : Monitor :=
  job.writeValues values (job.renew values.attributes (r.found (some job.connector.id) job.type id))

/-- A row that has the keys puts the monitor with its id in place and lists the id. -/
theorem discoverRow_eq (state : Resource × NameSet) (row : Nat × Row) :
    job.discoverRow mapping state row =
      let values := mapping.interpret ⟨row.2, row.1, state.1⟩
      match job.monitorId? values.attributes with
      | none => state
      | some id =>
        let m := job.renewed values state.1 id
        (state.1.put job.type (monitorKey (some job.connector.id) id) m, state.2.add m.id) := by
  obtain ⟨r, ids⟩ := state
  rw [discoverRow, createOrRenew]
  dsimp only
  generalize mapping.interpret ⟨row.2, row.1, r⟩ = values
  cases job.monitorId? values.attributes with
  | none => rfl
  | some id =>
    have hid : (job.renewed values r id).id =
        (job.renew values.attributes (r.found (some job.connector.id) job.type id)).id := by
      rw [renewed, job.rewritten_writeValues values]
    dsimp only [Option.map_some]
    rw [hid, upsert, update_put, at?_put, if_pos ⟨rfl, rfl⟩]
    rfl

/-- **What a row does**: nothing, or a monitor of the connector that is not stale is put under the
key of its id, in the place of itself if there is one, and its id is listed. -/
theorem discoverRow_cases (hkeyed : state.1.KeyedIn job.type)
    (hown : state.1.OwnKeys job.connector.id job.type) (row : Nat × Row) :
    job.discoverRow mapping state row = state ∨
      ∃ m, m.connector = some job.connector.id ∧ m.isStale = false ∧
        job.discoverRow mapping state row =
          (state.1.put job.type (monitorKey m.connector m.id) m, state.2.add m.id) ∧
        ∀ m₀, state.1.at? job.type (monitorKey m.connector m.id) = some m₀ → SameOwner m₀ m := by
  rw [discoverRow_eq]
  generalize mapping.interpret ⟨row.2, row.1, state.1⟩ = values
  dsimp only
  cases job.monitorId? values.attributes with
  | none => exact .inl rfl
  | some id =>
    have howner {m₀ : Monitor}
        (hm₀ : state.1.at? job.type (monitorKey (some job.connector.id) id) = some m₀) :
        m₀.connector = some job.connector.id ∧ m₀.id = id :=
      ⟨hown id m₀ hm₀, hkeyed.id_eq hm₀ (hown id m₀ hm₀)⟩
    have hfound : (state.1.found (some job.connector.id) job.type id).connector =
        some job.connector.id ∧ (state.1.found (some job.connector.id) job.type id).id = id := by
      rw [found]
      cases hm₀ : state.1.at? job.type (monitorKey (some job.connector.id) id) with
      | none => exact ⟨rfl, rfl⟩
      | some m₀ => exact howner hm₀
    have hm : (job.renewed values state.1 id).connector = some job.connector.id ∧
        (job.renewed values state.1 id).id = id ∧
        (job.renewed values state.1 id).isStale = false := by
      rw [renewed, job.rewritten_writeValues values]
      exact ⟨hfound.1, hfound.2, rfl⟩
    obtain ⟨hc, hid, hstale⟩ := hm
    refine .inr ⟨_, hc, hstale, ?_, ?_⟩
    · simp only [hc, hid]
    · rw [hc, hid]
      intro m₀ hm₀
      exact ⟨hc.trans (howner hm₀).1.symm, hid.trans (howner hm₀).2.symm⟩

/-- What holds after some rows of a discovery that began with a resource: keys and monitors still go
together, the monitors with the listed ids are not stale, and all that there were are still
there. -/
structure Discovered (job : JobContext) (r : Resource) (state : Resource × NameSet) : Prop where
  keyed : state.1.KeyedIn job.type
  own : state.1.OwnKeys job.connector.id job.type
  fresh : ∀ id, state.2.has id = true → ∃ m,
    state.1.at? job.type (monitorKey (some job.connector.id) id) = some m ∧ m.isStale = false
  kept : r.Keeps (Monitor.Renewed job.connector.id) state.1

theorem Discovered.row (h : job.Discovered r state) (mapping : Mapping) (row : Nat × Row) :
    job.Discovered r (job.discoverRow mapping state row) := by
  obtain heq | ⟨m, hc, hstale, heq, hbefore⟩ := discoverRow_cases h.keyed h.own row
  · rw [heq]
    exact h
  · rw [heq]
    refine ⟨h.keyed.put rfl, h.own.put hc, fun id hid => ?_, ?_⟩
    · rw [at?_put]
      split
      · exact ⟨m, rfl, hstale⟩
      · rename_i hne
        rw [NameSet.has_add, Bool.or_eq_true, decide_eq_true_iff] at hid
        refine h.fresh id (hid.resolve_left fun he => hne ⟨rfl, ?_⟩)
        rw [hc, he]
    · refine h.kept.trans (fun _ _ _ => .trans) (.put .refl fun m₀ hm₀ => ?_)
      have howner := hbefore m₀ hm₀
      refine ⟨howner, fun hs => absurd (hstale.symm.trans hs) Bool.false_ne_true, fun hne => ?_⟩
      exact absurd (howner.1.symm.trans hc) hne

/-- **After a discovery**, if keys and monitors went together before it. -/
theorem discovered_discover (job : JobContext) (mapping : Mapping) (rows : List Row)
    (hkeyed : r.KeyedIn job.type) (hown : r.OwnKeys job.connector.id job.type) :
    job.Discovered r (job.discover mapping rows r) := by
  refine List.foldlRecOn (motive := job.Discovered r) _ _ ?_ fun state h row _ => h.row mapping row
  exact ⟨hkeyed, hown, fun id hid => by simp at hid, .refl .refl r⟩

/-- Once the monitors that a discovery missed are marked, those of the connector are stale whose ids
are not listed. -/
theorem Discovered.isStale_markStale_iff (h : job.Discovered r state) {s : Resource}
    (hs : ∀ key, s.at? job.type key = state.1.at? job.type key) {key : String} {m : Monitor}
    (hm : (s.markStale job.connector.id job.type state.2).at? job.type key = some m)
    (hc : m.connector = some job.connector.id) :
    m.isStale = true ↔ state.2.has m.id = false := by
  rw [at?_markStale, hs] at hm
  obtain ⟨m₀, hm₀, hmarked⟩ := Option.map_eq_some_iff.1 hm
  have howner : SameOwner m₀ m := by
    rw [← hmarked]
    split <;> exact ⟨rfl, rfl⟩
  have hc₀ : m₀.connector = some job.connector.id := howner.1.symm.trans hc
  rw [howner.2]
  cases hlisted : state.2.has m₀.id with
  | false =>
    rw [if_pos ⟨rfl, by simp [isMissed, hc₀, hlisted]⟩] at hmarked
    rw [← hmarked]
    exact ⟨fun _ => rfl, fun _ => rfl⟩
  | true =>
    -- The monitor with a listed id is the one under its key.
    obtain ⟨m₁, hm₁, hfresh⟩ := h.fresh m₀.id hlisted
    have hkey := h.keyed key m₀ hm₀
    rw [hc₀] at hkey
    rw [hkey, hm₁] at hm₀
    cases hm₀
    rw [if_neg fun hmissed => by simp [isMissed, hlisted] at hmissed] at hmarked
    rw [← hmarked, hfresh]
    exact ⟨nofun, nofun⟩

end JobContext

end HardwareWatch
