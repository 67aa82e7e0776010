import HardwareWatch.Proofs.Telemetry.Identification

/-!
# Rows that are kept apart

The id of a monitor is the values of its keys with underscores between them, and a value may have
underscores of its own. So rows with different values can come to one id. They share a monitor then,
which has the values of the last of them, and the others are not found by a collection.

* `Text.join_underscore_eq_iff` says which values come to one id.
* `JobContext.toldValues` is the values that the rows of a discovery tell, and `JobContext.IsHome`
  says that a monitor has such values and that later rows which have them are written onto it.
* `JobContext.hasMonitor_discoverRow` says what one row does to the monitors with values,
  `JobContext.hasMonitor_of_mem_toldValues` what becomes of them in a whole discovery.
* `JobContext.keepsApart_iff` is the exact condition under which rows with different values get
  monitors of their own.
-/

namespace HardwareWatch

/-! ## Texts with underscores between them -/

namespace Text

theorem map_ofList_injective : Function.Injective (List.map String.ofList) :=
  List.map_injective_iff.2 fun _ _ => String.ofList_inj.1

theorem join_underscore_eq_iff {vs ws : List String} (h : vs.length = ws.length) :
    join "_" vs = join "_" ws ↔ vs.flatMap (splitAt '_') = ws.flatMap (splitAt '_') := by
  have hpieces (us : List String) : us.flatMap (splitAt '_') =
      ((us.map String.toList).flatMap (Chars.splitBy (· == '_'))).map String.ofList := by
    rw [List.map_flatMap, List.flatMap_map]
    rfl
  have hunderscore : "_".toList = ['_'] := by decide +kernel
  rw [join, join, String.ofList_inj, hunderscore, Chars.join_eq_join_iff '_' (by simpa using h),
    hpieces, hpieces]
  exact map_ofList_injective.eq_iff.symm

theorem splitAt_of_not_mem {c : Char} {s : String} (h : c ∉ s.toList) : splitAt c s = [s] := by
  have hother : ∀ d ∈ s.toList, (d == c) = false := fun d hd =>
    beq_eq_false_iff_ne.2 fun he => h (he ▸ hd)
  rw [splitAt, splitBy, Chars.splitBy_of_forall hother, List.map_singleton, String.ofList_toList]

theorem splitAt_inj {c : Char} {s t : String} : splitAt c s = splitAt c t ↔ s = t := by
  refine ⟨fun h => ?_, fun h => h ▸ rfl⟩
  have hpieces := map_ofList_injective h
  rw [← String.toList_inj, ← Chars.join_splitBy c s.toList, hpieces, Chars.join_splitBy]

end Text

namespace JobContext

variable {job : JobContext} {mapping : Mapping} {rows : List Row} {r : Resource}
  {vs ws : List String} {key : String}

/-! ## Row by row -/

theorem numbered_concat (rows : List Row) (row : Row) :
    numbered (rows ++ [row]) = numbered rows ++ [(rows.length + 1, row)] := List.mapIdx_concat

theorem discover_concat (rows : List Row) (row : Row) (r : Resource) :
    job.discover mapping (rows ++ [row]) r =
      job.discoverRow mapping (job.discover mapping rows r) (rows.length + 1, row) := by
  rw [discover, numbered_concat, List.foldl_concat]
  rfl

theorem collect_concat (rows : List Row) (row : Row) (r : Resource) :
    job.collect mapping (rows ++ [row]) r =
      job.collectRow mapping (job.collect mapping rows r) (rows.length + 1, row) := by
  rw [collect, numbered_concat, List.foldl_concat]
  rfl

/-- The values of the keys that the rows of a discovery tell, each in the resource as the rows
before it left it. -/
def toldValues (job : JobContext) (mapping : Mapping) (rows : List Row) (r : Resource) :
    List (Option (List String)) :=
  readings (job.discoverRow mapping)
    (fun state row => job.keyValues? (mapping.interpret ⟨row.2, row.1, state.1⟩).attributes)
    (r, .empty) (numbered rows)

theorem toldValues_concat (rows : List Row) (row : Row) (r : Resource) :
    job.toldValues mapping (rows ++ [row]) r = job.toldValues mapping rows r ++
      [job.keyValues? (mapping.interpret
        ⟨row, rows.length + 1, (job.discover mapping rows r).1⟩).attributes] := by
  rw [toldValues, numbered_concat, readings_concat]
  rfl

theorem length_of_mem_toldValues (h : some vs ∈ job.toldValues mapping rows r) :
    vs.length = job.keys.length := by
  induction rows using List.reverseRecOn with
  | nil => exact absurd h List.not_mem_nil
  | append_singleton rows row ih =>
    rw [toldValues_concat, List.mem_append, List.mem_singleton] at h
    exact h.elim ih fun hvs => length_of_keyValues? hvs.symm

theorem connector_renewed (hown : r.OwnKeys job.connector.id job.type) (values : InterpretedRow)
    (id : String) : (job.renewed values r id).connector = some job.connector.id := by
  rw [(sameOwner_renewed values r id).1, Resource.found]
  cases hm : r.at? job.type (monitorKey (some job.connector.id) id) with
  | none => rfl
  | some m => exact hown id m hm

theorem ownKeys_discover (hown : r.OwnKeys job.connector.id job.type) (mapping : Mapping)
    (rows : List Row) :
    (job.discover mapping rows r).1.OwnKeys job.connector.id job.type := by
  refine List.foldlRecOn (motive := fun state : Resource × NameSet =>
    state.1.OwnKeys job.connector.id job.type) _ (job.discoverRow mapping) hown
    fun state h row _ => ?_
  rw [discoverRow_eq]
  dsimp only
  cases job.monitorId? (mapping.interpret ⟨row.2, row.1, state.1⟩).attributes with
  | none => exact h
  | some id => exact h.put (connector_renewed h _ id)

/-- The connector has a monitor with the values, under the id that they make. -/
def HasMonitor (job : JobContext) (r : Resource) (vs : List String) : Prop :=
  ∃ m, r.at? job.type (monitorKey (some job.connector.id) (Text.join "_" vs)) = some m ∧
    m.connector = some job.connector.id ∧ job.keyValues? m.attributes = some vs

/-- A row leaves a monitor with its values. It leaves those that there were with theirs, unless it
comes to the same id with other values. -/
theorem hasMonitor_discoverRow {state : Resource × NameSet} {row : Nat × Row}
    (hown : state.1.OwnKeys job.connector.id job.type)
    (h : job.HasMonitor state.1 vs ∨
      job.keyValues? (mapping.interpret ⟨row.2, row.1, state.1⟩).attributes = some vs)
    (hids : ∀ ws, job.keyValues? (mapping.interpret ⟨row.2, row.1, state.1⟩).attributes = some ws →
      Text.join "_" ws = Text.join "_" vs → ws = vs) :
    job.HasMonitor (job.discoverRow mapping state row).1 vs := by
  rw [discoverRow_eq]
  revert h hids
  generalize mapping.interpret ⟨row.2, row.1, state.1⟩ = values
  intro h hids
  dsimp only
  cases hid : job.monitorId? values.attributes with
  | none =>
    refine h.resolve_right fun hvs => ?_
    rw [monitorId?_eq_some_iff.2 ⟨vs, hvs, rfl⟩] at hid
    cases hid
  | some id =>
    obtain ⟨ws, hws, rfl⟩ := monitorId?_eq_some_iff.1 hid
    -- A row with the same id has the same values. One with another id leaves the monitor alone.
    by_cases hsame : Text.join "_" ws = Text.join "_" vs
    · obtain rfl := hids ws hws hsame
      exact ⟨_, by rw [Resource.at?_put, if_pos ⟨rfl, rfl⟩], connector_renewed hown _ _,
        keyValues?_renewed hws⟩
    · have hne : ¬(job.type = job.type ∧ monitorKey (some job.connector.id) (Text.join "_" ws) =
          monitorKey (some job.connector.id) (Text.join "_" vs)) :=
        fun he => hsame (monitorKey_inj.1 he.2)
      obtain ⟨m, hm, hc, hvs⟩ := h.resolve_right fun hvs =>
        hsame (congrArg _ (Option.some.inj (hws.symm.trans hvs)))
      exact ⟨m, by rw [Resource.at?_put, if_neg hne, hm], hc, hvs⟩

/-- Where values that come to one id are the same, every row leaves a monitor with its values to the
end of the discovery. -/
theorem hasMonitor_of_mem_toldValues (hown : r.OwnKeys job.connector.id job.type)
    (hids : ∀ vs ws, some vs ∈ job.toldValues mapping rows r →
      some ws ∈ job.toldValues mapping rows r → Text.join "_" vs = Text.join "_" ws → vs = ws)
    (hvs : some vs ∈ job.toldValues mapping rows r) :
    job.HasMonitor (job.discover mapping rows r).1 vs := by
  induction rows using List.reverseRecOn generalizing vs with
  | nil => exact absurd hvs List.not_mem_nil
  | append_singleton rows row ih =>
    rw [toldValues_concat] at hvs hids
    rw [discover_concat]
    refine hasMonitor_discoverRow (ownKeys_discover hown mapping rows) ?_ fun ws hws hid => ?_
    · refine (List.mem_append.1 hvs).imp (ih fun vs ws hv hw => ?_) fun hvs => ?_
      · exact hids vs ws (List.mem_append_left _ hv) (List.mem_append_left _ hw)
      · exact (List.mem_singleton.1 hvs).symm
    · exact hids ws vs (List.mem_append_right _ (List.mem_singleton.2 hws.symm)) hvs hid

/-! ## Rows of a later collection -/

/-- The key leads to a monitor of the connector with the values, and every row of a later collection
that has the values is written onto it. -/
structure IsHome (job : JobContext) (r : Resource) (vs : List String) (key : String) : Prop where
  monitor : ∃ m, r.at? job.type key = some m ∧ m.connector = some job.connector.id ∧
    job.keyValues? m.attributes = some vs
  collected : ∀ r', r'.identities = r.identities → ∀ time mapping before row,
    let state := (job.atTime time).collect mapping before r'
    let values := mapping.interpret ⟨row, before.length + 1, state.1⟩
    job.keyValues? values.attributes = some vs →
      (job.atTime time).collect mapping (before ++ [row]) r' =
        ((job.atTime time).update state.1 key ((job.atTime time).writeValues values), state.2 + 1)

theorem IsHome.key_eq (h : job.IsHome r vs key) (hr : job.Identified r) :
    key = monitorKey (some job.connector.id) (Text.join "_" vs) := by
  obtain ⟨m, hm, hc, hvs⟩ := h.monitor
  obtain ⟨hkey, ws, hws, hid⟩ := hr key m hm hc
  rw [hkey, hid, Option.some.inj (hws.symm.trans hvs)]

/-- A monitor with the values is found by them. -/
theorem HasMonitor.existing? {a : NameMap String} (h : job.HasMonitor r vs) (hr : job.Identified r)
    (ha : job.keyValues? a = some vs) :
    job.existing? r a = some (monitorKey (some job.connector.id) (Text.join "_" vs)) := by
  obtain ⟨m, hm, hc, hmvs⟩ := h
  have hid : m.id = Text.join "_" vs := (monitorKey_inj.1 (hr _ m hm hc).1).symm
  refine (existing?_eq_some_iff hr).2 ⟨m, ?_, by rw [hid], ?_, (isMatch_iff hmvs).2 ⟨hc, ha⟩⟩
  · exact monitorId?_eq_some_iff.2 ⟨vs, ha, hid.symm⟩
  · rw [hid]
    exact hm

theorem HasMonitor.isHome (h : job.HasMonitor r vs) (hr : job.Identified r) :
    job.IsHome r vs (monitorKey (some job.connector.id) (Text.join "_" vs)) where
  monitor := h
  collected r' hr' time mapping before row := by
    intro state values hvs
    have hstate : state.1.identities = r.identities :=
      ((job.atTime time).identities_collect mapping before r').trans hr'
    have hexisting : (job.atTime time).existing? state.1 values.attributes =
        some (monitorKey (some job.connector.id) (Text.join "_" vs)) :=
      (job.existing?_of_identities hstate values.attributes).trans (h.existing? hr hvs)
    rw [collect_concat, collectRow]
    dsimp only
    rw [hexisting]

/-! ## Discoveries that keep rows apart -/

/-- Rows of a discovery with different values have different homes. -/
def KeepsApart (job : JobContext) (mapping : Mapping) (rows : List Row) (r : Resource) : Prop :=
  ∀ vs ws, some vs ∈ job.toldValues mapping rows r → some ws ∈ job.toldValues mapping rows r →
    vs ≠ ws → ∃ key key', key ≠ key' ∧ job.IsHome (job.discover mapping rows r).1 vs key ∧
      job.IsHome (job.discover mapping rows r).1 ws key'

/-- No two rows of a discovery with different values have the same pieces between underscores. -/
def PiecesTell (job : JobContext) (mapping : Mapping) (rows : List Row) (r : Resource) : Prop :=
  ∀ vs ws, some vs ∈ job.toldValues mapping rows r → some ws ∈ job.toldValues mapping rows r →
    vs.flatMap (Text.splitAt '_') = ws.flatMap (Text.splitAt '_') → vs = ws

/-- Values without underscores are their own pieces. -/
theorem flatMap_splitAt_of_forall (h : ∀ v ∈ vs, '_' ∉ v.toList) :
    vs.flatMap (Text.splitAt '_') = vs := by
  induction vs with
  | nil => rfl
  | cons v vs ih =>
    rw [List.flatMap_cons, Text.splitAt_of_not_mem (h v List.mem_cons_self),
      ih fun w hw => h w (List.mem_cons_of_mem _ hw)]
    rfl

theorem piecesTell_of_length_eq_one (h : job.keys.length = 1) : job.PiecesTell mapping rows r := by
  intro vs ws hv hw hpieces
  obtain ⟨v, rfl⟩ := List.length_eq_one_iff.1 ((length_of_mem_toldValues hv).trans h)
  obtain ⟨w, rfl⟩ := List.length_eq_one_iff.1 ((length_of_mem_toldValues hw).trans h)
  rw [List.flatMap_singleton, List.flatMap_singleton, Text.splitAt_inj] at hpieces
  rw [hpieces]

theorem piecesTell_of_forall
    (h : ∀ vs, some vs ∈ job.toldValues mapping rows r → ∀ v ∈ vs, '_' ∉ v.toList) :
    job.PiecesTell mapping rows r := by
  intro vs ws hv hw hpieces
  rwa [flatMap_splitAt_of_forall (h vs hv), flatMap_splitAt_of_forall (h ws hw)] at hpieces

theorem join_eq_join_iff_of_told (hv : some vs ∈ job.toldValues mapping rows r)
    (hw : some ws ∈ job.toldValues mapping rows r) : Text.join "_" vs = Text.join "_" ws ↔
      vs.flatMap (Text.splitAt '_') = ws.flatMap (Text.splitAt '_') :=
  Text.join_underscore_eq_iff
    ((length_of_mem_toldValues hv).trans (length_of_mem_toldValues hw).symm)

theorem piecesTell_of_keepsApart (hr : job.Identified r) (h : job.KeepsApart mapping rows r) :
    job.PiecesTell mapping rows r := by
  intro vs ws hv hw hpieces
  have hafter : job.Identified (job.discover mapping rows r).1 := hr.discover mapping rows
  by_contra hne
  obtain ⟨key, key', hkeys, hhome, hhome'⟩ := h vs ws hv hw hne
  rw [hhome.key_eq hafter, hhome'.key_eq hafter, (join_eq_join_iff_of_told hv hw).2 hpieces]
    at hkeys
  exact hkeys rfl

theorem keepsApart_of_piecesTell (hr : job.Identified r)
    (hown : r.OwnKeys job.connector.id job.type) (h : job.PiecesTell mapping rows r) :
    job.KeepsApart mapping rows r := by
  intro vs ws hv hw hne
  have hafter : job.Identified (job.discover mapping rows r).1 := hr.discover mapping rows
  have hids : ∀ vs ws, some vs ∈ job.toldValues mapping rows r →
      some ws ∈ job.toldValues mapping rows r → Text.join "_" vs = Text.join "_" ws → vs = ws :=
    fun vs ws hv hw he => h vs ws hv hw ((join_eq_join_iff_of_told hv hw).1 he)
  exact ⟨_, _, fun he => hne (hids vs ws hv hw (monitorKey_inj.1 he)),
    (hasMonitor_of_mem_toldValues hown hids hv).isHome hafter,
    (hasMonitor_of_mem_toldValues hown hids hw).isHome hafter⟩

/-- **When rows are kept apart.** Let the monitors of a connector be known by their keys, and let no
monitor of another one be under a key of it. Then rows with different values get monitors of their
own, onto which later rows with these values are written, exactly if no two of them have the same
pieces between underscores. This is so if there is one key only, or if there are no underscores in
the values. -/
theorem keepsApart_iff (hr : job.Identified r) (hown : r.OwnKeys job.connector.id job.type) :
    (job.KeepsApart mapping rows r ↔ job.PiecesTell mapping rows r) ∧
    (job.keys.length = 1 → job.KeepsApart mapping rows r) ∧
    ((∀ vs, some vs ∈ job.toldValues mapping rows r → ∀ v ∈ vs, '_' ∉ v.toList) →
      job.KeepsApart mapping rows r) :=
  ⟨⟨piecesTell_of_keepsApart hr, keepsApart_of_piecesTell hr hown⟩,
    fun h => keepsApart_of_piecesTell hr hown (piecesTell_of_length_eq_one h),
    fun h => keepsApart_of_piecesTell hr hown (piecesTell_of_forall h)⟩

end JobContext

/-! ## Racks and slots with underscores -/

namespace RackedDisks

/-- The disks of two racks. -/
def rows : List Row := [["r1", "s1", "20"], ["r1", "s2", "40"], ["r2", "s1", "20"]]

/-- Two disks whose racks and slots make one id. -/
def underscoredRows : List Row := [["x_y", "z", "20"], ["x", "y_z", "40"]]

theorem identified_unknown : job.Identified unknown := nofun

theorem ownKeys_unknown : unknown.OwnKeys job.connector.id job.type := nofun

theorem toldValues_rows : job.toldValues mapping rows unknown =
    [some ["r1", "s1"], some ["r1", "s2"], some ["r2", "s1"]] := by
  decide +kernel

theorem toldValues_underscoredRows : job.toldValues mapping underscoredRows unknown =
    [some ["x_y", "z"], some ["x", "y_z"]] := by
  decide +kernel

theorem keepsApart_rows :
    job.Identified unknown ∧ unknown.OwnKeys job.connector.id job.type ∧
    (∀ vs, some vs ∈ job.toldValues mapping rows unknown → ∀ v ∈ vs, '_' ∉ v.toList) ∧
    job.KeepsApart mapping rows unknown := by
  have hnone : ∀ vs, some vs ∈ job.toldValues mapping rows unknown → ∀ v ∈ vs, '_' ∉ v.toList := by
    have htold : ∀ told ∈ job.toldValues mapping rows unknown,
        ∀ v ∈ told.getD [], '_' ∉ v.toList := by
      rw [toldValues_rows]
      decide +kernel
    exact fun vs hvs => htold (some vs) hvs
  exact ⟨identified_unknown, ownKeys_unknown, hnone,
    (JobContext.keepsApart_iff identified_unknown ownKeys_unknown).2.2 hnone⟩

/-- The second of the two disks takes the place of the first one, which is not found any more. -/
theorem underscoredRows_share_monitor :
    job.toldValues mapping underscoredRows unknown = [some ["x_y", "z"], some ["x", "y_z"]] ∧
    ((job.discover mapping underscoredRows unknown).1.monitorsOf "disk").keys = ["raid_x_y_z"] ∧
    (job.collect mapping [["x_y", "z", "30"]]
      (job.discover mapping underscoredRows unknown).1).2 = 0 ∧
    ¬job.KeepsApart mapping underscoredRows unknown := by
  have htold := toldValues_underscoredRows
  refine ⟨htold, by decide +kernel, by decide +kernel, fun hapart => ?_⟩
  have hsame := JobContext.piecesTell_of_keepsApart identified_unknown hapart ["x_y", "z"]
    ["x", "y_z"] (by simp [htold]) (by simp [htold]) (by decide +kernel)
  exact absurd hsame (by decide)

end RackedDisks

end HardwareWatch
