import HardwareWatch.Proofs.Activity.InTime
import HardwareWatch.Proofs.Telemetry.Confined
import HardwareWatch.Proofs.Visit.Verdicts

/-!
# What a detection selects

A visit selects the connectors that it runs, by the results of their criteria or by the ids that an
earlier visit kept.

* `nodup_ids_stage` says that no two of the staged connectors have one id.
* `Selection` is what a detection comes to, `Visit.Selects` says what it can come to.
* `ends_detect` says that detecting connectors is making a selection.
* `Selection.detected_after` says which ids are kept for later visits.
-/

namespace HardwareWatch

open Activity

variable {w : Surroundings} {v : Visit} {r r' : Resource}

/-! ## Staged connectors -/

/-- The connectors of a store stand under their own ids. -/
theorem ConnectorStore.id_of_mem_ofConnectors {connectors : List Connector} {e : String × Connector}
    (h : e ∈ (ofConnectors connectors).toList) : e.2.id = e.1 := by
  refine List.foldlRecOn (motive := fun store : ConnectorStore => ∀ e ∈ store.toList, e.2.id = e.1)
    connectors add (fun _ h => absurd h List.not_mem_nil) (fun store ih c _ e he => ?_) e h
  rcases NameMap.mem_insertEntry he with rfl | he
  · rfl
  · exact ih e he

theorem connector_of_stageOne? {host : HostSettings} {id : String} {c : Connector}
    {s : StagedConnector} (h : stageOne? host id c = some s) : s.connector = c := by
  rw [stageOne?] at h
  split at h
  · exact (Option.some.inj h) ▸ rfl
  · split at h
    · exact (Option.some.inj h) ▸ rfl
    · cases h

theorem mem_of_mem_stage {host : HostSettings} {store : ConnectorStore} {s : StagedConnector}
    (hs : s ∈ stage store host) : ∃ id, (id, s.connector) ∈ store.toList := by
  obtain ⟨⟨id, c⟩, hmem, hc⟩ := List.mem_filterMap.1 hs
  exact ⟨id, connector_of_stageOne? hc ▸ hmem⟩

/-- The staged connectors of a host. -/
def stagedOf (connectors : List Connector) (host : HostSettings) : List StagedConnector :=
  stage (.ofConnectors connectors) host

/-- No two of the staged connectors have one id. -/
theorem nodup_ids_stage (connectors : List Connector) (host : HostSettings) :
    ((stagedOf connectors host).map (·.connector.id)).Nodup := by
  have hids : ∀ e ∈ (ConnectorStore.ofConnectors connectors).toList, ∀ s,
      stageOne? host e.1 e.2 = some s → s.connector.id = e.1 := fun e he s hs => by
    rw [connector_of_stageOne? hs]
    exact ConnectorStore.id_of_mem_ofConnectors he
  rw [List.Nodup, List.pairwise_map, stagedOf, stage, List.pairwise_filterMap]
  refine (ConnectorStore.ofConnectors connectors).ascending.imp_of_mem ?_
  intro e e' he he' hlt s hs s' hs' heq
  rw [hids e he s hs, hids e' he' s' hs'] at heq
  rw [heq] at hlt
  exact String.lt_irrefl _ hlt

/-- Staged for whatever host, a connector of a store is known by its id. -/
theorem connector_eq_of_mem_stagedOf {connectors : List Connector} {host host' : HostSettings}
    {s t : StagedConnector} (hs : s ∈ stagedOf connectors host) (ht : t ∈ stagedOf connectors host')
    (h : s.connector.id = t.connector.id) : s.connector = t.connector := by
  obtain ⟨id, hs⟩ := mem_of_mem_stage hs
  obtain ⟨id', ht⟩ := mem_of_mem_stage ht
  obtain rfl : id = id' := (ConnectorStore.id_of_mem_ofConnectors hs).symm.trans
    (h.trans (ConnectorStore.id_of_mem_ofConnectors ht))
  exact Option.some.inj ((NameMap.get?_eq_some_iff.2 hs).symm.trans (NameMap.get?_eq_some_iff.2 ht))

/-! ## Selections -/

theorem mem_passedDetection_iff {results : List (StagedConnector × DetectionResult)}
    {s : StagedConnector} :
    s ∈ passedDetection results ↔
      ∃ result, (s, result) ∈ results ∧ (result.isSuccess = true ∨ s.forced = true) := by
  simp [passedDetection]

theorem sublist_selectDetected (results : List (StagedConnector × DetectionResult)) :
    (selectDetected results).Sublist (results.map Prod.fst) :=
  List.filter_sublist.trans (List.filter_sublist.map Prod.fst)

/-- What is forced is selected. -/
theorem mem_selectDetected_of_forced {results : List (StagedConnector × DetectionResult)}
    {s : StagedConnector} (hs : s ∈ results.map Prod.fst) (hforced : s.forced = true) :
    s ∈ selectDetected results := by
  obtain ⟨⟨_, result⟩, hmem, rfl⟩ := List.mem_map.1 hs
  have hpassed := mem_passedDetection_iff.2 ⟨result, hmem, .inr hforced⟩
  exact List.mem_filter.2 ⟨hpassed, by rw [hforced, Bool.true_or]⟩

/-- What passed is a success or forced. -/
theorem exists_result_of_mem_selectDetected {results : List (StagedConnector × DetectionResult)}
    {s : StagedConnector} (hs : s ∈ selectDetected results) :
    ∃ result, (s, result) ∈ results ∧ (result.isSuccess = true ∨ s.forced = true) :=
  mem_passedDetection_iff.1 (List.mem_filter.1 hs).1

/-- What a detection comes to. -/
inductive Selection
  /-- The ids that an earlier visit kept are used again. -/
  | reused (ids : NameSet)
  /-- The criteria are evaluated. At the end of it the run is cancelled or not. -/
  | evaluated (results : List (StagedConnector × DetectionResult)) (cancelled : Bool)

namespace Selection

/-- Whether the criteria were evaluated, all of them without an error, and the run not cancelled. -/
def isComplete : Selection → Bool
  | reused _ => false
  | evaluated results cancelled => !cancelled && !results.any (·.2.hasErrors)

/-- The connectors to run, of those that are staged. -/
def selected (staged : List StagedConnector) : Selection → List StagedConnector
  | reused ids => (Visit.reuseDetection staged ids).1
  | evaluated results _ => selectDetected results

/-- The reports that the visit begins with. -/
def reports (staged : List StagedConnector) : Selection → List ConnectorReport
  | reused ids => (Visit.reuseDetection staged ids).2
  | evaluated results _ => results.map fun (s, result) => s.skippedReport (some result)

/-- The ids of the connectors that are selected. -/
def ids (staged : List StagedConnector) (selection : Selection) : NameSet :=
  .ofNames ((selection.selected staged).map (·.connector.id))

/-- The resource with the results, and with the ids that are kept for later visits. -/
def after (time : Instant) (r : Resource) : Selection → Resource
  | reused _ => r
  | evaluated results cancelled =>
    let r := recordDetections time results r
    if (evaluated results cancelled).isComplete then
      { r with detected := some (.ofNames ((selectDetected results).map (·.connector.id))) }
    else r

end Selection

/-- A list without repetitions, less what is not in a part of it, is this part. -/
theorem filter_eq_of_sublist {α : Type} {l part : List α} {p : α → Bool} (h : part.Sublist l)
    (hl : l.Nodup) (hp : ∀ a ∈ l, p a = true ↔ a ∈ part) : l.filter p = part := by
  induction h with
  | slnil => rfl
  | @cons part l a h ih =>
    obtain ⟨ha, hl⟩ := List.nodup_cons.1 hl
    have hpa : ¬p a = true := fun hpa => ha (h.subset ((hp a List.mem_cons_self).1 hpa))
    rw [List.filter_cons_of_neg hpa]
    exact ih hl fun b hb => hp b (List.mem_cons_of_mem a hb)
  | @cons_cons part l a h ih =>
    obtain ⟨ha, hl⟩ := List.nodup_cons.1 hl
    rw [List.filter_cons_of_pos ((hp a List.mem_cons_self).2 List.mem_cons_self)]
    refine congrArg (a :: ·) (ih hl fun b hb => (hp b (List.mem_cons_of_mem a hb)).trans ?_)
    rw [List.mem_cons, or_iff_right]
    rintro rfl
    exact ha hb

/-- **The ids of a selection** select the same connectors again, in the same order, where the same
ones are staged. -/
theorem selected_reused_ids {results : List (StagedConnector × DetectionResult)}
    (hids : ((results.map Prod.fst).map (·.connector.id)).Nodup) :
    (Selection.reused (.ofNames ((selectDetected results).map (·.connector.id)))).selected
      (results.map Prod.fst) = selectDetected results := by
  refine filter_eq_of_sublist (sublist_selectDetected results) hids.of_map fun s hs => ?_
  rw [NameSet.has_ofNames, Bool.or_eq_true, decide_eq_true_iff]
  constructor
  · rintro (hforced | hid)
    · exact mem_selectDetected_of_forced hs hforced
    · obtain ⟨t, ht, hid⟩ := List.mem_map.1 hid
      have hstaged := (sublist_selectDetected results).subset ht
      rwa [← List.inj_on_of_nodup_map hids hstaged hs hid]
  · exact fun hs => .inr (List.mem_map_of_mem hs)

/-- What the detection of staged connectors can come to, given the ids that an earlier visit kept.
-/
inductive Visit.Selects (w : Surroundings) (v : Visit) (staged : List StagedConnector)
    (detected : Option NameSet) : Selection → Prop
  | reused {ids : NameSet} (hkept : v.engine.validateDetectionEachCycle = false)
      (hids : detected = some ids) : Selects w v staged detected (.reused ids)
  | evaluated {results : List (StagedConnector × DetectionResult)} {cancelled : Bool}
      (hfresh : v.engine.validateDetectionEachCycle = true ∨ detected = none)
      (hstaged : results.map Prod.fst = staged)
      (hresults : ∀ e ∈ results, v.Detects w e.1.connector e.2)
      (hcancelled : cancelled = true → w.mayBeCancelled) :
    Selects w v staged detected (.evaluated results cancelled)

/-- Where ids are kept and the connectors are not detected each time, these ids are used. -/
theorem Visit.Selects.eq_reused {staged : List StagedConnector} {ids : NameSet}
    {selection : Selection} (h : v.Selects w staged (some ids) selection)
    (hkept : v.engine.validateDetectionEachCycle = false) : selection = .reused ids := by
  cases h with
  | reused _ hids => rw [Option.some.inj hids]
  | evaluated hfresh =>
    rcases hfresh with hfresh | hfresh
    · exact absurd (hkept.symm.trans hfresh) Bool.false_ne_true
    · exact absurd hfresh (Option.some_ne_none ids)

theorem ends_freshDetection {staged : List StagedConnector}
    {found : List StagedConnector × List ConnectorReport}
    (h : Ends w Alone (v.freshDetection staged) r found r') :
    ∃ results cancelled, results.map Prod.fst = staged ∧
      (∀ e ∈ results, v.Detects w e.1.connector e.2) ∧
      (cancelled = true → w.mayBeCancelled) ∧
      r' = (Selection.evaluated results cancelled).after v.time r ∧
      found = ((Selection.evaluated results cancelled).selected staged,
        (Selection.evaluated results cancelled).reports staged) := by
  obtain ⟨ds, r₁, hds, hrest⟩ := ends_bind_iff.1 h
  obtain ⟨hruns, hsame⟩ := hds.of_quiet <| ChangesOnly.all fun p hp => by
    obtain ⟨s, -, rfl⟩ := List.mem_map.1 hp
    exact v.quiet_detection s.connector
  obtain rfl := reflTransGen_alone_iff.1 hsame
  obtain ⟨-, hstaged, hresults⟩ := runs_all_detection hruns
  obtain ⟨_, r₂, hwrite, hrest⟩ := ends_bind_iff.1 hrest
  obtain rfl := ends_alone_modify_iff.1 hwrite
  obtain ⟨cancelled, r₃, hcancelled, hend⟩ := ends_bind_iff.1 hrest
  rw [ends_cancelled_iff, reflTransGen_alone_iff] at hcancelled
  obtain ⟨hcancelled, rfl⟩ := hcancelled
  refine ⟨staged.zip ds, cancelled, hstaged, hresults, hcancelled, ?_⟩
  rw [Selection.after, Selection.isComplete]
  dsimp only at hend ⊢
  split at hend
  · rename_i hcomplete
    obtain ⟨_, r₄, hkeep, hend⟩ := ends_bind_iff.1 hend
    obtain rfl := ends_alone_modify_iff.1 hkeep
    rw [ends_pure_iff, reflTransGen_alone_iff] at hend
    rw [if_pos hcomplete]
    exact ⟨hend.2, hend.1⟩
  · rename_i hcomplete
    rw [ends_pure_iff, reflTransGen_alone_iff] at hend
    rw [if_neg hcomplete]
    exact ⟨hend.2, hend.1⟩

/-- **Detecting connectors** is making a selection. -/
theorem ends_detect {staged : List StagedConnector}
    {found : List StagedConnector × List ConnectorReport}
    (h : Ends w Alone (v.detect staged) r found r') :
    ∃ selection, v.Selects w staged r.detected selection ∧ r' = selection.after v.time r ∧
      found = (selection.selected staged, selection.reports staged) := by
  obtain ⟨detected, r₁, hread, hrest⟩ := ends_bind_iff.1 h
  obtain ⟨rfl, rfl⟩ := ends_alone_read_iff.1 hread
  split at hrest
  · rename_i ids hids
    obtain ⟨hids, hkept⟩ := Option.filter_eq_some_iff.1 hids
    rw [ends_pure_iff, reflTransGen_alone_iff] at hrest
    exact ⟨.reused ids, .reused (by simpa using hkept) hids, hrest.2, hrest.1⟩
  · rename_i hnone
    obtain ⟨results, cancelled, hstaged, hresults, hcancelled, hafter, hfound⟩ :=
      ends_freshDetection hrest
    have hfresh : v.engine.validateDetectionEachCycle = true ∨ r₁.detected = none := by
      rw [Option.filter_eq_none_iff] at hnone
      rcases Option.eq_none_or_eq_some r₁.detected with hd | ⟨ids, hd⟩
      · exact .inr hd
      · exact .inl (by simpa using hnone ids hd)
    exact ⟨.evaluated results cancelled, .evaluated hfresh hstaged hresults hcancelled, hafter,
      hfound⟩

/-! ## What is kept -/

theorem detected_recordDetections (time : Instant)
    (results : List (StagedConnector × DetectionResult)) (r : Resource) :
    (recordDetections time results r).detected = r.detected :=
  List.foldlRecOn (motive := fun r' : Resource => r'.detected = r.detected) _ _ rfl
    fun _ h _ _ => h

/-- The ids that are there after a detection: those of its selection if it was complete, and else
those that were there before. -/
theorem Selection.detected_after (time : Instant) (r : Resource) (staged : List StagedConnector)
    (selection : Selection) :
    (selection.after time r).detected =
      if selection.isComplete then some (selection.ids staged) else r.detected := by
  cases selection with
  | reused ids => rfl
  | evaluated results cancelled =>
    rw [after]
    split
    · rfl
    · exact detected_recordDetections time results r

end HardwareWatch
