import HardwareWatch.Proofs.Visit.Selection

/-!
# Detections that are used again

Visits follow each other on one resource. A visit that does not detect the connectors each time uses
the ids that an earlier visit kept.

* `VisitRecord` is a visit with the selection of its detection, `VisitRecord.Happens` says that
  there is such a visit. `exists_visitRecord` says that every visit has such a record.
* `VisitHistory` is a list of visits that follow each other.
* `VisitHistory.detected_eq` says that the ids that are kept are those of the last complete
  detection.
* `Visit.selects_again` says that a visit under the conditions of the last complete detection
  selects what was selected then.
* `Visit.selected_were_evaluated` says what is known of the connectors that a visit under whatever
  conditions selects by the ids that are kept.
-/

namespace HardwareWatch

open Activity

variable {w : Surroundings} {v : Visit} {r r₀ : Resource}

/-! ## Parts of a visit -/

/-- What a visit does after the detection: it runs the connectors that are selected. -/
def Visit.runFound (v : Visit) (found : List StagedConnector × List ConnectorReport) :
    Activity HostReport := do
  let reports ← found.1.foldlM v.runSelected found.2
  return ⟨v.host.hostname, v.time, reports, ← Activity.cancelled⟩

theorem Visit.run_eq (v : Visit) (store : ConnectorStore) :
    v.run store = v.checkProtocols >>= fun _ => v.detect (stage store v.host) >>= v.runFound := rfl

/-- Checking protocols leaves the ids that are kept as they are. -/
theorem changesOnly_detected_checkProtocols (v : Visit) :
    ChangesOnly (fun r r' => r'.detected = r.detected) v.checkProtocols :=
  ChangesOnly.forM fun _ _ => (ChangesOnly.of_quiet (v.quiet_probe _ _ _)).bind fun _ =>
    ChangesOnly.modify fun _ => rfl

/-- Running connectors leaves the ids that are kept as they are. -/
theorem changesOnly_detected_runFound (v : Visit)
    (found : List StagedConnector × List ConnectorReport) :
    ChangesOnly (fun r r' => r'.detected = r.detected) (v.runFound found) := by
  have hjob {connector type : String} {r r' : Resource} (h : r.JobChange connector type r') :
      r'.detected = r.detected := by rw [h.rest]
  have hconnector (c : Connector) :
      ChangesOnly (fun r r' => r'.detected = r.detected) (v.runConnector c) :=
    .runConnector (fun _ => rfl)
      (fun _ _ _ _ => (SourceRun.jobChanges_discoverJob _ _ _ _).mono fun _ _ => hjob)
      (fun _ _ _ _ => (SourceRun.jobChanges_collectIfAny _ _ _ _).mono fun _ _ => hjob)
      fun _ _ => rfl
  refine (ChangesOnly.foldlM (fun reports s _ => ?_) _).bind fun _ =>
    ChangesOnly.cancelled.bind fun _ => ChangesOnly.pure _
  refine ChangesOnly.cancelled.bind fun _ => ?_
  split
  · exact ChangesOnly.pure _
  · exact (hconnector s.connector).bind fun _ => ChangesOnly.pure _

/-! ## Records of visits -/

/-- A visit that took place: its connectors, what it found out about them, its report, and the
resource before and after it. -/
structure VisitRecord where
  connectors : List Connector
  visit : Visit
  before : Resource
  selection : Selection
  report : HostReport
  after : Resource

namespace VisitRecord

/-- The connectors that were staged. -/
def staged (c : VisitRecord) : List StagedConnector := stagedOf c.connectors c.visit.host

/-- The connectors that were selected. -/
def selected (c : VisitRecord) : List StagedConnector := c.selection.selected c.staged

/-- The ids of the connectors that were selected. -/
def ids (c : VisitRecord) : NameSet := c.selection.ids c.staged

/-- Whether the detection was completed: all criteria were evaluated, none of them with an error,
and the run was not cancelled. -/
def isComplete (c : VisitRecord) : Bool := c.selection.isComplete

/-- The visit went as the record says, by way of a resource at the beginning of the detection. -/
def Describes (w : Surroundings) (c : VisitRecord) : Prop :=
  ∃ r, Ends w Alone c.visit.checkProtocols c.before () r ∧
    c.visit.Selects w c.staged r.detected c.selection ∧
    Ends w Alone (c.visit.runFound (c.selected, c.selection.reports c.staged))
      (c.selection.after c.visit.time r) c.report c.after

/-- There is a network, a site and perhaps a time of cancellation with which the visit comes to what
the record says. -/
def Happens (c : VisitRecord) : Prop :=
  ∃ (σ : Type) (network : Network σ) (cancelAt : Option Nat) (s s' : Site σ),
    (c.visit.run (.ofConnectors c.connectors)).run network cancelAt s = (c.report, s') ∧
    s.resource = c.before ∧ s'.resource = c.after ∧
    c.Describes (.around network (s.cancelled = true ∨ cancelAt ≠ none))

end VisitRecord

/-- **Every visit has a record.** -/
theorem exists_visitRecord {σ : Type} (v : Visit) (connectors : List Connector) (network : Network σ)
    (cancelAt : Option Nat) (s : Site σ) :
    ∃ selection,
      let left := (v.run (.ofConnectors connectors)).run network cancelAt s
      let c : VisitRecord := ⟨connectors, v, s.resource, selection, left.1, left.2.resource⟩
      c.Happens ∧ c.Describes (.around network (s.cancelled = true ∨ cancelAt ≠ none)) := by
  have hends := ends_run (Surroundings.around_admits network (s.cancelled = true ∨ cancelAt ≠ none))
    cancelAt (v.run (.ofConnectors connectors)) s id
  rw [Visit.run_eq] at hends
  obtain ⟨_, r, hchecks, hends⟩ := ends_bind_iff.1 hends
  obtain ⟨found, r', hdetect, hrest⟩ := ends_bind_iff.1 hends
  obtain ⟨selection, hselects, rfl, rfl⟩ := ends_detect hdetect
  have hdescribes : VisitRecord.Describes _ ⟨connectors, v, s.resource, selection, _, _⟩ :=
    ⟨r, hchecks, hselects, hrest⟩
  exact ⟨selection, ⟨σ, network, cancelAt, s, _, rfl, rfl, rfl, hdescribes⟩, hdescribes⟩

namespace VisitRecord

variable {c : VisitRecord}

/-- The detection begins with the ids that are kept when the visit begins. -/
theorem Describes.selects (h : c.Describes w) :
    c.visit.Selects w c.staged c.before.detected c.selection := by
  obtain ⟨r, hchecks, hselects, -⟩ := h
  rwa [hchecks.keeps (changesOnly_detected_checkProtocols c.visit)] at hselects

/-- A visit keeps the ids that its detection selected, if that was complete, and else it leaves
those that were kept. -/
theorem Describes.detected_after (h : c.Describes w) :
    c.after.detected = if c.isComplete then some c.ids else c.before.detected := by
  obtain ⟨r, hchecks, -, hrest⟩ := h
  rw [hrest.keeps (changesOnly_detected_runFound c.visit _),
    Selection.detected_after c.visit.time r c.staged c.selection,
    hchecks.keeps (changesOnly_detected_checkProtocols c.visit)]
  rfl

theorem Happens.exists_selects (h : c.Happens) :
    ∃ w, c.visit.Selects w c.staged c.before.detected c.selection := by
  obtain ⟨_, _, _, _, _, _, _, _, h⟩ := h
  exact ⟨_, h.selects⟩

theorem Happens.detected_after (h : c.Happens) :
    c.after.detected = if c.isComplete then some c.ids else c.before.detected := by
  obtain ⟨_, _, _, _, _, _, _, _, h⟩ := h
  exact h.detected_after

end VisitRecord

/-- A visit that is not cancelled, and whose detection can come to one selection only, has a record
with this selection. -/
theorem happens_of_forall_selects {σ : Type} {v : Visit} {connectors : List Connector}
    {network : Network σ} {s : Site σ} {selection : Selection}
    (h : ∀ w selection', ¬w.mayBeCancelled →
      v.Selects w (stagedOf connectors v.host) s.resource.detected selection' →
      selection' = selection) (hs : s.cancelled = false) :
    let left := (v.run (.ofConnectors connectors)).run network none s
    VisitRecord.Happens ⟨connectors, v, s.resource, selection, left.1, left.2.resource⟩ := by
  intro left
  obtain ⟨selection', hhappens, hdescribes⟩ := exists_visitRecord v connectors network none s
  have hw : ¬(s.cancelled = true ∨ (none : Option Nat) ≠ none) := by simp [hs]
  rwa [h _ selection' hw hdescribes.selects] at hhappens

/-! ## Visits that follow each other -/

/-- Visits that follow each other on one resource, from its state before the first one to its state
after the last one. -/
inductive VisitHistory (r₀ : Resource) : List VisitRecord → Resource → Prop
  | start : VisitHistory r₀ [] r₀
  | visit {cycles : List VisitRecord} {c : VisitRecord} (h : VisitHistory r₀ cycles c.before)
      (hc : c.Happens) : VisitHistory r₀ (cycles ++ [c]) c.after

/-- The last visit whose detection was completed. -/
def lastComplete? (cycles : List VisitRecord) : Option VisitRecord :=
  (cycles.filter (·.isComplete)).getLast?

theorem lastComplete?_append_of_forall {earlier later : List VisitRecord} {a : VisitRecord}
    (ha : a.isComplete = true) (hlater : ∀ c ∈ later, c.isComplete = false) :
    lastComplete? (earlier ++ a :: later) = some a := by
  have hnone : later.filter (·.isComplete) = [] := List.filter_eq_nil_iff.2 fun c hc => by
    simp [hlater c hc]
  simp [lastComplete?, ha, hnone]

theorem lastComplete?_append_of_incomplete {cycles : List VisitRecord} {c : VisitRecord}
    (hc : c.isComplete = false) : lastComplete? (cycles ++ [c]) = lastComplete? cycles := by
  simp [lastComplete?, hc]

/-- After the last visit with a complete detection there are only visits without one. -/
theorem exists_of_lastComplete? {cycles : List VisitRecord} {a : VisitRecord}
    (h : lastComplete? cycles = some a) :
    ∃ earlier between, cycles = earlier ++ a :: between ∧ a.isComplete = true ∧
      ∀ c ∈ between, c.isComplete = false := by
  induction cycles using List.reverseRecOn with
  | nil => cases h
  | append_singleton cycles c ih =>
    cases hc : c.isComplete with
    | true =>
      rw [lastComplete?_append_of_forall hc fun _ h => absurd h List.not_mem_nil] at h
      obtain rfl := Option.some.inj h
      exact ⟨cycles, [], rfl, hc, fun _ h => absurd h List.not_mem_nil⟩
    | false =>
      rw [lastComplete?_append_of_incomplete hc] at h
      obtain ⟨earlier, between, rfl, ha, hbetween⟩ := ih h
      refine ⟨earlier, between ++ [c], by simp, ha, fun d hd => ?_⟩
      rcases List.mem_append.1 hd with hd | hd
      · exact hbetween d hd
      · exact List.mem_singleton.1 hd ▸ hc

namespace VisitHistory

variable {cycles earlier later : List VisitRecord} {b : VisitRecord}

/-- The visits before one of them are a history too. -/
theorem before (h : VisitHistory r₀ (earlier ++ b :: later) r) :
    VisitHistory r₀ earlier b.before ∧ b.Happens := by
  generalize hcycles : earlier ++ b :: later = cycles at h
  induction h generalizing later with
  | start => exact absurd hcycles (by simp)
  | @visit cycles c h hc ih =>
    rcases List.eq_nil_or_concat later with rfl | ⟨later, d, rfl⟩
    · obtain ⟨rfl, hbc⟩ := List.append_inj' hcycles rfl
      obtain rfl := List.singleton_inj.1 hbc
      exact ⟨h, hc⟩
    · rw [List.concat_eq_append, ← List.cons_append, ← List.append_assoc] at hcycles
      exact ih (List.append_inj' hcycles rfl).1

/-- **The ids that are kept** are those of the last complete detection. -/
theorem detected_eq (h : VisitHistory r₀ cycles r) :
    r.detected = match lastComplete? cycles with
      | some a => some a.ids
      | none => r₀.detected := by
  induction h with
  | start => rfl
  | @visit cycles c h hc ih =>
    rw [hc.detected_after]
    cases hcomplete : c.isComplete with
    | true =>
      rw [lastComplete?_append_of_forall hcomplete fun _ h => absurd h List.not_mem_nil]
      rfl
    | false =>
      rw [if_neg Bool.false_ne_true, ih, lastComplete?_append_of_incomplete hcomplete]

end VisitHistory

/-! ## Selections from the ids that are kept -/

/-- A visit to which ids are kept, and that does not detect the connectors each time, uses these. -/
theorem VisitRecord.Happens.selection_eq {b : VisitRecord} (hb : b.Happens) {ids : NameSet}
    (hids : b.before.detected = some ids)
    (hkept : b.visit.engine.validateDetectionEachCycle = false) : b.selection = .reused ids := by
  obtain ⟨w, hselects⟩ := hb.exists_selects
  exact (hids ▸ hselects).eq_reused hkept

/-- A complete detection has results, and its selection is made by them. -/
theorem VisitRecord.Happens.exists_results {a : VisitRecord} (ha : a.Happens)
    (hcomplete : a.isComplete = true) :
    ∃ w results cancelled, a.selection = .evaluated results cancelled ∧
      results.map Prod.fst = a.staged ∧ (∀ e ∈ results, a.visit.Detects w e.1.connector e.2) ∧
      a.selected = selectDetected results := by
  obtain ⟨w, hselects⟩ := ha.exists_selects
  rw [isComplete] at hcomplete
  rw [selected]
  generalize a.selection = selection at hselects hcomplete ⊢
  cases hselects with
  | reused => cases hcomplete
  | @evaluated results cancelled _ hstaged hresults _ =>
    exact ⟨w, results, cancelled, rfl, hstaged, hresults, rfl⟩

/-- **A visit selects what the last complete detection selected**, in the same order, if the
connectors and the host are the same as then and the visit does not detect the connectors each time.
This is so whatever visits, none of them with a complete detection, came in between. No visit
replaces the ids that are kept, but one with a complete detection, and it replaces them by the ids
that it selected. -/
theorem Visit.selects_again {cycles : List VisitRecord} (h : VisitHistory r₀ cycles r) :
    (∀ earlier a between b later, cycles = earlier ++ a :: (between ++ b :: later) →
      a.isComplete = true → (∀ c ∈ between, c.isComplete = false) →
      b.connectors = a.connectors → b.visit.host = a.visit.host →
      b.visit.engine.validateDetectionEachCycle = false → b.selected = a.selected) ∧
    ∀ c ∈ cycles, c.after.detected = c.before.detected ∨
      c.isComplete = true ∧ c.after.detected = some c.ids := by
  constructor
  · rintro earlier a between b later rfl hcomplete hbetween hconnectors hhost hkept
    have ha := h.before.2
    rw [← List.cons_append, ← List.append_assoc] at h
    obtain ⟨hbefore, hb⟩ := h.before
    have hids := hbefore.detected_eq
    rw [lastComplete?_append_of_forall hcomplete hbetween] at hids
    have hstaged : b.staged = a.staged := by
      rw [VisitRecord.staged, VisitRecord.staged, hconnectors, hhost]
    obtain ⟨w, results, cancelled, -, hresults, -, hselected⟩ := ha.exists_results hcomplete
    rw [VisitRecord.selected, hb.selection_eq hids hkept, hstaged, VisitRecord.ids, Selection.ids,
      ← VisitRecord.selected, hselected, ← hresults]
    exact selected_reused_ids (hresults ▸ nodup_ids_stage a.connectors a.visit.host)
  · intro c hc
    obtain ⟨earlier, later, rfl⟩ := List.append_of_mem hc
    rw [h.before.2.detected_after]
    cases hcomplete : c.isComplete with
    | true => exact .inr ⟨rfl, rfl⟩
    | false => exact .inl rfl

/-! ## Two connectors of which one is present -/

namespace PresentConnector

/-- A connector that is not detected on the host. -/
def absent : Connector :=
  ⟨1, "X", none, none, [], ⟨[], false, [], [⟨0, false, .deviceType [] [.linux]⟩]⟩, .empty, .empty, [],
    .empty⟩

/-- A connector that is detected on the host. -/
def present : Connector :=
  ⟨1, "Y", none, none, [], ⟨[], false, [], [⟨0, false, .deviceType [.linux] []⟩]⟩, .empty, .empty, [],
    .empty⟩

/-- What their detections come to. -/
def outcome (c : Connector) : DetectionResult :=
  if c = absent then ⟨"X", [deviceTypeResult [] [.linux] .linux]⟩
  else ⟨"Y", [deviceTypeResult [.linux] [] .linux]⟩

/-- A visit that does not detect the connectors each time, to a host with directives. -/
def visit (directives : List String) : Visit :=
  ⟨⟨[], none⟩, { HostSettings.named "srv" .linux with directives := .ofNames directives },
    { EngineSettings.standard with validateDetectionEachCycle := false }, 0⟩

/-- Nobody is asked. -/
def network : Network Unit := fun _ s => (⟨0, .error ⟨.probeFailure, ""⟩⟩, s)

/-- The record of such a visit with a selection. -/
def record (directives : List String) (before : Resource) (selection : Selection) : VisitRecord :=
  let left := ((visit directives).run (.ofConnectors [absent, present])).run network none
    (.fresh before ())
  ⟨[absent, present], visit directives, before, selection, left.1, left.2.resource⟩

theorem eq_of_evaluation {directives : List String} {c : Criterion} {result : CriterionResult}
    (hc : (visit directives).evaluate c = pure result) {results : List CriterionResult}
    (h : Evaluation w (visit directives) [c] results) : results = [result] := by
  cases h with
  | met h _ hrest =>
    cases hrest
    rw [hc] at h
    rw [(runs_pure_some_iff.1 h).2]
  | unmet h =>
    rw [hc] at h
    rw [(runs_pure_some_iff.1 h).2]

theorem eq_outcome_of_detects {directives : List String} {c : Connector}
    (hc : c = absent ∨ c = present) {d : DetectionResult}
    (h : (visit directives).Detects w c d) : d = outcome c := by
  obtain ⟨id, results⟩ := d
  rcases hc with rfl | rfl
  · obtain ⟨rfl, h⟩ := h
    rw [show results = _ from eq_of_evaluation rfl h]
    rfl
  · obtain ⟨rfl, h⟩ := h
    rw [show results = _ from eq_of_evaluation rfl h]
    rfl

/-- Where no ids are kept, the visit comes to the outcomes of the connectors that are staged. -/
theorem happens_evaluated {directives : List String} {before : Resource}
    (staged : List StagedConnector)
    (hstaged : stagedOf [absent, present] (visit directives).host = staged)
    (hconnectors : ∀ s ∈ staged, s.connector = absent ∨ s.connector = present)
    (hbefore : before.detected = none) :
    (record directives before
      (.evaluated (staged.map fun s => (s, outcome s.connector)) false)).Happens := by
  refine happens_of_forall_selects (fun w selection hw hselects => ?_) rfl
  change (visit directives).Selects w (stagedOf [absent, present] (visit directives).host)
    before.detected selection at hselects
  rw [hstaged] at hselects
  cases hselects with
  | reused _ hids => exact absurd (hbefore.symm.trans hids) nofun
  | @evaluated results cancelled _ hresults hdetects hcancelled =>
    have hcancelled : cancelled = false := Bool.eq_false_iff.2 fun h => hw (hcancelled h)
    rw [hcancelled, ← hresults, List.map_map]
    congr 1
    refine (List.map_id results).symm.trans (List.map_congr_left fun e he => Prod.ext rfl ?_)
    exact eq_outcome_of_detects (hconnectors _ (hresults ▸ List.mem_map_of_mem he)) (hdetects e he)

/-- Where ids are kept, the visit uses them. -/
theorem happens_reused {directives : List String} {before : Resource} {ids : NameSet}
    (hbefore : before.detected = some ids) : (record directives before (.reused ids)).Happens := by
  refine happens_of_forall_selects (fun w selection _ hselects => ?_) rfl
  change (visit directives).Selects w (stagedOf [absent, present] (visit directives).host)
    before.detected selection at hselects
  rw [hbefore] at hselects
  exact hselects.eq_reused rfl

/-- The host of which nothing is known. -/
def unknown : Resource := .named "srv" .linux

/-- The first visit, without directives. -/
def first : VisitRecord :=
  record [] unknown (.evaluated [(⟨absent, false⟩, outcome absent), (⟨present, false⟩, outcome present)]
    false)

/-- The same visit once more. -/
def second : VisitRecord := record [] first.after (.reused first.ids)

theorem history_second : VisitHistory unknown [first, second] second.after := by
  have hfirst : first.Happens := happens_evaluated [⟨absent, false⟩, ⟨present, false⟩]
    (by decide +kernel) (by decide +kernel) rfl
  have hids : first.after.detected = some first.ids := hfirst.detected_after
  exact .visit (.visit .start hfirst) (happens_reused hids)

/-- The second visit selects the connector that is present, as the first one does. -/
theorem selects_present_again :
    VisitHistory unknown [first, second] second.after ∧ first.isComplete = true ∧
      second.selected = first.selected ∧ first.selected = [⟨present, false⟩] :=
  ⟨history_second, by decide +kernel,
    (Visit.selects_again history_second).1 [] first [] second [] rfl (by decide +kernel)
      (fun _ h => absurd h List.not_mem_nil) rfl rfl rfl,
    by decide +kernel⟩

end PresentConnector

/-! ## Under other conditions -/

/-- A visit that uses ids that are kept finds them kept. -/
theorem VisitRecord.Happens.detected_of_reused {b : VisitRecord} (hb : b.Happens) {ids : NameSet}
    (hreused : b.selection = .reused ids) : b.before.detected = some ids := by
  obtain ⟨w, hselects⟩ := hb.exists_selects
  rw [hreused] at hselects
  cases hselects with
  | reused _ hids => exact hids

/-- **What a visit selects by the ids that are kept** without forcing it was evaluated by the last
complete detection, whatever conditions changed since then, and if it was not forced at that time
its detection was a success. So a connector that was not evaluated at that time is not selected,
unless it is forced. -/
theorem Visit.selected_were_evaluated {cycles : List VisitRecord} (h : VisitHistory r₀ cycles r)
    (hr₀ : r₀.detected = none) {before later : List VisitRecord} {b : VisitRecord} {ids : NameSet}
    (hcycles : cycles = before ++ b :: later) (hreused : b.selection = .reused ids) :
    ∃ earlier a between, before = earlier ++ a :: between ∧ a.isComplete = true ∧
      (∀ c ∈ between, c.isComplete = false) ∧ ids = a.ids ∧
      ∃ w results cancelled, a.selection = .evaluated results cancelled ∧
        results.map Prod.fst = a.staged ∧ (∀ e ∈ results, a.visit.Detects w e.1.connector e.2) ∧
        ∀ s ∈ b.selected, s.forced = false → ∃ t result, (t, result) ∈ results ∧
          t.connector.id = s.connector.id ∧
          (b.connectors = a.connectors → t.connector = s.connector) ∧
          (t.forced = false → result.isSuccess = true) := by
  subst hcycles
  obtain ⟨hbefore, hb⟩ := h.before
  have hids := hb.detected_of_reused hreused
  rw [hbefore.detected_eq] at hids
  cases hlast : lastComplete? before with
  | none =>
    rw [hlast, hr₀] at hids
    cases hids
  | some a =>
    rw [hlast] at hids
    obtain ⟨earlier, between, rfl, hcomplete, hbetween⟩ := exists_of_lastComplete? hlast
    have hids : ids = a.ids := (Option.some.inj hids).symm
    obtain ⟨w, results, cancelled, hselection, hstaged, hresults, hselected⟩ :=
      hbefore.before.2.exists_results hcomplete
    refine ⟨earlier, a, between, rfl, hcomplete, hbetween, hids, w, results, cancelled, hselection,
      hstaged, hresults, fun s hs hforced => ?_⟩
    rw [VisitRecord.selected, hreused, hids] at hs
    obtain ⟨hs, hkept⟩ := List.mem_filter.1 hs
    rw [hforced, Bool.false_or, VisitRecord.ids, Selection.ids, NameSet.has_ofNames,
      decide_eq_true_iff] at hkept
    obtain ⟨t, ht, hid⟩ := List.mem_map.1 hkept
    have ht : t ∈ selectDetected results := hselected ▸ ht
    obtain ⟨result, hresult, hpassed⟩ := exists_result_of_mem_selectDetected ht
    refine ⟨t, result, hresult, hid, fun hconnectors => ?_, fun hunforced => ?_⟩
    · have ht' : t ∈ a.staged := hstaged ▸ (sublist_selectDetected results).subset ht
      rw [VisitRecord.staged, hconnectors] at hs
      exact connector_eq_of_mem_stagedOf ht' hs hid
    · exact hpassed.resolve_right (by rw [hunforced]; exact Bool.false_ne_true)

namespace PresentConnector

/-- The connector that the second visit selects was evaluated by the first one, with success. -/
theorem present_was_evaluated :
    ⟨present, false⟩ ∈ second.selected ∧ ∃ earlier a between, [first] = earlier ++ a :: between ∧
      ∃ results cancelled, a.selection = .evaluated results cancelled ∧
        ∃ t result, (t, result) ∈ results ∧ t.connector.id = "Y" ∧
          (t.forced = false → result.isSuccess = true) := by
  have hselected : ⟨present, false⟩ ∈ second.selected := by decide +kernel
  obtain ⟨earlier, a, between, hfirst, -, -, -, w, results, cancelled, hselection, -, -, hevaluated⟩ :=
    Visit.selected_were_evaluated history_second rfl
      (show [first, second] = [first] ++ second :: [] from rfl) rfl
  obtain ⟨t, result, hresult, hid, -, hsuccess⟩ := hevaluated _ hselected rfl
  exact ⟨hselected, earlier, a, between, hfirst, results, cancelled, hselection, t, result, hresult,
    hid, hsuccess⟩

/-- A visit with directives that force the connector that is absent and leave out the other one. -/
def choosy : VisitRecord :=
  record ["+X", "!Y"] unknown (.evaluated [(⟨absent, true⟩, outcome absent)] false)

/-- The visit without directives after it. -/
def plain : VisitRecord := record [] choosy.after (.reused choosy.ids)

/-- The visit without directives uses the ids that the other one kept. It stages the connector that
is present, which was not evaluated, and does not select it. It selects the one that is absent, which
is not forced any more and was no success. -/
theorem reused_without_evaluation :
    VisitHistory unknown [choosy, plain] plain.after ∧ unknown.detected = none ∧
      choosy.isComplete = true ∧ plain.selection = .reused choosy.ids ∧
      ∃ results, choosy.selection = .evaluated results false ∧
        (∃ s ∈ plain.staged, s.connector = present ∧ s.forced = false ∧ s ∉ plain.selected ∧
          ∀ e ∈ results, e.1.connector.id ≠ s.connector.id) ∧
        ∃ s ∈ plain.selected, s.connector = absent ∧ s.forced = false ∧
          ∀ e ∈ results, e.2.isSuccess = false := by
  have hchoosy : choosy.Happens := happens_evaluated [⟨absent, true⟩] (by decide +kernel)
    (by decide +kernel) rfl
  have hids : choosy.after.detected = some choosy.ids := hchoosy.detected_after
  refine ⟨.visit (.visit .start hchoosy) (happens_reused hids), rfl, by decide +kernel, rfl, _, rfl,
    ⟨⟨present, false⟩, ?_⟩, ⟨absent, false⟩, ?_⟩
  · decide +kernel
  · decide +kernel

end PresentConnector

end HardwareWatch
