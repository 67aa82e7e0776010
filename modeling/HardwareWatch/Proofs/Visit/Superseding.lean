import HardwareWatch.Proofs.Visit.Selection
import Mathlib.Order.WellFoundedSet

/-!
# Superseded and forced connectors

A connector can take the place of others. Of the connectors that passed a detection, all that
another one takes the place of are left out at once, unless they are forced.

* `mem_selectDetected_iff` says which connectors are left out.
* `SupersededBySelected` says that for every connector that is left out another one is selected that
  takes its place, perhaps by way of others in between.
* `Visit.superseded_by_selected_iff` says that this is so unless there are connectors that take the
  place of each other in a circle and that no selected one takes the place of.
* `OwnSuccessor.selects_nothing` has a connector that takes its own place, and so none is selected.
* `notMem_selectDetected_iff` says which connectors are left out although their detections succeeded:
  a forced connector is run whatever its detection says, and it takes the place of others all the
  same.
* `Visit.replaced_by_successes_iff` says that each of them has a successor whose detection succeeded,
  too, unless a connector has no successors but forced ones whose detections failed;
  `ForcedSuccessor.replaces_success` has such a connector.
-/

namespace HardwareWatch

open Activity Relation

/-- One connector takes the place of another one. -/
def StagedConnector.Supersedes (t s : StagedConnector) : Prop :=
  Text.lowercase s.connector.id ∈ t.connector.detection.supersedes.map Text.lowercase

instance : DecidableRel StagedConnector.Supersedes := fun _ _ => List.instDecidableMemOfLawfulBEq ..

/-- One of the connectors that passed takes the place of another one of them. -/
def SupersedesAmong (passed : List StagedConnector) (t s : StagedConnector) : Prop :=
  t ∈ passed ∧ s ∈ passed ∧ t.Supersedes s

/-- For every connector that passed and is not selected another one is selected that takes its
place, perhaps by way of others that passed. -/
def SupersededBySelected (passed selected : List StagedConnector) : Prop :=
  ∀ s ∈ passed, s ∉ selected →
    ∃ t ∈ selected, t.connector.id ≠ s.connector.id ∧ TransGen (SupersedesAmong passed) t s

/-- Of the connectors that take their own places, perhaps by way of others that passed, each is
selected, or a selected one takes its place. -/
def CirclesSelected (passed selected : List StagedConnector) : Prop :=
  ∀ s ∈ passed, TransGen (SupersedesAmong passed) s s →
    s ∈ selected ∨ ∃ t ∈ selected, TransGen (SupersedesAmong passed) t s

variable {results : List (StagedConnector × DetectionResult)} {s t : StagedConnector}

theorem mem_supersededIds_iff {passed : List StagedConnector} :
    Text.lowercase s.connector.id ∈ supersededIds passed ↔ ∃ t ∈ passed, t.Supersedes s :=
  List.mem_flatMap

/-- The connectors that are selected are those that are forced or that no other takes the place of.
-/
theorem mem_selectDetected_iff :
    s ∈ selectDetected results ↔ s ∈ passedDetection results ∧
      (s.forced = true ∨ ∀ t ∈ passedDetection results, ¬t.Supersedes s) := by
  simp only [selectDetected, List.mem_filter, Bool.or_eq_true, Bool.not_eq_true',
    ← Bool.not_eq_true, List.contains_iff_mem, mem_supersededIds_iff]
  push Not
  rfl

/-! ## Circles -/

/-- If one can always go back to a predecessor, among finitely many, one comes to a circle. -/
theorem exists_circle {α : Type} {l : List α} {R : α → α → Prop} {s : α}
    (hl : ∀ u, ReflTransGen R u s → u ∈ l) (hpred : ∀ u, ReflTransGen R u s → ∃ t, R t u) :
    ∃ u, TransGen R u u ∧ ReflTransGen R u s := by
  by_contra hnone
  have hstrict : IsStrictOrder α fun t u => TransGen R t u ∧ ReflTransGen R u s :=
    { irrefl := fun u hu => hnone ⟨u, hu⟩
      trans := fun _ _ _ h h' => ⟨h.1.trans h'.1, h'.2⟩ }
  have hfinite : {u | ReflTransGen R u s}.Finite := l.finite_toSet.subset hl
  have hwf := hfinite.wellFoundedOn (r := fun t u => TransGen R t u ∧ ReflTransGen R u s)
  have hs : s ∈ {u | ReflTransGen R u s} := .refl
  refine hwf.induction hs (P := fun _ => False) fun u hu ih => ?_
  obtain ⟨t, ht⟩ := hpred u hu
  exact ih t (.head ht hu) ⟨.single ht, hu⟩

/-- Where every element of a list that is not chosen has a predecessor in it, every such element
comes from one that is chosen, if the circles do. -/
theorem exists_transGen_of_circles {α : Type} {l : List α} {R : α → α → Prop} {P : α → Prop}
    (hR : ∀ t s, R t s → t ∈ l) (hpred : ∀ s ∈ l, ¬P s → ∃ t, R t s)
    (hcircle : ∀ s ∈ l, TransGen R s s → P s ∨ ∃ t, P t ∧ TransGen R t s) {s : α} (hs : s ∈ l)
    (hsP : ¬P s) : ∃ t, P t ∧ TransGen R t s := by
  by_contra hnone
  have hl : ∀ u, ReflTransGen R u s → u ∈ l := fun u hu => by
    rcases ReflTransGen.cases_head hu with rfl | ⟨t, hut, -⟩
    · exact hs
    · exact hR u t hut
  have hunchosen : ∀ u, ReflTransGen R u s → ¬P u := fun u hu hP => by
    rcases reflTransGen_iff_eq_or_transGen.1 hu with rfl | hu
    · exact hsP hP
    · exact hnone ⟨u, hP, hu⟩
  obtain ⟨u, hcirc, hu⟩ := exists_circle hl fun u hu => hpred u (hl u hu) (hunchosen u hu)
  rcases hcircle u (hl u hu) hcirc with hP | ⟨t, hP, ht⟩
  · exact hunchosen u hu hP
  · exact hnone ⟨t, hP, ht.trans_left hu⟩

/-- Every connector that is left out comes from a selected one, if the circles do. -/
theorem exists_selected_of_circles
    (h : CirclesSelected (passedDetection results) (selectDetected results))
    (hs : s ∈ passedDetection results) (hleft : s ∉ selectDetected results) :
    ∃ t ∈ selectDetected results, TransGen (SupersedesAmong (passedDetection results)) t s := by
  refine exists_transGen_of_circles (fun t s h => h.1) (fun s hs hleft => ?_) h hs hleft
  rw [mem_selectDetected_iff] at hleft
  push Not at hleft
  obtain ⟨t, ht, hts⟩ := (hleft hs).2
  exact ⟨t, ht, hs, hts⟩

theorem supersededBySelected_iff (hids : ((results.map Prod.fst).map (·.connector.id)).Nodup) :
    SupersededBySelected (passedDetection results) (selectDetected results) ↔
      CirclesSelected (passedDetection results) (selectDetected results) := by
  have hstaged : ∀ s ∈ passedDetection results, s ∈ results.map Prod.fst := fun s hs => by
    obtain ⟨result, hmem, -⟩ := mem_passedDetection_iff.1 hs
    exact List.mem_map.2 ⟨_, hmem, rfl⟩
  constructor
  · intro h s hs _
    by_cases hselected : s ∈ selectDetected results
    · exact .inl hselected
    · obtain ⟨t, ht, -, hts⟩ := h s hs hselected
      exact .inr ⟨t, ht, hts⟩
  · intro h s hs hleft
    obtain ⟨t, ht, hts⟩ := exists_selected_of_circles h hs hleft
    refine ⟨t, ht, fun hid => hleft ?_, hts⟩
    have hpassed := (mem_selectDetected_iff.1 ht).1
    rwa [← List.inj_on_of_nodup_map hids (hstaged t hpassed) (hstaged s hs) hid]

/-- Where the circles come from selected connectors, some connector is selected if any passed. -/
theorem selectDetected_ne_nil
    (h : CirclesSelected (passedDetection results) (selectDetected results))
    (hpassed : passedDetection results ≠ []) : selectDetected results ≠ [] := by
  obtain ⟨s, hs⟩ := List.exists_mem_of_ne_nil _ hpassed
  by_cases hselected : s ∈ selectDetected results
  · exact List.ne_nil_of_mem hselected
  · obtain ⟨t, ht, -⟩ := exists_selected_of_circles h hs hselected
    exact List.ne_nil_of_mem ht

/-! ## Detections -/

/-- **Superseded connectors have selected successors**, unless there are circles. The detection of a
visit uses the ids of an earlier one again, or it has results of the criteria of the staged
connectors, which it reports, and selects by them. Then of all connectors that passed each one that
is left out has another one in its place that is selected, perhaps by way of others that passed, if
and only if this is so of those that take their own places, perhaps by way of others. If it is so,
then some connector is selected if any passed. -/
theorem Visit.superseded_by_selected_iff {σ : Type} (v : Visit) (connectors : List Connector)
    (network : Network σ) (cancelAt : Option Nat) (s : Site σ) :
    let staged := stagedOf connectors v.host
    let found := ((v.detect staged).run network cancelAt s).1
    (v.engine.validateDetectionEachCycle = false ∧ s.resource.detected.isSome = true) ∨
      ∃ results : List (StagedConnector × DetectionResult), results.map Prod.fst = staged ∧
        (∀ e ∈ results, v.Detects (.around network (s.cancelled = true ∨ cancelAt ≠ none))
          e.1.connector e.2) ∧
        found = (selectDetected results,
          results.map fun (s, result) => s.skippedReport (some result)) ∧
        (SupersededBySelected (passedDetection results) found.1 ↔
          CirclesSelected (passedDetection results) found.1) ∧
        (CirclesSelected (passedDetection results) found.1 → passedDetection results ≠ [] →
          found.1 ≠ []) := by
  intro staged found
  obtain ⟨selection, hselects, -, hfound⟩ := ends_detect
    (ends_run (Surroundings.around_admits network _) cancelAt (v.detect staged) s id)
  rw [show found = (selection.selected staged, selection.reports staged) from hfound]
  cases hselects with
  | reused hkept hids => exact .inl ⟨hkept, by rw [hids]; rfl⟩
  | @evaluated results _ hfresh hstaged hresults hcancelled =>
    have hids : ((results.map Prod.fst).map (·.connector.id)).Nodup :=
      hstaged ▸ nodup_ids_stage connectors v.host
    exact .inr ⟨results, hstaged, hresults, rfl, supersededBySelected_iff hids,
      selectDetected_ne_nil⟩

/-! ## A connector that takes its own place -/

namespace OwnSuccessor

/-- A connector without criteria that names itself, in lower case, among those it takes the place
of. -/
def connector : Connector :=
  ⟨1, "S", none, none, [], ⟨[], false, ["s"], []⟩, .empty, .empty, [], .empty⟩

/-- A visit to a host, without extensions. -/
def visit : Visit := ⟨⟨[], none⟩, .named "srv" .linux, .standard, 0⟩

/-- Nobody is asked. -/
def network : Network Unit := fun _ s => (⟨0, .error ⟨.probeFailure, ""⟩⟩, s)

/-- The site of the visit. -/
def site : Site Unit := .fresh (.named "srv" .linux) ()

/-- The only connector passes and is not selected, and no connector takes its place. -/
theorem selects_nothing :
    let staged := stagedOf [connector] visit.host
    let results := [((⟨connector, false⟩ : StagedConnector), (⟨"S", []⟩ : DetectionResult))]
    let found := ((visit.detect staged).run network none site).1
    staged = [⟨connector, false⟩] ∧
    found = (selectDetected results, results.map fun (s, result) => s.skippedReport (some result)) ∧
    passedDetection results = [⟨connector, false⟩] ∧ found.1 = [] ∧
    ¬SupersededBySelected (passedDetection results) found.1 := by
  intro staged results found
  have hrun : (visit.detect staged).run network none site = _ := run_at_once rfl rfl rfl
  have hfound : found = ([], [(⟨connector, false⟩ : StagedConnector).skippedReport
      (some ⟨"S", []⟩)]) := congrArg Prod.fst hrun
  have hpassed : passedDetection results = [⟨connector, false⟩] := rfl
  refine ⟨by decide +kernel, hfound, hpassed, congrArg Prod.fst hfound, fun h => ?_⟩
  rw [hpassed, hfound] at h
  obtain ⟨t, ht, -⟩ := h _ List.mem_cons_self List.not_mem_nil
  exact List.not_mem_nil ht

end OwnSuccessor

end HardwareWatch

/-! ## Forced connectors that were not detected -/

namespace HardwareWatch

open Activity

/-- Each connector that is left out although its detection succeeded has a successor whose detection
succeeded. -/
def ReplacedBySuccesses (results : List (StagedConnector × DetectionResult))
    (selected : List StagedConnector) : Prop :=
  ∀ e ∈ results, e.2.isSuccess = true → e.1 ∉ selected →
    ∃ e' ∈ results, e'.2.isSuccess = true ∧ e'.1.Supersedes e.1

/-- What a forced connector takes the place of, although its detection failed, has a successor whose
detection succeeded as well, unless it is forced itself. -/
def FailuresReplaceNothing (results : List (StagedConnector × DetectionResult)) : Prop :=
  ∀ f ∈ results, f.2.isSuccess = false → f.1.forced = true →
    ∀ e ∈ results, e.2.isSuccess = true → e.1.forced = false → f.1.Supersedes e.1 →
      ∃ e' ∈ results, e'.2.isSuccess = true ∧ e'.1.Supersedes e.1

variable {results : List (StagedConnector × DetectionResult)} {s : StagedConnector}

/-- A successor passed if its detection succeeded or if it is forced. -/
theorem exists_successor_passed_iff :
    (∃ t ∈ passedDetection results, t.Supersedes s) ↔
      ∃ e ∈ results, (e.2.isSuccess = true ∨ e.1.forced = true) ∧ e.1.Supersedes s := by
  simp only [mem_passedDetection_iff]
  constructor
  · rintro ⟨t, ⟨result, hmem, hpassed⟩, hts⟩
    exact ⟨(t, result), hmem, hpassed, hts⟩
  · rintro ⟨⟨t, result⟩, hmem, hpassed, hts⟩
    exact ⟨t, ⟨result, hmem, hpassed⟩, hts⟩

/-- **Left out although its detection succeeded**: a connector that is not forced and that has a
successor, one that is forced or whose detection succeeded. -/
theorem notMem_selectDetected_iff {e : StagedConnector × DetectionResult} (he : e ∈ results)
    (hsuccess : e.2.isSuccess = true) :
    e.1 ∉ selectDetected results ↔ e.1.forced = false ∧
      ∃ e' ∈ results, (e'.2.isSuccess = true ∨ e'.1.forced = true) ∧ e'.1.Supersedes e.1 := by
  have hpassed : e.1 ∈ passedDetection results :=
    mem_passedDetection_iff.2 ⟨e.2, he, .inl hsuccess⟩
  rw [mem_selectDetected_iff, ← exists_successor_passed_iff]
  simp only [hpassed, true_and, not_or, Bool.not_eq_true]
  push Not
  rfl

theorem replacedBySuccesses_iff :
    ReplacedBySuccesses results (selectDetected results) ↔ FailuresReplaceNothing results := by
  constructor
  · intro h f hf _ hforced e he hsuccess hunforced hfe
    exact h e he hsuccess
      ((notMem_selectDetected_iff he hsuccess).2 ⟨hunforced, f, hf, .inr hforced, hfe⟩)
  · intro h e he hsuccess hleft
    obtain ⟨hunforced, f, hf, hpassed, hfe⟩ := (notMem_selectDetected_iff he hsuccess).1 hleft
    cases hresult : f.2.isSuccess with
    | true => exact ⟨f, hf, hresult, hfe⟩
    | false =>
      have hforced : f.1.forced = true := hpassed.resolve_left (by simp [hresult])
      exact h f hf hresult hforced e he hsuccess hunforced hfe

/-- **Successors whose detections succeeded.** The detection of a visit uses the ids of an earlier
one again, or it has results of the criteria of the staged connectors, which it reports, and selects
by them. Then a connector whose detection succeeded is left out if and only if it is not forced and
has a successor, be it one whose detection succeeded or a forced one. Each connector that is left out
in this way has a successor whose detection succeeded if and only if this is so of all that a forced
connector takes the place of although its detection failed. -/
theorem Visit.replaced_by_successes_iff {σ : Type} (v : Visit) (connectors : List Connector)
    (network : Network σ) (cancelAt : Option Nat) (s : Site σ) :
    let staged := stagedOf connectors v.host
    let found := ((v.detect staged).run network cancelAt s).1
    (v.engine.validateDetectionEachCycle = false ∧ s.resource.detected.isSome = true) ∨
      ∃ results : List (StagedConnector × DetectionResult), results.map Prod.fst = staged ∧
        (∀ e ∈ results, v.Detects (.around network (s.cancelled = true ∨ cancelAt ≠ none))
          e.1.connector e.2) ∧
        found = (selectDetected results,
          results.map fun (s, result) => s.skippedReport (some result)) ∧
        (∀ e ∈ results, e.2.isSuccess = true → (e.1 ∉ found.1 ↔ e.1.forced = false ∧
          ∃ e' ∈ results, (e'.2.isSuccess = true ∨ e'.1.forced = true) ∧ e'.1.Supersedes e.1)) ∧
        (ReplacedBySuccesses results found.1 ↔ FailuresReplaceNothing results) := by
  intro staged found
  obtain ⟨selection, hselects, -, hfound⟩ := ends_detect
    (ends_run (Surroundings.around_admits network _) cancelAt (v.detect staged) s id)
  rw [show found = (selection.selected staged, selection.reports staged) from hfound]
  cases hselects with
  | reused hkept hids => exact .inl ⟨hkept, by rw [hids]; rfl⟩
  | @evaluated results _ _ hstaged hresults _ =>
    exact .inr ⟨results, hstaged, hresults, rfl, fun e => notMem_selectDetected_iff,
      replacedBySuccesses_iff⟩

/-! ## A forced connector that was not detected -/

namespace ForcedSuccessor

/-- A connector for other hosts that is forced on this one. It names the other connector among those
it takes the place of. -/
def forced : Connector :=
  ⟨1, "F", none, none, [], ⟨[], false, ["B"], [⟨0, false, .deviceType [.windows] []⟩]⟩, .empty,
    .empty, [], .empty⟩

/-- A connector without criteria. -/
def replaced : Connector :=
  ⟨1, "B", none, none, [], ⟨[], false, [], []⟩, .empty, .empty, [], .empty⟩

/-- A visit to a host that forces the first connector, without extensions. -/
def visit : Visit :=
  ⟨⟨[], none⟩, { HostSettings.named "srv" .linux with directives := .ofNames ["+F"] }, .standard, 0⟩

/-- Nobody is asked. -/
def network : Network Unit := fun _ s => (⟨0, .error ⟨.probeFailure, ""⟩⟩, s)

/-- The site of the visit. -/
def site : Site Unit := .fresh (.named "srv" .linux) ()

/-- The result of the connector for other hosts. -/
def unmet : DetectionResult := ⟨"F", [deviceTypeResult [.windows] [] .linux]⟩

/-- The detection of one connector succeeds, that of the other fails. Only the other one is selected,
and no connector whose detection succeeded takes the place of the first. -/
theorem replaces_success :
    let staged := stagedOf [forced, replaced] visit.host
    let results : List (StagedConnector × DetectionResult) :=
      [(⟨replaced, false⟩, ⟨"B", []⟩), (⟨forced, true⟩, unmet)]
    let found := ((visit.detect staged).run network none site).1
    staged = results.map Prod.fst ∧
    found = (selectDetected results, results.map fun (s, result) => s.skippedReport (some result)) ∧
    results.map (·.2.isSuccess) = [true, false] ∧ found.1 = [⟨forced, true⟩] ∧
    ¬ReplacedBySuccesses results found.1 := by
  intro staged results found
  have hrun : (visit.detect staged).run network none site = _ := run_at_once rfl rfl rfl
  have hfound : found = ([⟨forced, true⟩],
      results.map fun (s, result) => s.skippedReport (some result)) := congrArg Prod.fst hrun
  refine ⟨by decide +kernel, hfound, by decide +kernel, congrArg Prod.fst hfound, fun h => ?_⟩
  rw [hfound] at h
  obtain ⟨e, he, hsuccess, hsupersedes⟩ := h _ List.mem_cons_self rfl (by decide +kernel)
  revert e
  decide +kernel

end ForcedSuccessor

end HardwareWatch
