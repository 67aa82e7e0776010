import HardwareWatch.Proofs.Visit.ProbeCourses
import HardwareWatch.Visit.Detection

/-!
# Criteria in their order

The criteria of a connector are evaluated one after the other, up to the first that is not met. The
results are those of the criteria that were evaluated, and so what they say of the connector depends
on where the evaluation ended.

* `CriterionEnding` is how the evaluation of a criterion ended, `Visit.Evaluates` says what happened
  by then and what came of it.
* `DetectionCourse` is the course of a detection, `DetectionCourse.Tells` what it says of the log
  and of the results.
* `exists_detectionCourse` says that every evaluation of criteria has a course.
* `Visit.detects_in_order` is the main statement.
-/

namespace HardwareWatch

open Activity

/-! ## One criterion -/

/-- How the evaluation of a criterion ended. -/
inductive CriterionEnding
  /-- The engine decided it itself. -/
  | decided
  /-- No extension evaluates it. -/
  | unsupported
  /-- An extension was to be asked. -/
  | probed (ending : ProbeEnding)
  deriving DecidableEq

/-- The result of a criterion, given what its probe came to. -/
def CriterionResult.ofProbe : Except EngineError CriterionResult → CriterionResult
  | .ok result => result
  | .error e => .ofError e

namespace Visit

/-- The call of the probe for a criterion. -/
def criterionCall (v : Visit) (c : Criterion) (e : Extension) : ProbeCall :=
  ⟨criterionSubject c e, c.forceSerialization,
    v.request e (v.host.timeoutFor c.protocol?) (.criterion c)⟩

theorem probeCriterion_eq (v : Visit) {c : Criterion} {e : Extension}
    (h : v.registry.forCriterion? c.type v.host = some e) :
    v.probeCriterion c = do return CriterionResult.ofProbe (← v.call (v.criterionCall c e)) := by
  rw [probeCriterion, h]
  change v.call (v.criterionCall c e) >>= _ = v.call (v.criterionCall c e) >>= _
  congr 1
  funext answer
  cases answer <;> rfl

section

variable {σ : Type} (network : Network σ) (v : Visit) (mayBeCancelled : Prop)

/-- The evaluation of a criterion: how it ended, what happened by then, and its result. -/
inductive Evaluates (c : Criterion) : CriterionEnding → List CallEvent → CriterionResult → Prop
  | deviceType {keep exclude : List DeviceKind} (h : c.kind = .deviceType keep exclude) :
    Evaluates c .decided [] (deviceTypeResult keep exclude v.host.kind)
  | productRequirements {engineVersion kbVersion : Option String}
      (h : c.kind = .productRequirements engineVersion kbVersion) :
    Evaluates c .decided [] (productResult engineVersion v.engine.engineVersion)
  | unsupported (hprotocol : c.protocol? ≠ none)
      (h : v.registry.forCriterion? c.type v.host = none) :
    Evaluates c .unsupported [] (.ofError (v.noEvaluator c.type))
  | probed {e : Extension} {ending : ProbeEnding} {events : List CallEvent}
      {answer : Except EngineError CriterionResult} (hprotocol : c.protocol? ≠ none)
      (h : v.registry.forCriterion? c.type v.host = some e)
      (hcourse : ProbeCourse network v mayBeCancelled (v.criterionCall c e) ending events answer) :
    Evaluates c (.probed ending) events (.ofProbe answer)

end

end Visit

section

variable {σ : Type} {network : Network σ} {v : Visit} {mayBeCancelled : Prop} {c : Criterion}
  {events : List CallEvent} {ending : CriterionEnding} {result : CriterionResult}

theorem outcome_deviceTypeResult (keep exclude : List DeviceKind) (host : DeviceKind) :
    (deviceTypeResult keep exclude host).outcome ≠ .error := by
  rw [deviceTypeResult]
  split
  · nofun
  · split <;> nofun

theorem outcome_productResult (required : Option String) (engineVersion : String) :
    (productResult required engineVersion).outcome ≠ .error := by
  rw [productResult]
  split
  · nofun
  · split <;> nofun

/-- The evaluation of a criterion by its protocol. -/
theorem evaluates_of_probeCriterion (hprotocol : c.protocol? ≠ none)
    (h : Looked network mayBeCancelled (v.probeCriterion c) events (done result)) :
    ∃ ending, v.Evaluates network mayBeCancelled c ending events result := by
  cases hextension : v.registry.forCriterion? c.type v.host with
  | none =>
    rw [Visit.probeCriterion, hextension] at h
    obtain ⟨rfl, hresult⟩ := looked_done h
    cases hresult
    exact ⟨_, .unsupported hprotocol hextension⟩
  | some e =>
    rw [v.probeCriterion_eq hextension] at h
    obtain ⟨answer, first, second, hprobe, hend, rfl⟩ := looked_bind_done h
    obtain ⟨rfl, hresult⟩ := looked_done hend
    cases hresult
    obtain ⟨ending, hcourse⟩ := exists_probeCourse hprobe
    rw [List.append_nil]
    exact ⟨_, .probed hprotocol hextension hcourse⟩

/-- **Every evaluation of a criterion** ends in one of these ways. -/
theorem exists_evaluates (h : Looked network mayBeCancelled (v.evaluate c) events (done result)) :
    ∃ ending, v.Evaluates network mayBeCancelled c ending events result := by
  obtain ⟨position, forced, kind⟩ := c
  cases kind with
  | deviceType keep exclude =>
    obtain ⟨rfl, hresult⟩ := looked_done h
    cases hresult
    exact ⟨_, .deviceType rfl⟩
  | productRequirements engineVersion kbVersion =>
    obtain ⟨rfl, hresult⟩ := looked_done h
    cases hresult
    exact ⟨_, .productRequirements rfl⟩
  | _ => exact evaluates_of_probeCriterion nofun h

/-! ## Criteria one after the other -/

/-- A criterion that was evaluated: how that ended, what happened by then, and the result. -/
structure CriterionStep where
  criterion : Criterion
  ending : CriterionEnding
  events : List CallEvent
  result : CriterionResult

/-- Whether a criterion could not be evaluated: no extension evaluates it, its probe has no answer,
or that is what the extension answered. -/
def CriterionStep.hasError (step : CriterionStep) : Bool :=
  match step.ending with
  | .decided => false
  | .unsupported => true
  | .probed .answered => step.result.outcome == .error
  | .probed _ => true

/-- The evaluation of a criterion that makes a step. -/
def CriterionStep.Evaluated {σ : Type} (network : Network σ) (v : Visit) (mayBeCancelled : Prop)
    (step : CriterionStep) : Prop :=
  v.Evaluates network mayBeCancelled step.criterion step.ending step.events step.result

/-- **When a criterion could not be evaluated**, this is its outcome, and in no other case. -/
theorem CriterionStep.Evaluated.hasError_iff {step : CriterionStep}
    (h : step.Evaluated network v mayBeCancelled) :
    step.hasError = true ↔ step.result.outcome = .error := by
  obtain ⟨criterion, ending, events, result⟩ := step
  change v.Evaluates network mayBeCancelled criterion ending events result at h
  cases h with
  | deviceType => exact iff_of_false nofun (outcome_deviceTypeResult _ _ _)
  | productRequirements => exact iff_of_false nofun (outcome_productResult _ _)
  | unsupported => exact iff_of_true rfl rfl
  | @probed e ending _ answer _ _ hcourse =>
    have hanswered := hcourse.answered_iff
    cases answer with
    | ok result =>
      obtain rfl := hanswered.2 ⟨result, rfl⟩
      exact beq_iff_eq
    | error error =>
      refine iff_of_true ?_ rfl
      cases ending with
      | answered =>
        obtain ⟨result, hresult⟩ := hanswered.1 rfl
        cases hresult
      | _ => rfl

/-- The course of a detection. -/
structure DetectionCourse where
  /-- The criteria that were evaluated and are met. -/
  met : List CriterionStep
  /-- The first criterion that is not met, if there is one. -/
  unmet : Option CriterionStep
  /-- The criteria after it. -/
  later : List Criterion

/-- The criteria that were evaluated, in their order. -/
def DetectionCourse.evaluated (course : DetectionCourse) : List CriterionStep :=
  course.met ++ course.unmet.toList

/-- What the course of a detection says of the criteria, of what happened and of the results. -/
structure DetectionCourse.Tells {σ : Type} (network : Network σ) (v : Visit) (mayBeCancelled : Prop)
    (criteria : List Criterion) (events : List CallEvent) (results : List CriterionResult)
    (course : DetectionCourse) : Prop where
  /-- The criteria are evaluated in their order, and those that come later are not. -/
  criteria : criteria = course.evaluated.map (·.criterion) ++ course.later
  /-- Nothing happened but in the evaluation of these criteria, one after the other. -/
  events : events = course.evaluated.flatMap (·.events)
  results : results = course.evaluated.map (·.result)
  evaluated : ∀ step ∈ course.evaluated, step.Evaluated network v mayBeCancelled
  met : ∀ step ∈ course.met, step.result.isSuccess = true
  unmet : ∀ step ∈ course.unmet, step.result.isSuccess = false
  complete : course.unmet = none → course.later = []

namespace DetectionCourse.Tells

variable {criteria : List Criterion} {results : List CriterionResult} {course : DetectionCourse}

theorem nil : Tells network v mayBeCancelled [] [] [] ⟨[], none, []⟩ where
  criteria := rfl
  events := rfl
  results := rfl
  evaluated := List.forall_mem_nil _
  met := List.forall_mem_nil _
  unmet _ h := nomatch h
  complete _ := rfl

/-- A criterion that is met comes before the others. -/
theorem cons (h : Tells network v mayBeCancelled criteria events results course)
    (step : CriterionStep) (hstep : step.Evaluated network v mayBeCancelled)
    (hmet : step.result.isSuccess = true) :
    Tells network v mayBeCancelled (step.criterion :: criteria) (step.events ++ events)
      (step.result :: results) { course with met := step :: course.met } where
  criteria := congrArg (step.criterion :: ·) h.criteria
  events := congrArg (step.events ++ ·) h.events
  results := congrArg (step.result :: ·) h.results
  evaluated := List.forall_mem_cons.2 ⟨hstep, h.evaluated⟩
  met := List.forall_mem_cons.2 ⟨hmet, h.met⟩
  unmet := h.unmet
  complete := h.complete

/-- A criterion that is not met is the last one. -/
theorem last (step : CriterionStep) (later : List Criterion)
    (hstep : step.Evaluated network v mayBeCancelled)
    (hunmet : step.result.isSuccess = false) :
    Tells network v mayBeCancelled (step.criterion :: later) step.events [step.result]
      ⟨[], some step, later⟩ where
  criteria := rfl
  events := (List.append_nil _).symm
  results := rfl
  evaluated := List.forall_mem_singleton.2 hstep
  met := List.forall_mem_nil _
  unmet _ h := Option.some.inj h ▸ hunmet
  complete h := nomatch h

end DetectionCourse.Tells

/-- **Every evaluation of criteria has a course.** -/
theorem exists_detectionCourse {criteria : List Criterion} {results : List CriterionResult}
    (h : Looked network mayBeCancelled (v.evaluateAll criteria) events (done results)) :
    ∃ course : DetectionCourse,
      course.Tells network v mayBeCancelled criteria events results := by
  induction criteria generalizing events results with
  | nil =>
    obtain ⟨rfl, hresults⟩ := looked_done h
    cases hresults
    exact ⟨_, .nil⟩
  | cons c rest ih =>
    obtain ⟨result, first, second, hfirst, hrest, rfl⟩ := looked_bind_done h
    obtain ⟨ending, hevaluates⟩ := exists_evaluates hfirst
    let step : CriterionStep := ⟨c, ending, first, result⟩
    cases hmet : result.isSuccess with
    | true =>
      rw [hmet, if_pos rfl] at hrest
      obtain ⟨more, second, _, hmore, hend, rfl⟩ := looked_bind_done hrest
      obtain ⟨rfl, hresults⟩ := looked_done hend
      cases hresults
      obtain ⟨course, hcourse⟩ := ih hmore
      rw [List.append_nil]
      exact ⟨_, hcourse.cons step hevaluates hmet⟩
    | false =>
      rw [hmet, if_neg Bool.false_ne_true] at hrest
      obtain ⟨rfl, hresults⟩ := looked_done hrest
      cases hresults
      rw [List.append_nil]
      exact ⟨_, .last step rest hevaluates hmet⟩

/-! ## What the results say -/

namespace DetectionCourse.Tells

variable {criteria : List Criterion} {d : DetectionResult} {course : DetectionCourse}

/-- A detection succeeds if all criteria of the connector are evaluated and met. -/
theorem isSuccess_iff (h : Tells network v mayBeCancelled criteria events d.results course) :
    d.isSuccess = true ↔ course.met.map (·.criterion) = criteria := by
  rw [DetectionResult.isSuccess, List.all_eq_true, h.results, List.forall_mem_map,
    DetectionCourse.evaluated, List.forall_mem_append, and_iff_right h.met]
  cases hunmet : course.unmet with
  | none =>
    refine iff_of_true (List.forall_mem_nil _) ?_
    rw [h.criteria, DetectionCourse.evaluated, hunmet, h.complete hunmet, List.append_nil,
      Option.toList_none, List.append_nil]
  | some step =>
    refine iff_of_false (fun hall => ?_) fun hmet => ?_
    · have hsuccess := hall step List.mem_cons_self
      exact Bool.false_ne_true ((h.unmet step hunmet).symm.trans hsuccess)
    · have hlength := congrArg List.length (hmet.trans h.criteria)
      simp only [DetectionCourse.evaluated, hunmet, Option.toList_some, List.map_append,
        List.length_append, List.length_map, List.length_singleton] at hlength
      omega

/-- A detection has errors if the last criterion that was evaluated could not be. -/
theorem hasErrors_iff (h : Tells network v mayBeCancelled criteria events d.results course) :
    d.hasErrors = true ↔ ∃ step ∈ course.unmet, step.result.outcome = .error := by
  rw [DetectionResult.hasErrors, h.results, List.any_map, List.any_eq_true]
  constructor
  · rintro ⟨step, hstep, herror⟩
    have herror := beq_iff_eq.1 herror
    rcases List.mem_append.1 hstep with hmet | hunmet
    · have hsuccess := beq_iff_eq.1 (h.met step hmet)
      cases hsuccess.symm.trans herror
    · exact ⟨step, Option.mem_toList.1 hunmet, herror⟩
  · rintro ⟨step, hstep, herror⟩
    exact ⟨step, List.mem_append_right _ (Option.mem_toList.2 hstep), beq_iff_eq.2 herror⟩

end DetectionCourse.Tells

end

/-! ## Detections -/

/-- **Criteria are evaluated in their order**, up to the first that is not met. A detection that is
run comes to its end. A detection that comes to its end, at whatever sites it is looked at, has a
course: criteria that are met, perhaps one that is not met, and criteria that come later, of which
there are none if all others are met. The results are those of the criteria that were evaluated, and
all that happened to requests is what happened in the evaluation of these, one after the other. The
detection is a success if and only if the criteria that are met are all criteria of the connector,
and it has errors if and only if the unmet one could not be evaluated. -/
theorem Visit.detects_in_order {σ : Type} (v : Visit) (c : Connector) (network : Network σ) :
    (∀ cancelAt s,
      let left := (v.detection c).run network cancelAt s
      ∃ events, left.2.log = s.log ++ events ∧
        Looked network (left.2.cancelled = true) (v.detection c) events (done left.1)) ∧
    ∀ mayBeCancelled events d,
      Looked network mayBeCancelled (v.detection c) events (done d) →
      d.connectorId = c.id ∧ ∃ course : DetectionCourse,
        course.Tells network v mayBeCancelled c.detection.criteria events d.results ∧
        (d.isSuccess = true ↔ course.met.map (·.criterion) = c.detection.criteria) ∧
        (d.hasErrors = true ↔ ∃ step ∈ course.unmet, step.hasError = true) ∧
        ∀ step ∈ course.evaluated, (step.hasError = true ↔ step.result.outcome = .error) := by
  refine ⟨fun cancelAt s => exists_looked_run network cancelAt _ s, ?_⟩
  intro mayBeCancelled events d h
  obtain ⟨results, first, second, hresults, hend, rfl⟩ := looked_bind_done h
  obtain ⟨rfl, hd⟩ := looked_done hend
  cases hd
  obtain ⟨course, htells⟩ := exists_detectionCourse hresults
  rw [List.append_nil]
  have herror : ∀ step ∈ course.evaluated,
      (step.hasError = true ↔ step.result.outcome = .error) :=
    fun step hstep => (htells.evaluated step hstep).hasError_iff
  refine ⟨rfl, course, htells, htells.isSuccess_iff, ?_, herror⟩
  rw [htells.hasErrors_iff]
  refine exists_congr fun step => and_congr_right fun hstep => (herror step ?_).symm
  exact List.mem_append_right _ (Option.mem_toList.2 hstep)

namespace SecondRefused

/-- A criterion at a position. -/
def criterion (position : Nat) : Criterion := ⟨position, false, .snmpGet ⟨"1.1", none⟩⟩

/-- A connector with three criteria. -/
def connector : Connector :=
  ⟨1, "C", none, none, [], ⟨[], false, [], [criterion 0, criterion 1, criterion 2]⟩, .empty, .empty,
    [], .empty⟩

/-- An extension that every host can be asked by. -/
def snmp : Extension := ⟨"snmp", [.snmpGet], [.snmpGet], fun _ => true⟩

/-- A visit with this extension. -/
def visit : Visit := ⟨⟨[snmp], none⟩, .named "srv" .linux, .standard, 0⟩

/-- The answer to a probe, given how many were answered. -/
def answer (count : Nat) : (p : Probe) → Except EngineError p.Answer
  | .criterion _ => if count = 0 then .ok (.success "1") else .error ⟨.probeFailure, "refused"⟩
  | .source _ => .ok .empty
  | .health => .ok true

/-- The extension answers the first probe and refuses the others. -/
def network : Network Nat := fun r count => (⟨0, answer count r.probe⟩, count + 1)

/-- The site of the visit. -/
def site : Site Nat := .fresh (.named "srv" .linux) 0

/-- The third criterion is not evaluated, and the detection has errors. -/
theorem third_not_evaluated :
    let left := (visit.detection connector).run network none site
    left.1.hasErrors = true ∧ ∃ course : DetectionCourse,
      course.Tells network visit (left.2.cancelled = true) connector.detection.criteria left.2.log
        left.1.results ∧
      course.later = [criterion 2] ∧ ∃ step ∈ course.unmet, step.hasError = true := by
  intro left
  obtain ⟨events, hlog, hlooked⟩ := (visit.detects_in_order connector network).1 none site
  obtain ⟨-, course, htells, -, herrors, -⟩ :=
    (visit.detects_in_order connector network).2 _ _ _ hlooked
  have hpoll : ((visit.detection connector).poll network site).1.result?.map
      (fun d => (d.hasErrors, d.results.length)) = some (true, 2) := by decide +kernel
  have hrun : (left.1.hasErrors, left.1.results.length) = (true, 2) := map_run_at_once rfl rfl hpoll
  obtain ⟨hasErrors, hlength⟩ := Prod.mk.inj hrun
  have hevaluated : (course.evaluated.map (·.criterion)).length = 2 := by
    rw [← hlength, htells.results, List.length_map, List.length_map]
  have hlater : course.later = [criterion 2] := by
    have hdrop := congrArg (List.drop 2) htells.criteria
    rw [List.drop_left' hevaluated] at hdrop
    exact hdrop.symm
  exact ⟨hasErrors, course, hlog ▸ htells, hlater, herrors.1 hasErrors⟩

end SecondRefused

end HardwareWatch
