import HardwareWatch.Proofs.Activity.Looks
import HardwareWatch.Proofs.Visit.ProbeStages

/-!
# Courses of probes

A probe that is called ends in one of few ways, whatever the extension does, whoever has a turn on
the host and whenever the run is cancelled. Each way has its result and its log: the probe asked the
extension once and does not wait for the answer any more, or it did not ask at all.

* `ProbeEnding` is how a probe ended, `ProbeCourse` says what happened by then and what came of it.
* `ProbeLeft` says what is left of a probe on its way, and `ProbeLeft.poll` that it stays on its way
  or ends.
* `exists_probeCourse` says that every probe has a course.
-/

namespace HardwareWatch

open Activity

/-- How a probe ended. -/
inductive ProbeEnding
  /-- The extension gave an answer. -/
  | answered
  /-- The extension failed. -/
  | refused
  /-- There was no answer in time. -/
  | late
  /-- There was no turn in time. -/
  | turnMissed
  /-- The run was cancelled. -/
  | givenUp
  deriving DecidableEq

namespace ProbeCall

variable (c : ProbeCall)

/-- The extension is asked. -/
def begun (time : Nat) : CallEvent := ⟨time, .begun, c.request⟩

/-- The answer of the extension is there. -/
def finished (time : Nat) : CallEvent := ⟨time, .finished, c.request⟩

/-- The answer is not waited for any more. -/
def abandoned (time : Nat) : CallEvent := ⟨time, .abandoned, c.request⟩

end ProbeCall

section

variable {σ : Type} (network : Network σ) (v : Visit) (mayBeCancelled : Prop) (c : ProbeCall)

/-- The course of a probe: how it ended, what happened by then, and its result. -/
inductive ProbeCourse : ProbeEnding → List CallEvent → c.Result → Prop
  | answered {state : σ} {answer : c.request.Answer} {asked time : Nat}
      (hanswer : (network c.request state).1.answer = .ok answer)
      (htime : asked + (network c.request state).1.delayMs ≤ time) :
    ProbeCourse .answered [c.begun asked, c.finished time] (.ok answer)
  | refused {state : σ} {e : EngineError} {asked time : Nat}
      (hanswer : (network c.request state).1.answer = .error e)
      (htime : asked + (network c.request state).1.delayMs ≤ time) :
    ProbeCourse .refused [c.begun asked, c.finished time] (.error (Visit.probeError c.what e))
  | late {state : σ} {asked time : Nat}
      (hlimit : asked + Visit.msOfSecs c.request.timeoutSecs ≤ time)
      (htime : time < asked + (network c.request state).1.delayMs) :
    ProbeCourse .late [c.begun asked, c.abandoned time]
      (.error (v.lateProbe c.what c.request.timeoutSecs))
  | turnMissed (hturn : c.inTurn = true) :
    ProbeCourse .turnMissed [] (.error (v.lateTurn c.what))
  | neverAsked (h : mayBeCancelled) :
    ProbeCourse .givenUp [] (.error (v.cancelledProbe c.what))
  | givenUp (h : mayBeCancelled) (asked time : Nat) :
    ProbeCourse .givenUp [c.begun asked, c.abandoned time] (.error (v.cancelledProbe c.what))

/-- The probe that was asked at a time, given what comes back. -/
def Visit.askedAt (reply : Reply c.request) (asked : Nat) : Activity c.Result :=
  v.awaiting c (asked + Visit.msOfSecs c.request.timeoutSecs)
    ⟨asked + reply.delayMs, reply.answer⟩

/-- What is left of a probe that was asked. -/
inductive AskedLeft : List CallEvent → Activity c.Result → Prop
  | awaits (state : σ) (asked : Nat) :
    AskedLeft [c.begun asked] (v.askedAt c (network c.request state).1 asked)
  | ended {ending : ProbeEnding} {events : List CallEvent} {result : c.Result}
      (h : ProbeCourse network v mayBeCancelled c ending events result) :
    AskedLeft events (.done result)

/-- What is left of a probe on its way, as long as the run is not cancelled. -/
inductive ProbeLeft : List CallEvent → Activity c.Result → Prop
  | fresh : ProbeLeft [] (v.orderedProbe c.what c.inTurn c.request)
  | waits (hturn : c.inTurn = true) (ticket limit : Nat) :
    ProbeLeft [] (v.turning c (.waiting ticket) limit (v.timedProbe c.what c.request))
  | asked {events : List CallEvent} {body : Activity c.Result}
      (h : AskedLeft network v mayBeCancelled c events body) : ProbeLeft events body
  | askedInTurn {events : List CallEvent} {body : Activity c.Result} (ticket limit : Nat)
      (h : AskedLeft network v mayBeCancelled c events body) (hunderWay : body.result? = none) :
    ProbeLeft events (v.turning c (.entered ticket) limit body)

end

variable {σ : Type} {network : Network σ} {v : Visit} {mayBeCancelled : Prop} {c : ProbeCall}
  {events : List CallEvent} {ending : ProbeEnding} {result : c.Result} {body : Activity c.Result}
  {s : Site σ}

/-- A probe has an answer if the extension gave one, and in no other case. -/
theorem ProbeCourse.answered_iff (h : ProbeCourse network v mayBeCancelled c ending events result) :
    ending = .answered ↔ ∃ answer, result = .ok answer := by
  cases h with
  | answered => exact iff_of_true rfl ⟨_, rfl⟩
  | _ => exact iff_of_false nofun nofun

/-! ## Probes that were asked -/

namespace AskedLeft

theorem poll_askedAt (network : Network σ) (v : Visit) (mayBeCancelled : Prop) (c : ProbeCall)
    (state : σ) (asked : Nat) (s : Site σ) :
    ∃ more,
      s.log ++ more =
        ((v.askedAt c (network c.request state).1 asked).poll network s).2.log ∧
      AskedLeft network v mayBeCancelled c (c.begun asked :: more)
        ((v.askedAt c (network c.request state).1 asked).poll network s).1 := by
  rw [Visit.askedAt, poll_awaiting_eq]
  dsimp only
  split
  · rename_i hdue
    refine ⟨[c.finished s.clock], (Site.log_record ..).symm, ?_⟩
    cases hanswer : (network c.request state).1.answer with
    | ok answer => exact .ended (.answered hanswer hdue)
    | error e => exact .ended (.refused hanswer hdue)
  · rename_i hdue
    split
    · rename_i hlate
      exact ⟨[c.abandoned s.clock], (Site.log_record ..).symm,
        .ended (.late hlate (Nat.lt_of_not_le hdue))⟩
    · exact ⟨[], List.append_nil _, .awaits state asked⟩

/-- **What is left of a probe that was asked** goes on. -/
theorem poll (h : AskedLeft network v mayBeCancelled c events body) (s : Site σ) :
    ∃ more, s.log ++ more = (body.poll network s).2.log ∧
      AskedLeft network v mayBeCancelled c (events ++ more) (body.poll network s).1 := by
  cases h with
  | awaits state asked => exact poll_askedAt network v mayBeCancelled c state asked s
  | ended h =>
    rw [Activity.poll]
    exact ⟨[], List.append_nil _, (List.append_nil events).symm ▸ .ended h⟩

end AskedLeft

/-! ## Probes on their way -/

namespace ProbeLeft

theorem result?_orderedProbe (v : Visit) (c : ProbeCall) :
    (v.orderedProbe c.what c.inTurn c.request).result? = none := by
  cases c.inTurn <;> rfl

/-- What came to its end had a course. -/
theorem exists_course (h : ProbeLeft network v mayBeCancelled c events body)
    (hbody : body.result? = some result) :
    ∃ ending, ProbeCourse network v mayBeCancelled c ending events result := by
  cases h with
  | fresh =>
    rw [result?_orderedProbe] at hbody
    cases hbody
  | waits => cases hbody
  | askedInTurn => cases hbody
  | asked h =>
    cases h with
    | awaits => cases hbody
    | ended h =>
      cases hbody
      exact ⟨_, h⟩

/-- What has its turn keeps it, or is over. -/
theorem keepTurn {left : Activity c.Result × Site σ} (ticket limit : Nat)
    (h : AskedLeft network v mayBeCancelled c events left.1) :
    (v.keepTurn c ticket limit left).2.log = left.2.log ∧
      ProbeLeft network v mayBeCancelled c events (v.keepTurn c ticket limit left).1 := by
  rw [Visit.keepTurn]
  split
  · rename_i result hresult
    rw [result?_eq_some_iff.1 hresult] at h
    exact ⟨rfl, .asked h⟩
  · rename_i hresult
    exact ⟨rfl, .askedInTurn ticket limit h hresult⟩

/-- Asking an extension. -/
theorem poll_timedProbe (network : Network σ) (v : Visit) (mayBeCancelled : Prop) (c : ProbeCall)
    (s : Site σ) :
    ∃ more, s.log ++ more = ((v.timedProbe c.what c.request).poll network s).2.log ∧
      AskedLeft network v mayBeCancelled c more
        ((v.timedProbe c.what c.request).poll network s).1 := by
  obtain ⟨more, hlog, hleft⟩ := AskedLeft.poll_askedAt network v mayBeCancelled c s.network
    s.clock (begin network c.request s).2
  rw [poll_timedProbe_eq]
  refine ⟨c.begun s.clock :: more, ?_, hleft⟩
  rw [List.append_cons]
  exact (congrArg (· ++ more) (log_begin network c.request s).symm).trans hlog

/-- A probe that waits for its turn. -/
theorem poll_waits (hturn : c.inTurn = true) (network : Network σ) (v : Visit)
    (mayBeCancelled : Prop) (ticket limit : Nat) (s : Site σ) :
    ∃ more,
      s.log ++ more = ((v.turning c (.waiting ticket) limit
        (v.timedProbe c.what c.request)).poll network s).2.log ∧
      ProbeLeft network v mayBeCancelled c more ((v.turning c (.waiting ticket) limit
        (v.timedProbe c.what c.request)).poll network s).1 := by
  rw [poll_turning]
  split
  · obtain ⟨more, hlog, hleft⟩ := poll_timedProbe network v mayBeCancelled c s
    obtain ⟨hkept, hleft⟩ := keepTurn ticket limit hleft
    exact ⟨more, hlog.trans hkept.symm, hleft⟩
  · split
    · exact ⟨[], List.append_nil _, .asked (.ended (.turnMissed hturn))⟩
    · exact ⟨[], List.append_nil _, .waits hturn ticket limit⟩

/-- **What is left of a probe** stays on its way when it goes on. -/
theorem poll (h : ProbeLeft network v mayBeCancelled c events body) (s : Site σ) :
    ∃ more, s.log ++ more = (body.poll network s).2.log ∧
      ProbeLeft network v mayBeCancelled c (events ++ more) (body.poll network s).1 := by
  cases h with
  | fresh =>
    cases hturn : c.inTurn with
    | false =>
      obtain ⟨more, hlog, hleft⟩ := poll_timedProbe network v mayBeCancelled c s
      exact ⟨more, hlog, .asked hleft⟩
    | true =>
      rw [Visit.orderedProbe_inTurn, Activity.poll, poll_turning_fresh]
      exact poll_waits hturn network v mayBeCancelled _ _ s.enterQueue
  | waits hturn ticket limit => exact poll_waits hturn network v mayBeCancelled ticket limit s
  | asked h =>
    obtain ⟨more, hlog, hleft⟩ := h.poll s
    exact ⟨more, hlog, .asked hleft⟩
  | askedInTurn ticket limit h _ =>
    obtain ⟨more, hlog, hleft⟩ := h.poll s
    obtain ⟨hkept, hleft⟩ := keepTurn ticket limit hleft
    rw [poll_turning]
    exact ⟨more, hlog.trans hkept.symm, hleft⟩

/-- **A probe that is given up** when the run is cancelled. -/
theorem abandon (h : ProbeLeft network v mayBeCancelled c events body)
    (hbody : body.result? = none) (hcancelled : mayBeCancelled) (s : Site σ) :
    ∃ more, s.log ++ more = (body.abandon s).log ∧
      ProbeCourse network v mayBeCancelled c .givenUp (events ++ more)
        (.error (v.cancelledProbe c.what)) := by
  have hasked {events : List CallEvent} {body : Activity c.Result}
      (h : AskedLeft network v mayBeCancelled c events body) (hbody : body.result? = none) :
      ∃ more, s.log ++ more = (body.abandon s).log ∧
        ProbeCourse network v mayBeCancelled c .givenUp (events ++ more)
          (.error (v.cancelledProbe c.what)) := by
    cases h with
    | awaits state asked =>
      exact ⟨[c.abandoned s.clock], (Site.log_record ..).symm,
        .givenUp hcancelled asked s.clock⟩
    | ended => cases hbody
  cases h with
  | fresh =>
    have hnothing : (v.orderedProbe c.what c.inTurn c.request).abandon s = s := by
      cases c.inTurn <;> rfl
    rw [hnothing]
    exact ⟨[], List.append_nil _, .neverAsked hcancelled⟩
  | waits => exact ⟨[], List.append_nil _, .neverAsked hcancelled⟩
  | asked h => exact hasked h hbody
  | askedInTurn ticket limit h hunderWay =>
    obtain ⟨more, hlog, hcourse⟩ := hasked h hunderWay
    exact ⟨more, hlog, hcourse⟩

end ProbeLeft

/-! ## Calls -/

/-- What is left of a call after some looks. -/
theorem looked_call {q : Activity c.Result}
    (h : Looked network mayBeCancelled (v.call c) events q) :
    (∃ body, q = v.shielded c body ∧ body.result? = none ∧
      ProbeLeft network v mayBeCancelled c events body) ∨
    ∃ result ending, q = .done result ∧
      ProbeCourse network v mayBeCancelled c ending events result := by
  induction h with
  | refl => exact .inl ⟨_, v.call_eq c, ProbeLeft.result?_orderedProbe v c, .fresh⟩
  | @look q s events more _ hs hmore ih =>
    obtain ⟨body, rfl, hbody, hleft⟩ | ⟨result, ending, rfl, hcourse⟩ := ih
    · rw [poll_shielded] at hmore ⊢
      split at hmore
      · rename_i hcancelled
        obtain ⟨more', hmore', hcourse⟩ := hleft.abandon hbody (hs hcancelled) s
        obtain rfl := List.append_cancel_left (hmore.trans hmore'.symm)
        rw [if_pos hcancelled]
        exact .inr ⟨_, _, rfl, hcourse⟩
      · rename_i hcancelled
        obtain ⟨more', hmore', hleft⟩ := hleft.poll s
        rw [if_neg hcancelled]
        cases hresult : (body.poll network s).1.result? with
        | none =>
          rw [hresult] at hmore
          obtain rfl := List.append_cancel_left (hmore.trans hmore'.symm)
          exact .inl ⟨_, rfl, hresult, hleft⟩
        | some result =>
          rw [hresult] at hmore
          obtain rfl := List.append_cancel_left (hmore.trans hmore'.symm)
          obtain ⟨ending, hcourse⟩ := hleft.exists_course hresult
          exact .inr ⟨result, ending, rfl, hcourse⟩
    · rw [poll] at hmore ⊢
      obtain rfl := List.append_right_eq_self.1 hmore
      exact .inr ⟨result, ending, rfl, (List.append_nil events).symm ▸ hcourse⟩

/-- **Every probe has a course.** -/
theorem exists_probeCourse (h : Looked network mayBeCancelled (v.call c) events (.done result)) :
    ∃ ending, ProbeCourse network v mayBeCancelled c ending events result := by
  obtain ⟨body, hdone, -, -⟩ | ⟨result, ending, hdone, hcourse⟩ := looked_call h
  · cases hdone
  · cases hdone
    exact ⟨ending, hcourse⟩

end HardwareWatch
