import HardwareWatch.Activity.Poll
import HardwareWatch.Visit.Basic
import Mathlib.Logic.Relation

/-!
# Stages of a probe

A probe that is called waits for its turn if need be, asks the extension, and comes to its end. The
call may be looked at in any instant, and each time it goes on as far as it can.

* `ProbeCall` is a call of a probe, `Visit.call` its activity.
* `ProbeStage` says how far a call is, `ProbeMove` how it goes on at its site.
* `ProbeStage.Leaves` says what is left of a call at a stage.
* `exists_moves_poll` and `exists_moves_abandon` say that going on and giving up are such moves.
-/

namespace HardwareWatch

open Relation (ReflTransGen)

/-- A call of a probe. -/
structure ProbeCall where
  /-- What the probe is called. -/
  what : String
  /-- Whether it waits for its turn. -/
  inTurn : Bool
  request : Request

/-- What the call comes to. -/
abbrev ProbeCall.Result (c : ProbeCall) : Type := Except EngineError c.request.Answer

/-! ## The parts of a probe -/

namespace Visit

variable (v : Visit) (c : ProbeCall)

/-- The activity of a call. -/
def call : Activity c.Result := v.probe c.what c.inTurn c.request

/-- How long a probe waits for its turn. -/
def turnMs : Nat := msOfSecs v.engine.serializationTimeoutSecs

/-- The probe when it was asked. -/
def awaiting (limit : Nat) (pending : Pending c.request) : Activity c.Result :=
  .within limit (.call c.request (some pending) .done) fun answer =>
    .done (v.settle c.what c.request.timeoutSecs answer)

/-- The probe in the queue or with its turn. -/
def turning (stage : TurnStage) (limit : Nat) (body : Activity c.Result) : Activity c.Result :=
  .inTurn stage limit body fun answer => .done (answer.getD (.error (v.lateTurn c.what)))

/-- The probe as long as the run is not cancelled. -/
def shielded (body : Activity c.Result) : Activity c.Result :=
  .unlessCancelled body fun answer => .done (answer.getD (.error (v.cancelledProbe c.what)))

theorem call_eq : v.call c = v.shielded c (v.orderedProbe c.what c.inTurn c.request) := rfl

theorem orderedProbe_inTurn : v.orderedProbe c.what true c.request =
    .now fun t => v.turning c .fresh (t + v.turnMs) (v.timedProbe c.what c.request) := rfl

theorem timedProbe_eq : v.timedProbe c.what c.request = .now fun t =>
    .within (t + msOfSecs c.request.timeoutSecs) (.call c.request none .done) fun answer =>
      .done (v.settle c.what c.request.timeoutSecs answer) := rfl

end Visit

/-! ## Stages -/

/-- How far a call of a probe is. -/
inductive ProbeStage
  /-- It was not looked at. -/
  | fresh
  /-- It stands in the queue, up to a time. -/
  | waiting (ticket limit : Nat)
  /-- It waits for the answer, perhaps with a turn. -/
  | asking (turn : Option Nat)
  | ended
  deriving DecidableEq

namespace ProbeStage

/-- The ticket that the call has. -/
def ticket? : ProbeStage → Option Nat
  | waiting ticket _ => some ticket
  | asking turn => turn
  | _ => none

/-- Whether the call waits for the answer. -/
def isAsking : ProbeStage → Bool
  | asking _ => true
  | _ => false

/-- What is left of the probe of a call. -/
inductive Leaves (v : Visit) (c : ProbeCall) : ProbeStage → Activity c.Result → Prop
  | fresh : Leaves v c .fresh (v.orderedProbe c.what c.inTurn c.request)
  | waiting (ticket limit : Nat) : Leaves v c (.waiting ticket limit)
      (v.turning c (.waiting ticket) limit (v.timedProbe c.what c.request))
  | asking (limit : Nat) (pending : Pending c.request) :
    Leaves v c (.asking none) (v.awaiting c limit pending)
  | askingInTurn (ticket turnLimit limit : Nat) (pending : Pending c.request) :
    Leaves v c (.asking (some ticket))
      (v.turning c (.entered ticket) turnLimit (v.awaiting c limit pending))
  | ended (result : c.Result) : Leaves v c .ended (.done result)

/-- What is left of a call. -/
inductive Stands (v : Visit) (c : ProbeCall) : ProbeStage → Activity c.Result → Prop
  | underWay {stage : ProbeStage} {body : Activity c.Result} (h : stage.Leaves v c body)
      (hstage : stage ≠ .ended) : Stands v c stage (v.shielded c body)
  | ended (result : c.Result) : Stands v c .ended (.done result)

end ProbeStage

/-- The site with a turn given back, if there is one. -/
def Site.leaveTurn {σ : Type} (s : Site σ) : Option Nat → Site σ
  | none => s
  | some ticket => s.leaveQueue ticket

/-- How a call goes on at its site, given when it was looked at first. -/
inductive ProbeMove {σ : Type} (v : Visit) (c : ProbeCall) (arrival : Option Nat) :
    ProbeStage × Site σ → ProbeStage × Site σ → Prop
  | forgo (s : Site σ) : ProbeMove v c arrival (.fresh, s) (.ended, s)
  | arrive {s : Site σ} (hturn : c.inTurn = true) (harrival : arrival = some s.clock) :
    ProbeMove v c arrival (.fresh, s)
      (.waiting s.turns.nextTicket (s.clock + v.turnMs), s.enterQueue)
  | ask (s : Site σ) (network : σ) (hturn : c.inTurn = false) :
    ProbeMove v c arrival (.fresh, s)
      (.asking none, { s with network }.record .begun c.request)
  | enter {s : Site σ} {ticket : Nat} (network : σ) (limit : Nat)
      (hfirst : s.turns.isFirst ticket = true) :
    ProbeMove v c arrival (.waiting ticket limit, s)
      (.asking (some ticket), { s with network }.record .begun c.request)
  | leave (s : Site σ) (ticket limit : Nat) :
    ProbeMove v c arrival (.waiting ticket limit, s) (.ended, s.leaveQueue ticket)
  | settle (s : Site σ) (turn : Option Nat) (stage : CallStage) (hstage : stage ≠ .begun) :
    ProbeMove v c arrival (.asking turn, s) (.ended, (s.record stage c.request).leaveTurn turn)

/-! ## One instant -/

section

variable {σ : Type} {network : Network σ} {v : Visit} {c : ProbeCall} {arrival : Option Nat}
  {s : Site σ}

/-- What comes of a probe that was asked: it is at its end, or it still waits for the answer. -/
inductive Visit.Asks (v : Visit) (c : ProbeCall) (s : Site σ) : Activity c.Result × Site σ → Prop
  | settled (result : c.Result) {stage : CallStage} (hstage : stage ≠ .begun) :
    Asks v c s (.done result, s.record stage c.request)
  | awaits (limit : Nat) (pending : Pending c.request) : Asks v c s (v.awaiting c limit pending, s)

/-- A probe that was asked, in an instant. -/
theorem poll_awaiting_eq (network : Network σ) (v : Visit) (c : ProbeCall) (limit : Nat)
    (pending : Pending c.request) (s : Site σ) :
    (v.awaiting c limit pending).poll network s =
      if pending.due ≤ s.clock then
        (.done (v.settle c.what c.request.timeoutSecs (some pending.answer)),
          s.record .finished c.request)
      else if limit ≤ s.clock then
        (.done (v.settle c.what c.request.timeoutSecs none), s.record .abandoned c.request)
      else (v.awaiting c limit pending, s) := by
  rw [Visit.awaiting, Activity.poll]
  by_cases hdue : pending.due ≤ s.clock
  · simp only [Activity.poll, hdue, if_true, Activity.result?]
  · by_cases hlate : limit ≤ s.clock
    · simp only [Activity.poll, hdue, hlate, if_true, if_false, Activity.result?, Activity.abandon]
    · simp only [Activity.poll, hdue, hlate, if_false, Activity.result?]

/-- Asking an extension is waiting for the answer, which may be there at once. -/
theorem poll_timedProbe_eq (network : Network σ) (v : Visit) (c : ProbeCall) (s : Site σ) :
    (v.timedProbe c.what c.request).poll network s =
      (v.awaiting c (s.clock + Visit.msOfSecs c.request.timeoutSecs)
        ⟨s.clock + (Activity.begin network c.request s).1.delayMs,
          (Activity.begin network c.request s).1.answer⟩).poll network
        (Activity.begin network c.request s).2 := by
  generalize hbegin : Activity.begin network c.request s = begun
  obtain ⟨reply, s'⟩ := begun
  have hclock : s'.clock = s.clock := by
    rw [← congrArg (·.2.clock) hbegin]
    rfl
  rw [poll_awaiting_eq, Visit.timedProbe_eq, hclock]
  by_cases hnow : reply.delayMs = 0
  · simp only [Activity.poll, hbegin, hnow, Nat.add_zero, Nat.le_refl, if_true, Activity.result?]
  · have hlater : ¬s.clock + reply.delayMs ≤ s.clock := by omega
    by_cases hlate : s.clock + Visit.msOfSecs c.request.timeoutSecs ≤ s.clock
    · simp only [Activity.poll, hbegin, hnow, hlater, hlate, hclock, if_true, if_false,
        Activity.result?, Activity.abandon]
    · simp only [Activity.poll, hbegin, hnow, hlater, hlate, hclock, if_false, Activity.result?,
        Visit.awaiting]

theorem poll_awaiting (network : Network σ) (v : Visit) (c : ProbeCall) (limit : Nat)
    (pending : Pending c.request) (s : Site σ) :
    v.Asks c s ((v.awaiting c limit pending).poll network s) := by
  rw [poll_awaiting_eq]
  split
  · exact .settled _ (by decide)
  · split
    · exact .settled _ (by decide)
    · exact .awaits limit pending

/-- Asking an extension is waiting for the answer, unless it is there at once. -/
theorem poll_timedProbe (network : Network σ) (v : Visit) (c : ProbeCall) (s : Site σ) :
    v.Asks c (Activity.begin network c.request s).2
      ((v.timedProbe c.what c.request).poll network s) := by
  rw [poll_timedProbe_eq]
  exact poll_awaiting network v c _ _ _

/-- What has its turn keeps it up to its end. -/
def Visit.keepTurn (v : Visit) (c : ProbeCall) (ticket limit : Nat)
    (left : Activity c.Result × Site σ) : Activity c.Result × Site σ :=
  match left.1.result? with
  | some result => (.done result, left.2.leaveQueue ticket)
  | none => (v.turning c (.entered ticket) limit left.1, left.2)

theorem poll_turning (network : Network σ) (v : Visit) (c : ProbeCall) (stage : TurnStage)
    (limit : Nat) (body : Activity c.Result) (s : Site σ) :
    (v.turning c stage limit body).poll network s =
      if stage.hasEntered || (stage.arrive s).turns.isFirst (stage.ticket s.turns) then
        v.keepTurn c (stage.ticket s.turns) limit (body.poll network (stage.arrive s))
      else if limit ≤ (stage.arrive s).clock then
        (.done (.error (v.lateTurn c.what)), (stage.arrive s).leaveQueue (stage.ticket s.turns))
      else (v.turning c (.waiting (stage.ticket s.turns)) limit body, stage.arrive s) := by
  rw [Visit.turning, Activity.poll, Visit.keepTurn]
  dsimp only
  cases (body.poll network (stage.arrive s)).1.result? with
  | none => simp only [Activity.poll, Visit.turning, Option.getD_none]
  | some result => simp only [Activity.poll, Option.getD_none, Option.getD_some, Visit.turning]

/-- Who comes stands in the queue first. -/
theorem poll_turning_fresh (network : Network σ) (v : Visit) (c : ProbeCall) (limit : Nat)
    (body : Activity c.Result) (s : Site σ) :
    (v.turning c .fresh limit body).poll network s =
      (v.turning c (.waiting s.turns.nextTicket) limit body).poll network s.enterQueue := by
  rw [poll_turning, poll_turning]
  rfl

theorem poll_shielded (network : Network σ) (v : Visit) (c : ProbeCall) (body : Activity c.Result)
    (s : Site σ) : (v.shielded c body).poll network s =
      if s.cancelled then (.done (.error (v.cancelledProbe c.what)), body.abandon s)
      else match (body.poll network s).1.result? with
        | some result => (.done result, (body.poll network s).2)
        | none => (v.shielded c (body.poll network s).1, (body.poll network s).2) := by
  rw [Visit.shielded, Activity.poll]
  dsimp only
  cases (body.poll network s).1.result? with
  | none => simp only [Activity.poll, Option.getD_none, Visit.shielded]
  | some result => simp only [Activity.poll, Option.getD_none, Option.getD_some]

/-! ## Going on and giving up -/

namespace ProbeStage

/-- From a stage at a site a probe goes on to what is left of it. -/
def GoesTo (v : Visit) (c : ProbeCall) (arrival : Option Nat) (stage : ProbeStage) (s : Site σ)
    (left : Activity c.Result × Site σ) : Prop :=
  ∃ stage', stage'.Leaves v c left.1 ∧ stage' ≠ .fresh ∧
    ReflTransGen (ProbeMove v c arrival) (stage, s) (stage', left.2)

theorem GoesTo.head {stage stage' : ProbeStage} {s' : Site σ} {left : Activity c.Result × Site σ}
    (hmove : ProbeMove v c arrival (stage, s) (stage', s'))
    (h : stage'.GoesTo v c arrival s' left) : stage.GoesTo v c arrival s left := by
  obtain ⟨last, hleaves, hlast, hpath⟩ := h
  exact ⟨last, hleaves, hlast, .head hmove hpath⟩

theorem goesTo_asks {left : Activity c.Result × Site σ} (h : v.Asks c s left) :
    (asking none).GoesTo v c arrival s left := by
  cases h with
  | settled result hstage => exact ⟨_, .ended result, nofun, .single (.settle s none _ hstage)⟩
  | awaits limit pending => exact ⟨_, .asking limit pending, nofun, .refl⟩

theorem goesTo_asks_inTurn {left : Activity c.Result × Site σ} (h : v.Asks c s left)
    (ticket turnLimit : Nat) :
    (asking (some ticket)).GoesTo v c arrival s (v.keepTurn c ticket turnLimit left) := by
  cases h with
  | settled result hstage =>
    exact ⟨_, .ended result, nofun, .single (.settle s (some ticket) _ hstage)⟩
  | awaits limit pending => exact ⟨_, .askingInTurn ticket turnLimit limit pending, nofun, .refl⟩

theorem goesTo_waiting (network : Network σ) (s : Site σ) (ticket limit : Nat) :
    (waiting ticket limit).GoesTo v c arrival s
      ((v.turning c (.waiting ticket) limit (v.timedProbe c.what c.request)).poll network s) := by
  rw [poll_turning]
  split
  · rename_i hfirst
    have hasks := poll_timedProbe network v c s
    exact (goesTo_asks_inTurn hasks ticket limit).head (.enter _ limit hfirst)
  · split
    · exact ⟨_, .ended _, nofun, .single (.leave s ticket limit)⟩
    · exact ⟨_, .waiting ticket limit, nofun, .refl⟩

/-- **What is left of a probe goes on** by moves. -/
theorem Leaves.poll {stage : ProbeStage} {body : Activity c.Result} (h : stage.Leaves v c body)
    (network : Network σ) (s : Site σ) (harrival : stage = .fresh → arrival = some s.clock) :
    stage.GoesTo v c arrival s (body.poll network s) := by
  cases h with
  | fresh =>
    cases hturn : c.inTurn with
    | false => exact (goesTo_asks (poll_timedProbe network v c s)).head (.ask s _ hturn)
    | true =>
      rw [Visit.orderedProbe_inTurn, Activity.poll, poll_turning_fresh]
      exact (goesTo_waiting network s.enterQueue _ _).head (.arrive hturn (harrival rfl))
  | waiting ticket limit => exact goesTo_waiting network s ticket limit
  | asking limit pending => exact goesTo_asks (poll_awaiting network v c limit pending s)
  | askingInTurn ticket turnLimit limit pending =>
    rw [poll_turning]
    exact goesTo_asks_inTurn (poll_awaiting network v c limit pending s) ticket turnLimit
  | ended result =>
    rw [Activity.poll]
    exact ⟨_, .ended result, nofun, .refl⟩

/-- **What is left of a probe is given up** by moves. -/
theorem Leaves.abandon {stage : ProbeStage} {body : Activity c.Result} (h : stage.Leaves v c body)
    (arrival : Option Nat) (s : Site σ) :
    ReflTransGen (ProbeMove v c arrival) (stage, s) (.ended, body.abandon s) := by
  cases h with
  | fresh =>
    have hnothing : (v.orderedProbe c.what c.inTurn c.request).abandon s = s := by
      cases c.inTurn <;> rfl
    rw [hnothing]
    exact .single (.forgo s)
  | waiting ticket limit => exact .single (.leave s ticket limit)
  | asking limit pending => exact .single (.settle s none .abandoned (by decide))
  | askingInTurn ticket turnLimit limit pending =>
    exact .single (.settle s (some ticket) .abandoned (by decide))
  | ended result => exact .refl

theorem Leaves.result?_eq_none_iff {stage : ProbeStage} {body : Activity c.Result}
    (h : stage.Leaves v c body) : body.result? = none ↔ stage ≠ .ended := by
  cases h with
  | fresh => cases c.inTurn <;> exact iff_of_true rfl nofun
  | ended result => exact iff_of_false nofun fun h => h rfl
  | _ => exact iff_of_true rfl nofun

end ProbeStage

variable {stage : ProbeStage} {p : Activity c.Result}

/-- **A call goes on** by moves. -/
theorem exists_moves_poll (h : stage.Stands v c p) (network : Network σ) (s : Site σ)
    (harrival : stage = .fresh → arrival = some s.clock) :
    ∃ stage', stage'.Stands v c (p.poll network s).1 ∧ stage' ≠ .fresh ∧
      ReflTransGen (ProbeMove v c arrival) (stage, s) (stage', (p.poll network s).2) := by
  cases h with
  | ended result =>
    rw [Activity.poll]
    exact ⟨_, .ended result, nofun, .refl⟩
  | @underWay _ body h hstage =>
    rw [poll_shielded]
    split
    · exact ⟨_, .ended _, nofun, h.abandon arrival s⟩
    · obtain ⟨stage', hleaves, hfresh, hpath⟩ := h.poll network s harrival
      split
      · rename_i result hresult
        have hended : stage' = .ended := Decidable.byContradiction fun hne =>
          Option.some_ne_none result (hresult.symm.trans (hleaves.result?_eq_none_iff.2 hne))
        exact ⟨_, .ended result, nofun, hended ▸ hpath⟩
      · rename_i hresult
        have hne : stage' ≠ .ended := hleaves.result?_eq_none_iff.1 hresult
        exact ⟨stage', .underWay hleaves hne, hfresh, hpath⟩

/-- **A call is given up** by moves. -/
theorem exists_moves_abandon (h : stage.Stands v c p) (arrival : Option Nat) (s : Site σ) :
    ReflTransGen (ProbeMove v c arrival) (stage, s) (.ended, p.abandon s) := by
  cases h with
  | ended result => exact .refl
  | underWay h hstage => exact h.abandon arrival s

end

end HardwareWatch
