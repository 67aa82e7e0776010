import HardwareWatch.Proofs.Activity.InTime
import HardwareWatch.Proofs.Visit.ProbeStages

/-!
# What a probe comes to

A probe that runs alone on its host and is not cancelled comes to what the extension replies, or to an
error where the reply is not in time. Where it has to wait for a turn that somebody else keeps, nobody
is asked. Either way the probe leaves its site as it was, but for what it asked.

* `Visit.outcome` is what a probe comes to, given the reply, and `Visit.replied` what it comes to where
  it may have to do without a turn.
* `Site.Asked` says what was asked from one site to another one.
* `Activity.Yields` says what an activity comes to and what it asks; it has a rule for one activity
  after the other. `Visit.yields_call` is the rule for probes.
-/

namespace HardwareWatch

/-! ## What was asked -/

/-- All tickets in the queue were given out. -/
def TurnQueue.Issued (q : TurnQueue) : Prop := ∀ ticket ∈ q.tickets, ticket < q.nextTicket

theorem TurnQueue.leave_enter {q : TurnQueue} (h : q.Issued) :
    q.enter.leave q.nextTicket = ⟨q.nextTicket + 1, q.tickets⟩ := by
  have hnew : q.nextTicket ∉ q.tickets := fun hm => Nat.lt_irrefl _ (h _ hm)
  simp [enter, leave, List.erase_append_right _ hnew]

/-- Who comes has the turn at once exactly if nobody is in the queue. -/
theorem TurnQueue.isFirst_enter {q : TurnQueue} (h : q.Issued) :
    q.enter.isFirst q.nextTicket = q.isFree := by
  obtain ⟨next, tickets⟩ := q
  cases tickets with
  | nil => simp [enter, isFirst, isAmongFirst, isFree]
  | cons ticket rest =>
    have hlt : ticket < next := h ticket List.mem_cons_self
    have hne : next ≠ ticket := Nat.ne_of_gt hlt
    simp [enter, isFirst, isAmongFirst, isFree, hne]

namespace Site

variable {σ : Type} {s s' s'' : Site σ} {requests requests' : List Request}

/-- The requests that were made, from first to last. -/
def asked (s : Site σ) : List Request :=
  (s.events.reverse.filter fun e => e.stage = .begun).map fun e => e.request

theorem asked_record_begun (s : Site σ) (r : Request) :
    (s.record .begun r).asked = s.asked ++ [r] := by
  simp [asked, record]

theorem asked_record {stage : CallStage} (h : stage ≠ .begun) (s : Site σ) (r : Request) :
    (s.record stage r).asked = s.asked := by
  simp [asked, record, h]

/-- From one site to the other requests were made, and nothing else has changed but the time and the
state of the extensions. -/
structure Asked (s : Site σ) (requests : List Request) (s' : Site σ) : Prop where
  asked : s'.asked = s.asked ++ requests
  cancelled : s'.cancelled = s.cancelled
  isFree : s'.turns.isFree = s.turns.isFree
  issued : s.turns.Issued → s'.turns.Issued

theorem Asked.refl (s : Site σ) : s.Asked [] s := ⟨(List.append_nil _).symm, rfl, rfl, id⟩

theorem Asked.trans (h : s.Asked requests s') (h' : s'.Asked requests' s'') :
    s.Asked (requests ++ requests') s'' where
  asked := by rw [h'.asked, h.asked, List.append_assoc]
  cancelled := h'.cancelled.trans h.cancelled
  isFree := h'.isFree.trans h.isFree
  issued := h'.issued ∘ h.issued

end Site

namespace Activity

variable {σ α β : Type} {network : Network σ} {p : Activity α} {s s' : Site σ} {a : α} {b : β}
  {requests requests' : List Request}

/-- An activity that goes on at a site comes to a result, with some requests made. -/
structure Yields (network : Network σ) (p : Activity α) (s : Site σ) (a : α)
    (requests : List Request) : Prop where
  result : (p.finish network s).1 = a
  asked : s.Asked requests (p.finish network s).2

namespace Yields

theorem of_finish (h : p.finish network s = (a, s')) (hasked : s.Asked requests s') :
    Yields network p s a requests :=
  ⟨congrArg Prod.fst h, h ▸ hasked⟩

theorem pure (a : α) (s : Site σ) : Yields network (pure a) s a [] :=
  .of_finish (finish_pure a s) (.refl s)

theorem bind {f : α → Activity β} (h : Yields network p s a requests)
    (hf : Yields network (f a) (p.finish network s).2 b requests') :
    Yields network (p >>= f) s b (requests ++ requests') := by
  have hfinish : (p >>= f).finish network s =
      (f (p.finish network s).1).finish network (p.finish network s).2 := finish_bind p f s
  rw [h.result] at hfinish
  exact ⟨hfinish ▸ hf.result, hfinish ▸ h.asked.trans hf.asked⟩

theorem map (h : Yields network p s a requests) (f : α → β) :
    Yields network (do return f (← p)) s (f a) requests := by
  have hmap := h.bind (f := fun a => Pure.pure (f a)) (.pure (f a) _)
  rwa [List.append_nil] at hmap

end Yields

/-- A run that nobody cancels is cancelled in the end if it was at the beginning. -/
theorem cancelled_run_none : (p.run network none s).2.cancelled = s.cancelled := by
  generalize hnone : (none : Option Nat) = cancelAt
  fun_induction run network cancelAt p s with
  | case1 => rfl
  | case2 p s hp left ih => exact (ih rfl).trans (cancelled_poll p _)
  | case3 => cases hnone
  | case4 => cases hnone

end Activity

/-! ## Replies in time -/

namespace Visit

open Activity

variable {σ : Type} (network : Network σ) (v : Visit) (c : ProbeCall)

/-- What a probe comes to, given the reply. -/
def outcome (reply : Reply c.request) : c.Result :=
  v.settle c.what c.request.timeoutSecs
    (if reply.delayMs ≤ msOfSecs c.request.timeoutSecs then some reply.answer else none)

/-- A probe that was asked comes to the answer if this is there up to the limit. -/
theorem finish_awaiting {limit : Nat} (pending : Pending c.request) {s : Site σ}
    (hlimit : s.clock ≤ limit) :
    ∃ time stage, stage ≠ .begun ∧ (v.awaiting c limit pending).finish network s =
      (v.settle c.what c.request.timeoutSecs
        (if pending.due ≤ limit then some pending.answer else none),
        (s.atTime time).record stage c.request) := by
  -- At one instant there is an answer, or it is too late, or the probe waits.
  have settled {s : Site σ} (hdue : pending.due ≤ s.clock) :
      (v.awaiting c limit pending).finish network s =
        (v.settle c.what c.request.timeoutSecs (some pending.answer),
          s.record .finished c.request) := by
    rw [finish, poll_awaiting_eq, if_pos hdue, run_done]
  have late {s : Site σ} (hdue : ¬pending.due ≤ s.clock) (hlate : limit ≤ s.clock) :
      (v.awaiting c limit pending).finish network s =
        (v.settle c.what c.request.timeoutSecs none, s.record .abandoned c.request) := by
    rw [finish, poll_awaiting_eq, if_neg hdue, if_pos hlate, run_done]
  by_cases hdue : pending.due ≤ s.clock
  · refine ⟨s.clock, .finished, by decide, ?_⟩
    rw [settled hdue, if_pos (hdue.trans hlimit)]
    rfl
  by_cases hlate : limit ≤ s.clock
  · refine ⟨s.clock, .abandoned, by decide, ?_⟩
    rw [late hdue hlate, if_neg (by omega)]
    rfl
  have hwaits : (v.awaiting c limit pending).poll network s = (v.awaiting c limit pending, s) := by
    rw [poll_awaiting_eq, if_neg hdue, if_neg hlate]
  have hwake : (v.awaiting c limit pending).wake s = min limit pending.due := rfl
  have hlater : (v.awaiting c limit pending).finish network s =
      (v.awaiting c limit pending).finish network (s.atTime (min limit pending.due)) := by
    rw [finish, hwaits]
    dsimp only
    rw [run_eq_finish rfl, hwake, Nat.max_eq_right (by omega)]
  rw [hlater]
  by_cases hin : pending.due ≤ limit
  · refine ⟨min limit pending.due, .finished, by decide, ?_⟩
    rw [settled (Nat.le_of_eq (Nat.min_eq_right hin).symm), if_pos hin]
  · refine ⟨min limit pending.due, .abandoned, by decide, ?_⟩
    have htime : (s.atTime (min limit pending.due)).clock = limit :=
      Nat.min_eq_left (Nat.le_of_not_le hin)
    rw [late (by omega) (by omega), if_neg hin]

theorem finish_timedProbe (s : Site σ) :
    ∃ time stage, stage ≠ .begun ∧ (v.timedProbe c.what c.request).finish network s =
      (v.outcome c (begin network c.request s).1,
        ((begin network c.request s).2.atTime time).record stage c.request) := by
  have hclock : (begin network c.request s).2.clock = s.clock := rfl
  obtain ⟨time, stage, hstage, hfinish⟩ := finish_awaiting network v c
    ⟨s.clock + (begin network c.request s).1.delayMs, (begin network c.request s).1.answer⟩
    (hclock.le.trans (Nat.le_add_right s.clock (msOfSecs c.request.timeoutSecs)))
  refine ⟨time, stage, hstage, ?_⟩
  rw [finish, poll_timedProbe_eq]
  refine hfinish.trans ?_
  simp only [outcome, Nat.add_le_add_iff_left]

/-! ## In turn, and as long as the run is not cancelled -/

/-- What is left of a probe with its turn, up to its end. -/
theorem run_keepTurn {ticket limit : Nat} {left : Activity c.Result × Site σ}
    (h : (v.turning c (.entered ticket) limit left.1).run network none left.2 =
      ((left.1.run network none left.2).1, (left.1.run network none left.2).2.leaveQueue ticket)) :
    (v.keepTurn c ticket limit left).1.run network none (v.keepTurn c ticket limit left).2 =
      ((left.1.run network none left.2).1,
        (left.1.run network none left.2).2.leaveQueue ticket) := by
  obtain ⟨body, s⟩ := left
  rw [keepTurn]
  split
  · rename_i result hresult
    obtain rfl := result?_eq_some_iff.1 hresult
    rw [run_done, run_done]
  · exact h

/-- What has its turn comes to its end and gives the turn back. -/
theorem run_turning (ticket limit : Nat) (body : Activity c.Result) (s : Site σ) :
    (v.turning c (.entered ticket) limit body).run network none s =
      ((body.run network none s).1, (body.run network none s).2.leaveQueue ticket) := by
  generalize hnone : (none : Option Nat) = cancelAt
  fun_induction run network cancelAt body s with
  | case1 body s cancelAt a ha =>
    subst hnone
    obtain rfl := result?_eq_some_iff.1 ha
    rw [run_eq_finish_of_wake rfl rfl, finish, poll_turning]
    exact run_done ..
  | case2 body s hbody left ih =>
    rw [run_eq_finish rfl, finish, poll_turning]
    exact run_keepTurn network v c (ih rfl)
  | case3 => cases hnone
  | case4 => cases hnone

/-- A probe that has its turn at once. -/
theorem finish_turning_of_isFirst {limit : Nat} {body : Activity c.Result} {s : Site σ}
    (h : s.enterQueue.turns.isFirst s.turns.nextTicket = true) :
    (v.turning c .fresh limit body).finish network s =
      ((body.finish network s.enterQueue).1,
        (body.finish network s.enterQueue).2.leaveQueue s.turns.nextTicket) := by
  have hturn : (TurnStage.fresh.hasEntered ||
      (TurnStage.fresh.arrive s).turns.isFirst (TurnStage.fresh.ticket s.turns)) = true := h
  rw [finish, poll_turning, if_pos hturn]
  exact run_keepTurn network v c (run_turning network v c ..)

/-- A probe that somebody else keeps from its turn misses it. -/
theorem finish_turning_of_not_isFirst (limit : Nat) (body : Activity c.Result) {s : Site σ}
    (h : s.enterQueue.turns.isFirst s.turns.nextTicket = false) :
    ∃ time, (v.turning c .fresh limit body).finish network s =
      (.error (v.lateTurn c.what), (s.enterQueue.atTime time).leaveQueue s.turns.nextTicket) := by
  have hturn {s' : Site σ} (hs' : s'.turns = s.enterQueue.turns) :
      ¬((TurnStage.waiting s.turns.nextTicket).hasEntered ||
        ((TurnStage.waiting s.turns.nextTicket).arrive s').turns.isFirst
          ((TurnStage.waiting s.turns.nextTicket).ticket s'.turns)) = true := by
    change ¬s'.turns.isFirst s.turns.nextTicket = true
    rw [hs', h]
    exact Bool.false_ne_true
  have missed {s' : Site σ} (hs' : s'.turns = s.enterQueue.turns) (hlate : limit ≤ s'.clock) :
      (v.turning c (.waiting s.turns.nextTicket) limit body).finish network s' =
        (.error (v.lateTurn c.what), s'.leaveQueue s.turns.nextTicket) := by
    have hlimit : limit ≤ ((TurnStage.waiting s.turns.nextTicket).arrive s').clock := hlate
    rw [finish, poll_turning, if_neg (hturn hs'), if_pos hlimit, run_done]
    rfl
  by_cases hlate : limit ≤ s.clock
  · refine ⟨s.clock, ?_⟩
    rw [finish, poll_turning_fresh]
    exact missed rfl hlate
  · refine ⟨max s.clock limit, ?_⟩
    have hlimit : ¬limit ≤ ((TurnStage.waiting s.turns.nextTicket).arrive s.enterQueue).clock := hlate
    have hwaits : (v.turning c (.waiting s.turns.nextTicket) limit body).poll network s.enterQueue =
        (v.turning c (.waiting s.turns.nextTicket) limit body, s.enterQueue) := by
      rw [poll_turning, if_neg (hturn rfl), if_neg hlimit]
      rfl
    have hwake : (v.turning c (.waiting s.turns.nextTicket) limit body).wake s.enterQueue = limit := by
      simp [turning, wake, TurnStage.hasEntered, TurnStage.ticket, h]
    rw [finish, poll_turning_fresh, hwaits]
    dsimp only
    rw [run_eq_finish rfl, hwake]
    exact missed rfl (Nat.le_max_right _ _)

/-- What is left of a probe as long as the run is not cancelled, up to its end. -/
theorem run_poll_shielded {body : Activity c.Result} {s : Site σ} (hs : s.cancelled = false)
    (h : (v.shielded c (body.poll network s).1).run network none (body.poll network s).2 =
      (body.poll network s).1.run network none (body.poll network s).2) :
    (v.shielded c body).finish network s = body.finish network s := by
  rw [finish, finish, poll_shielded, hs, if_neg Bool.false_ne_true]
  split
  · rename_i result hresult
    rw [result?_eq_some_iff.1 hresult, run_done]
  · exact h

/-- A probe that is not cancelled runs as it does unguarded. -/
theorem run_shielded (body : Activity c.Result) {s : Site σ} (hs : s.cancelled = false) :
    (v.shielded c body).run network none s = body.run network none s := by
  have hwake (body : Activity c.Result) {s : Site σ} (hs : s.cancelled = false) :
      (v.shielded c body).wake s = body.wake s := by
    rw [shielded, wake, hs, if_neg Bool.false_ne_true]
  generalize hnone : (none : Option Nat) = cancelAt
  fun_induction run network cancelAt body s with
  | case1 body s cancelAt a ha =>
    subst hnone
    obtain rfl := result?_eq_some_iff.1 ha
    rw [run_eq_finish_of_wake rfl (hwake _ hs), finish, poll_shielded, hs,
      if_neg Bool.false_ne_true]
    exact run_done ..
  | case2 body s hbody left ih =>
    have hleft : (v.shielded c left.1).run network none left.2 = left.1.run network none left.2 :=
      ih ((cancelled_poll body _).trans hs) rfl
    rw [run_eq_finish rfl, hwake _ hs]
    exact run_poll_shielded network v c (s := s.atTime _) hs hleft
  | case3 => cases hnone
  | case4 => cases hnone

/-- A probe that is not cancelled comes to what it comes to unguarded. -/
theorem finish_call_eq {s : Site σ} (hs : s.cancelled = false) :
    (v.call c).finish network s = (v.orderedProbe c.what c.inTurn c.request).finish network s :=
  run_poll_shielded network v c hs (run_shielded network v c _ ((cancelled_poll _ s).trans hs))

/-- A probe can go on at once. -/
theorem wake_call (s : Site σ) : (v.call c).wake s = 0 := by
  have hbody : (v.orderedProbe c.what c.inTurn c.request).wake s = 0 := by
    cases c.inTurn <;> rfl
  rw [call_eq, shielded, wake, hbody, ite_self]

/-! ## Alone on the host -/

/-- What a call comes to, given the reply. Nobody is asked by a call that has to wait for its turn
where that is not free. -/
def replied (isFree : Bool) (reply : Reply c.request) : c.Result :=
  if c.inTurn && !isFree then .error (v.lateTurn c.what) else v.outcome c reply

/-- What is asked by a call. -/
def requestsOf (isFree : Bool) : List Request := if c.inTurn && !isFree then [] else [c.request]

/-- A site after one request was made and settled. -/
theorem asked_settled (network : Network σ) (r : Request) (s : Site σ) (time : Nat)
    {stage : CallStage} (hstage : stage ≠ .begun) :
    s.Asked [r] (((begin network r s).2.atTime time).record stage r) where
  asked := (Site.asked_record hstage _ r).trans (Site.asked_record_begun _ r)
  cancelled := rfl
  isFree := rfl
  issued := id

/-- A site after somebody came to the queue and left it. -/
theorem asked_leaveQueue {requests : List Request} {s s' : Site σ} (hissued : s.turns.Issued)
    (h : s.enterQueue.Asked requests s') (hturns : s'.turns = s.enterQueue.turns) :
    s.Asked requests (s'.leaveQueue s.turns.nextTicket) := by
  have hleft : (s'.leaveQueue s.turns.nextTicket).turns =
      ⟨s.turns.nextTicket + 1, s.turns.tickets⟩ := by
    rw [← TurnQueue.leave_enter hissued]
    exact congrArg (·.leave s.turns.nextTicket) hturns
  refine ⟨h.asked, h.cancelled, ?_, fun _ => ?_⟩
  · rw [hleft]
    rfl
  · rw [hleft]
    exact fun ticket hm => Nat.lt_succ_of_lt (hissued ticket hm)

/-- **A probe alone on its host**, of a run that is not cancelled, comes to what is replied. The
request is made once, unless the turn for it is not free. -/
theorem yields_call {s : Site σ} (hs : s.cancelled = false) (hissued : s.turns.Issued) :
    Yields network (v.call c) s
      (v.replied c s.turns.isFree (network c.request s.network).1)
      (requestsOf c s.turns.isFree) := by
  have hcall := finish_call_eq network v c hs
  have hfirst := TurnQueue.isFirst_enter hissued
  rw [replied, requestsOf]
  cases hturn : c.inTurn with
  | false =>
    obtain ⟨time, stage, hstage, hfinish⟩ := finish_timedProbe network v c s
    rw [hturn] at hcall
    exact .of_finish (hcall.trans hfinish) (asked_settled network c.request s time hstage)
  | true =>
    have hordered : (v.orderedProbe c.what true c.request).finish network s =
        (v.turning c .fresh (s.clock + v.turnMs) (v.timedProbe c.what c.request)).finish network s :=
      rfl
    rw [hturn, hordered] at hcall
    cases hfree : s.turns.isFree with
    | true =>
      obtain ⟨time, stage, hstage, hfinish⟩ :=
        finish_timedProbe network v c s.enterQueue
      rw [finish_turning_of_isFirst network v c (hfirst.trans hfree), hfinish] at hcall
      exact .of_finish hcall
        (asked_leaveQueue hissued (asked_settled network c.request _ time hstage) rfl)
    | false =>
      obtain ⟨time, hfinish⟩ := finish_turning_of_not_isFirst network v c (s.clock + v.turnMs)
        (v.timedProbe c.what c.request) (hfirst.trans hfree)
      have hnothing : s.enterQueue.Asked [] (s.enterQueue.atTime time) :=
        ⟨(List.append_nil _).symm, rfl, rfl, id⟩
      exact .of_finish (hcall.trans hfinish) (asked_leaveQueue hissued hnothing rfl)

end Visit

end HardwareWatch
