import HardwareWatch.Activity.Basic
import HardwareWatch.Activity.Site

/-!
# One instant of an activity

While anything can go on, no time passes. Parts that are done at the same time go on in their order,
and a part goes on before its time limit is looked at.

* `Activity.poll` lets an activity go on at one instant as far as it can.
* `Activity.abandon` gives an activity up: what it asked stays unanswered, and its turn is over.
* `Activity.wake` is the time from which on an activity can go on.
-/

namespace HardwareWatch

namespace TurnStage

/-- The ticket that is held, or the one that is given out next. -/
def ticket (stage : TurnStage) (q : TurnQueue) : Nat :=
  match stage with
  | fresh => q.nextTicket
  | waiting ticket => ticket
  | entered ticket => ticket

/-- Whether the part was begun. -/
def hasEntered : TurnStage → Bool
  | entered _ => true
  | _ => false

/-- The site when the part stands in the queue. -/
def arrive {σ : Type} (stage : TurnStage) (s : Site σ) : Site σ :=
  match stage with
  | fresh => s.enterQueue
  | _ => s

end TurnStage

namespace Activity

variable {σ : Type}

/-- Give an activity up. The answers to its requests are lost and its turns are over. -/
def abandon {α : Type} : Activity α → Site σ → Site σ
  | call r (some _) _, s => s.record .abandoned r
  | within _ body _, s => body.abandon s
  | unlessCancelled body _, s => body.abandon s
  | inTurn (.waiting ticket) _ _ _, s => s.leaveQueue ticket
  | inTurn (.entered ticket) _ body _, s => (body.abandon s).leaveQueue ticket
  | both left right _, s => right.abandon (left.abandon s)
  | _, s => s

/-- Ask the extensions: what comes back, and the site at which the request has begun. -/
def begin (network : Network σ) (r : Request) (s : Site σ) : Reply r × Site σ :=
  ((network r s.network).1, { s with network := (network r s.network).2 }.record .begun r)

/-- Go on as far as possible without time passing. -/
def poll {α : Type} (network : Network σ) : Activity α → Site σ → Activity α × Site σ
  | done a, s => (done a, s)
  | update f next, s =>
    (next (f s.resource).1).poll network { s with resource := (f s.resource).2 }
  | isCancelled next, s => (next s.cancelled).poll network s
  | now next, s => (next s.clock).poll network s
  | waitUntil time next, s =>
    if time ≤ s.clock then next.poll network s else (waitUntil time next, s)
  | call r none next, s =>
    let (reply, s) := begin network r s
    if reply.delayMs = 0 then (next reply.answer).poll network (s.record .finished r)
    else (call r (some ⟨s.clock + reply.delayMs, reply.answer⟩) next, s)
  | call r (some pending) next, s =>
    if pending.due ≤ s.clock then (next pending.answer).poll network (s.record .finished r)
    else (call r (some pending) next, s)
  | within deadline body next, s =>
    let (body, s) := body.poll network s
    match body.result? with
    | some b => (next (some b)).poll network s
    | none =>
      if deadline ≤ s.clock then (next none).poll network (body.abandon s)
      else (within deadline body next, s)
  | unlessCancelled body next, s =>
    if s.cancelled then (next none).poll network (body.abandon s)
    else
      let (body, s) := body.poll network s
      match body.result? with
      | some b => (next (some b)).poll network s
      | none => (unlessCancelled body next, s)
  | inTurn stage deadline body next, s =>
    let ticket := stage.ticket s.turns
    let s := stage.arrive s
    if stage.hasEntered || s.turns.isFirst ticket then
      let (body, s) := body.poll network s
      match body.result? with
      | some b => (next (some b)).poll network (s.leaveQueue ticket)
      | none => (inTurn (.entered ticket) deadline body next, s)
    else if deadline ≤ s.clock then (next none).poll network (s.leaveQueue ticket)
    else (inTurn (.waiting ticket) deadline body next, s)
  | both left right next, s =>
    let (left, s) := left.poll network s
    let (right, s) := right.poll network s
    match left.result?, right.result? with
    | some b, some c => (next b c).poll network s
    | _, _ => (both left right next, s)

/-- The time from which on an activity can go on, zero if it can go on at once. -/
def wake {α : Type} : Activity α → Site σ → Nat
  | waitUntil time _, _ => time
  | call _ (some pending) _, _ => pending.due
  | within deadline body _, s => min deadline (body.wake s)
  | unlessCancelled body _, s => if s.cancelled then 0 else body.wake s
  | inTurn stage deadline body _, s =>
    if stage.hasEntered then body.wake s
    else if stage = .fresh || s.turns.isFirst (stage.ticket s.turns) then 0
    else deadline
  | both left right _, s =>
    match left.result?, right.result? with
    | none, none => min (left.wake s) (right.wake s)
    | none, some _ => left.wake s
    | some _, none => right.wake s
    | some _, some _ => 0
  | _, _ => 0

end Activity

end HardwareWatch
