import HardwareWatch.Activity.Request
import HardwareWatch.Telemetry.Resource

/-!
# Activities

What is done on a host takes time: extensions are asked, probes wait for their turn, limits run out.
An activity is such work as a value. It is a tree of what is done first and of the activities that
follow for every answer, so that one definition serves every behaviour of the extensions. A part
that is under way keeps what is needed to go on, and so an activity that was begun is an activity
again.

* `Activity` is an activity with a result, `Activity.bind` one activity after the other.
* `Activity.ask`, `pause`, `limited`, `serialized`, `guarded` and `all` are the ways to take time.
* `Activity.modify`, `read` and `work` are the ways to work on the resource of the host; they take
  no time.
-/

namespace HardwareWatch

/-- How far a part that waits for its turn has come. -/
inductive TurnStage
  /-- It has not asked for a turn. -/
  | fresh
  /-- It waits with a ticket. -/
  | waiting (ticket : Nat)
  /-- It has the turn. -/
  | entered (ticket : Nat)
  deriving DecidableEq, Repr

/-- An answer that is under way. -/
structure Pending (r : Request) where
  /-- When the answer is there, in milliseconds. -/
  due : Nat
  answer : Except EngineError r.Answer

/-- An activity on a host with a result. Times are in milliseconds. -/
inductive Activity : Type → Type 1
  /-- Nothing is left to do. -/
  | done {α : Type} (result : α) : Activity α
  /-- Work on the resource of the host. -/
  | update {α β : Type} (f : Resource → β × Resource) (next : β → Activity α) : Activity α
  /-- Ask whether the run was cancelled. -/
  | isCancelled {α : Type} (next : Bool → Activity α) : Activity α
  /-- Ask for the time. -/
  | now {α : Type} (next : Nat → Activity α) : Activity α
  /-- Wait for a time. -/
  | waitUntil {α : Type} (time : Nat) (next : Activity α) : Activity α
  /-- Ask an extension. -/
  | call {α : Type} (r : Request) (pending : Option (Pending r))
      (next : Except EngineError r.Answer → Activity α) : Activity α
  /-- Give a part up at a time. -/
  | within {α β : Type} (deadline : Nat) (body : Activity β) (next : Option β → Activity α) :
      Activity α
  /-- Give a part up when the run is cancelled. -/
  | unlessCancelled {α β : Type} (body : Activity β) (next : Option β → Activity α) : Activity α
  /-- Do a part while no other such part on the host is under way. The wait for it ends at a time. -/
  | inTurn {α β : Type} (stage : TurnStage) (deadline : Nat) (body : Activity β)
      (next : Option β → Activity α) : Activity α
  /-- Do two parts at the same time. -/
  | both {α β γ : Type} (left : Activity β) (right : Activity γ) (next : β → γ → Activity α) :
      Activity α

namespace Activity

/-- One activity after the other. -/
def bind {α β : Type} : Activity α → (α → Activity β) → Activity β
  | done a, f => f a
  | update g next, f => update g fun b => (next b).bind f
  | isCancelled next, f => isCancelled fun b => (next b).bind f
  | now next, f => now fun t => (next t).bind f
  | waitUntil time next, f => waitUntil time (next.bind f)
  | call r pending next, f => call r pending fun answer => (next answer).bind f
  | within deadline body next, f => within deadline body fun b => (next b).bind f
  | unlessCancelled body next, f => unlessCancelled body fun b => (next b).bind f
  | inTurn stage deadline body next, f => inTurn stage deadline body fun b => (next b).bind f
  | both left right next, f => both left right fun b c => (next b c).bind f

instance : Monad Activity where
  pure := done
  bind := bind

/-- The result of an activity that has nothing left to do. -/
def result? {α : Type} : Activity α → Option α
  | done a => some a
  | _ => none

theorem result?_eq_some_iff {α : Type} {p : Activity α} {a : α} :
    p.result? = some a ↔ p = done a := by
  cases p <;> simp [result?]

/-- Change the resource of the host. -/
def modify (f : Resource → Resource) : Activity Unit := update (fun r => ((), f r)) done

/-- Look at the resource of the host. -/
def read {β : Type} (f : Resource → β) : Activity β := update (fun r => (f r, r)) done

/-- Work on the resource of the host and give a result. -/
def work {β : Type} (f : Resource → β × Resource) : Activity β := update f done

/-- Whether the run was cancelled. -/
def cancelled : Activity Bool := isCancelled done

/-- The time in milliseconds. -/
def clock : Activity Nat := now done

/-- Wait for some milliseconds. -/
def pause (ms : Nat) : Activity Unit := now fun t => waitUntil (t + ms) (done ())

/-- Ask an extension. -/
def ask (r : Request) : Activity (Except EngineError r.Answer) := call r none done

/-- Do a part up to a time. -/
def before {β : Type} (deadline : Nat) (body : Activity β) : Activity (Option β) :=
  within deadline body done

/-- Do a part for at most some milliseconds. -/
def limited {β : Type} (ms : Nat) (body : Activity β) : Activity (Option β) :=
  now fun t => within (t + ms) body done

/-- Do a part as long as the run is not cancelled. -/
def guarded {β : Type} (body : Activity β) : Activity (Option β) := unlessCancelled body done

/-- Do a part in its turn, waiting for it at most some milliseconds. -/
def serialized {β : Type} (waitMs : Nat) (body : Activity β) : Activity (Option β) :=
  now fun t => inTurn .fresh (t + waitMs) body done

/-- Do all parts at the same time. -/
def all {β : Type} : List (Activity β) → Activity (List β)
  | [] => done []
  | p :: rest => both p (all rest) fun b bs => done (b :: bs)

/-- Take steps one after the other up to a time. Gives the state after the steps that were completed
and whether these are all. -/
def foldBefore {β ι : Type} (deadline : Nat) (step : β → ι → Activity β) :
    List ι → β → Activity (β × Bool)
  | [], b => done (b, true)
  | i :: rest, b => within deadline (step b i) fun
    | some b => foldBefore deadline step rest b
    | none => done (b, false)

/-! ## Laws -/

theorem bind_done {α : Type} (p : Activity α) : p.bind done = p := by
  induction p with
  | done => rfl
  | update _ _ ih => simp only [bind, ih]
  | isCancelled _ ih => simp only [bind, ih]
  | now _ ih => simp only [bind, ih]
  | waitUntil _ _ ih => simp only [bind, ih]
  | call _ _ _ ih => simp only [bind, ih]
  | within _ _ _ _ ih => simp only [bind, ih]
  | unlessCancelled _ _ _ ih => simp only [bind, ih]
  | inTurn _ _ _ _ _ ih => simp only [bind, ih]
  | both _ _ _ _ _ ih => simp only [bind, ih]

theorem bind_assoc {α β γ : Type} (p : Activity α) (f : α → Activity β) (g : β → Activity γ) :
    (p.bind f).bind g = p.bind fun a => (f a).bind g := by
  induction p with
  | done => rfl
  | update _ _ ih => simp only [bind, ih]
  | isCancelled _ ih => simp only [bind, ih]
  | now _ ih => simp only [bind, ih]
  | waitUntil _ _ ih => simp only [bind, ih]
  | call _ _ _ ih => simp only [bind, ih]
  | within _ _ _ _ ih => simp only [bind, ih]
  | unlessCancelled _ _ _ ih => simp only [bind, ih]
  | inTurn _ _ _ _ _ ih => simp only [bind, ih]
  | both _ _ _ _ _ ih => simp only [bind, ih]

instance : LawfulMonad Activity :=
  LawfulMonad.mk' Activity bind_done (fun _ _ => rfl) bind_assoc

end Activity

end HardwareWatch
