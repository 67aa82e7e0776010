import HardwareWatch.Activity.Progress

/-!
# Running an activity to its end

The clock moves to the time at which the activity wakes, the activity goes on at that instant, and so
on. Since there is progress at every such instant, every activity ends.

* `Activity.run` is the result of an activity and the site it leaves, where the run may be cancelled at
  some time.
-/

namespace HardwareWatch

namespace Activity

variable {σ : Type}

theorem wake_atTime {α : Type} (p : Activity α) (s : Site σ) (time : Nat) :
    p.wake (s.atTime time) = p.wake s := by
  induction p with
  | call r pending _ _ => cases pending <;> rfl
  | within _ _ _ ihb _ => simp only [wake, ihb]
  | unlessCancelled _ _ ihb _ =>
    rw [wake, wake, ihb]
    rfl
  | inTurn _ _ _ _ ihb _ =>
    rw [wake, wake, ihb]
    rfl
  | both _ _ _ ihl ihr _ => simp only [wake, ihl, ihr]
  | _ => rfl

theorem followsSome_poll_atTime {α : Type} (network : Network σ) {p : Activity α} {s : Site σ}
    (hp : p.result? = none) :
    FollowsSome (p.poll network (s.atTime (max s.clock (p.wake s)))).1 p :=
  follows_poll_of_wake_le network hp (by
    rw [wake_atTime]
    exact Nat.le_max_right _ _)

/-- Run an activity to its end. A cancellation comes before all that is due at the same time. -/
def run {α : Type} (network : Network σ) (cancelAt : Option Nat) (p : Activity α) (s : Site σ) :
    α × Site σ :=
  match _hp : p.result? with
  | some a => (a, s)
  | none =>
    match cancelAt with
    | none =>
      let left := p.poll network (s.atTime (max s.clock (p.wake s)))
      run network none left.1 left.2
    | some time =>
      if time ≤ max s.clock (p.wake s) then
        run network none p { s with clock := max s.clock time, cancelled := true }
      else
        let left := p.poll network (s.atTime (max s.clock (p.wake s)))
        run network (some time) left.1 left.2
termination_by (cancelAt.isSome.toNat, follows_wellFounded.transGen.wrap p)
decreasing_by
  · exact .right _ (followsSome_poll_atTime network _hp)
  · exact .left _ _ Nat.zero_lt_one
  · exact .right _ (followsSome_poll_atTime network _hp)

theorem run_done {α : Type} (network : Network σ) (cancelAt : Option Nat) (a : α) (s : Site σ) :
    (done a).run network cancelAt s = (a, s) := by
  rw [run.eq_def]
  rfl

end Activity

end HardwareWatch
