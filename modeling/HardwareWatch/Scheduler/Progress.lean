import HardwareWatch.Activity.Run
import HardwareWatch.Scheduler.Basic

/-!
# Progress of tasks

Tasks make progress one at a time. There is no infinite progress of a list of tasks, since there is
none of a visit.

* `TaskState.Follows` says that a state comes after another one by a step of a task.
* `ListMoves` says that one entry of a list has moved.
* `HostTask.moves_wellFounded` says that there is no infinite progress.
-/

namespace HardwareWatch

universe u

/-! ## One entry of a list moves -/

/-- One list is another with one entry replaced by one that follows it. -/
inductive ListMoves {τ : Type u} (r : τ → τ → Prop) : List τ → List τ → Prop
  | head {a b : τ} {l : List τ} (h : r b a) : ListMoves r (b :: l) (a :: l)
  | tail {a : τ} {l m : List τ} (h : ListMoves r m l) : ListMoves r (a :: m) (a :: l)

namespace ListMoves

variable {τ : Type u} {r : τ → τ → Prop}

theorem acc_cons {a : τ} {l : List τ} (ha : Acc r a) (hl : Acc (ListMoves r) l) :
    Acc (ListMoves r) (a :: l) := by
  induction ha generalizing l with
  | intro a _ iha =>
    induction hl with
    | intro l hl ihl =>
      refine .intro _ fun m h => ?_
      cases h with
      | head h => exact iha _ h (.intro l hl)
      | tail h => exact ihl _ h

theorem wellFounded (h : WellFounded r) : WellFounded (ListMoves r) := by
  refine ⟨fun l => ?_⟩
  induction l with
  | nil => exact .intro _ fun m h => by cases h
  | cons a l ih => exact acc_cons (h.apply a) ih

theorem modify {f : τ → τ} {l : List τ} {i : Nat} {a : τ} (hi : l[i]? = some a)
    (h : r (f a) a) : ListMoves r (l.modify i f) l := by
  induction l generalizing i with
  | nil => simp at hi
  | cons b l ih =>
    cases i with
    | zero =>
      simp only [List.getElem?_cons_zero, Option.some.injEq] at hi
      subst hi
      simpa using ListMoves.head h
    | succ i =>
      simp only [List.getElem?_cons_succ] at hi
      simpa using ListMoves.tail (ih hi)

end ListMoves

/-! ## Tasks -/

/-- The task of a visit to a host. -/
abbrev VisitTask := HostTask (Activity HostReport)

/-- What a state of a task can be after a step. -/
inductive TaskState.Follows :
    TaskState (Activity HostReport) → TaskState (Activity HostReport) → Prop
  | skipped (report : Option HostReport) : Follows (.ended report) .spawned
  | queued (ticket : Nat) : Follows (.queued ticket) .spawned
  | begun (ticket ticket' lock : Nat) (run : Activity HostReport) :
    Follows (.running ticket lock run) (.queued ticket')
  | continued (ticket ticket' lock lock' : Nat) {run left : Activity HostReport}
      (h : left.FollowsSome run) : Follows (.running ticket lock left) (.running ticket' lock' run)
  | ended (ticket lock : Nat) (run : Activity HostReport) (report : Option HostReport) :
    Follows (.ended report) (.running ticket lock run)

namespace TaskState

theorem acc_ended (report : Option HostReport) : Acc Follows (.ended report) :=
  .intro _ fun s h => by cases h

theorem acc_running (ticket lock : Nat) (run : Activity HostReport) :
    Acc Follows (.running ticket lock run) := by
  induction Activity.follows_wellFounded.transGen.apply run generalizing ticket lock with
  | intro run _ ih =>
    refine .intro _ fun s h => ?_
    cases h with
    | continued ticket _ lock _ h => exact ih _ h ticket lock
    | ended _ _ _ report => exact acc_ended report

theorem acc_queued (ticket : Nat) : Acc Follows (.queued ticket) :=
  .intro _ fun s h => by
    cases h with
    | begun ticket _ lock run => exact acc_running ticket lock run

/-- There is no infinite progress of a task. -/
theorem follows_wellFounded : WellFounded Follows := by
  refine ⟨fun s => ?_⟩
  cases s with
  | spawned =>
    refine .intro _ fun s h => ?_
    cases h with
    | skipped report => exact acc_ended report
    | queued ticket => exact acc_queued ticket
  | queued ticket => exact acc_queued ticket
  | running ticket lock run => exact acc_running ticket lock run
  | ended report => exact acc_ended report

end TaskState

namespace HostTask

/-- One of the tasks made a step. -/
def Moves : List VisitTask → List VisitTask → Prop :=
  ListMoves (InvImage TaskState.Follows HostTask.state)

/-- There is no infinite progress of tasks. -/
theorem moves_wellFounded : WellFounded Moves :=
  ListMoves.wellFounded (InvImage.wf _ TaskState.follows_wellFounded)

section

variable {s : Scheduler (Activity HostReport)} {i : Nat} {t : VisitTask}
  (hi : s.tasks[i]? = some t)
include hi

theorem moves_setState {state : TaskState (Activity HostReport)}
    (h : TaskState.Follows state t.state) : Moves (s.setState i state).tasks s.tasks :=
  ListMoves.modify hi h

theorem moves_start (ht : t.state = .spawned) (slot : HostSlot) :
    Moves (s.start i slot).tasks s.tasks := by
  by_cases h : s.isLocked slot.runLock = true
  · rw [Scheduler.start, if_pos h]
    exact moves_setState hi (ht ▸ .skipped none)
  · rw [Scheduler.start, if_neg h]
    exact moves_setState hi (ht ▸ .queued s.workers.nextTicket)

theorem moves_beginVisit {ticket : Nat} (ht : t.state = .queued ticket) (slot : HostSlot)
    (run : Activity HostReport) : Moves (s.beginVisit i ticket slot run).tasks s.tasks := by
  have hl : (s.turnLock slot.settings.hostname).2.tasks = s.tasks := by
    rw [Scheduler.turnLock]
    split <;> rfl
  rw [← hl]
  exact moves_setState (hl ▸ hi) (ht ▸ .begun ticket ticket _ run)

theorem moves_continueVisit {ticket lock : Nat} {run left : Activity HostReport}
    (ht : t.state = .running ticket lock run) (h : left.FollowsSome run) :
    Moves (s.continueVisit i ticket lock left).tasks s.tasks :=
  moves_setState hi (ht ▸ .continued ticket ticket lock lock h)

theorem moves_endVisit {ticket lock : Nat} {run : Activity HostReport}
    (ht : t.state = .running ticket lock run) (report : HostReport) :
    Moves (s.endVisit i ticket report).tasks s.tasks :=
  moves_setState hi (ht ▸ .ended ticket lock run (some report))

end

end HostTask

end HardwareWatch
