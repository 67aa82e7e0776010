import HardwareWatch.Activity.Poll
import Mathlib.Algebra.Order.Group.Multiset

/-!
# The runs of an activity

What an activity can come to, whatever happens around it: when answers arrive, what else works on
the resource of the host, and which of two parts that are done at the same time is the faster one.

* `Surroundings` says what may happen: the answers that may come back, and whether limits of time may
  run out and the run may be cancelled.
* `Activity.Runs` relates an activity to the changes that it made to the resource and to its result,
  or to no result where it was given up or is still under way.
* `Activity.runs_bind_some_iff` takes a run of one activity after the other apart.
* `Activity.exists_runs` says that an activity can come to its end.
* `Activity.ChangesOnly` says that all changes an activity can make are of one kind. It has a rule for
  every way to put activities together.
-/

namespace HardwareWatch

/-- What may happen around an activity. -/
structure Surroundings where
  /-- The answers that may come back for a request. -/
  answers : (r : Request) → Except EngineError r.Answer → Prop
  /-- Whether limits of time may run out. -/
  mayBeLate : Prop
  /-- Whether the run may be cancelled. -/
  mayBeCancelled : Prop

namespace Surroundings

/-- All that may happen in other surroundings may happen in these. -/
structure Includes (w w' : Surroundings) : Prop where
  answers {r : Request} (answer : Except EngineError r.Answer) (h : w'.answers r answer) :
    w.answers r answer
  mayBeLate (h : w'.mayBeLate) : w.mayBeLate
  mayBeCancelled (h : w'.mayBeCancelled) : w.mayBeCancelled

/-- Whatever can happen may happen. -/
def any : Surroundings := ⟨fun _ _ => True, True, True⟩

/-- Whatever can happen may happen, but the run is not cancelled. -/
def uncancelled : Surroundings := ⟨fun _ _ => True, True, False⟩

/-- Every request has one answer, nothing is late and nothing is cancelled. -/
def prompt (answers : (r : Request) → Except EngineError r.Answer) : Surroundings :=
  ⟨fun r answer => answer = answers r, False, False⟩

/-- Whether an answer may come back that is perhaps under way. -/
def MayAnswer (w : Surroundings) {r : Request} (pending : Option (Pending r))
    (answer : Except EngineError r.Answer) : Prop :=
  match pending with
  | none => w.answers r answer
  | some pending => answer = pending.answer

end Surroundings

/-- A resource before and after it was changed. -/
abbrev Change := Resource × Resource

namespace Activity

/-- A run of an activity: the changes it made to the resource, in whatever order, and its result.
There is no result where it was given up or is still under way. The resource may be any one whenever
the activity looks at it, since others work on it too. -/
inductive Runs (w : Surroundings) : {α : Type} → Activity α → Multiset Change → Option α → Prop
  | stopped {α : Type} {p : Activity α} : Runs w p 0 none
  | done {α : Type} {a : α} : Runs w (done a) 0 (some a)
  | update {α β : Type} {f : Resource → β × Resource} {next : β → Activity α} {cs : Multiset Change}
      {o : Option α} (r : Resource) (h : Runs w (next (f r).1) cs o) :
    Runs w (update f next) ({(r, (f r).2)} + cs) o
  | isCancelled {α : Type} {next : Bool → Activity α} {cs : Multiset Change} {o : Option α} (b : Bool)
      (hb : b = true → w.mayBeCancelled) (h : Runs w (next b) cs o) : Runs w (isCancelled next) cs o
  | now {α : Type} {next : Nat → Activity α} {cs : Multiset Change} {o : Option α} (t : Nat)
      (h : Runs w (next t) cs o) : Runs w (now next) cs o
  | waitUntil {α : Type} {time : Nat} {next : Activity α} {cs : Multiset Change} {o : Option α}
      (h : Runs w next cs o) : Runs w (waitUntil time next) cs o
  | call {α : Type} {r : Request} {pending : Option (Pending r)}
      {next : Except EngineError r.Answer → Activity α} {cs : Multiset Change} {o : Option α}
      (answer : Except EngineError r.Answer) (ha : w.MayAnswer pending answer)
      (h : Runs w (next answer) cs o) : Runs w (call r pending next) cs o
  | within {α β : Type} {deadline : Nat} {body : Activity β} {next : Option β → Activity α}
      {cs cs' : Multiset Change} {o : Option α} (b : β) (hb : Runs w body cs (some b))
      (h : Runs w (next (some b)) cs' o) : Runs w (within deadline body next) (cs + cs') o
  | late {α β : Type} {deadline : Nat} {body : Activity β} {next : Option β → Activity α}
      {cs cs' : Multiset Change} {o : Option α} (hl : w.mayBeLate) (hb : Runs w body cs none)
      (h : Runs w (next none) cs' o) : Runs w (within deadline body next) (cs + cs') o
  | withinStopped {α β : Type} {deadline : Nat} {body : Activity β} {next : Option β → Activity α}
      {cs : Multiset Change} (hb : Runs w body cs none) : Runs w (within deadline body next) cs none
  | unlessCancelled {α β : Type} {body : Activity β} {next : Option β → Activity α}
      {cs cs' : Multiset Change} {o : Option α} (b : β) (hb : Runs w body cs (some b))
      (h : Runs w (next (some b)) cs' o) : Runs w (unlessCancelled body next) (cs + cs') o
  | givenUp {α β : Type} {body : Activity β} {next : Option β → Activity α}
      {cs cs' : Multiset Change} {o : Option α} (hc : w.mayBeCancelled) (hb : Runs w body cs none)
      (h : Runs w (next none) cs' o) : Runs w (unlessCancelled body next) (cs + cs') o
  | guardedStopped {α β : Type} {body : Activity β} {next : Option β → Activity α}
      {cs : Multiset Change} (hb : Runs w body cs none) : Runs w (unlessCancelled body next) cs none
  | inTurn {α β : Type} {stage : TurnStage} {deadline : Nat} {body : Activity β}
      {next : Option β → Activity α} {cs cs' : Multiset Change} {o : Option α} (b : β)
      (hb : Runs w body cs (some b)) (h : Runs w (next (some b)) cs' o) :
    Runs w (inTurn stage deadline body next) (cs + cs') o
  | turnMissed {α β : Type} {stage : TurnStage} {deadline : Nat} {body : Activity β}
      {next : Option β → Activity α} {cs : Multiset Change} {o : Option α}
      (hs : stage.hasEntered = false) (hl : w.mayBeLate) (h : Runs w (next none) cs o) :
    Runs w (inTurn stage deadline body next) cs o
  | turnStopped {α β : Type} {stage : TurnStage} {deadline : Nat} {body : Activity β}
      {next : Option β → Activity α} {cs : Multiset Change} (hb : Runs w body cs none) :
    Runs w (inTurn stage deadline body next) cs none
  | both {α β γ : Type} {left : Activity β} {right : Activity γ} {next : β → γ → Activity α}
      {cs cs' cs'' : Multiset Change} {o : Option α} (b : β) (c : γ) (hl : Runs w left cs (some b))
      (hr : Runs w right cs' (some c)) (h : Runs w (next b c) cs'' o) :
    Runs w (both left right next) (cs + cs' + cs'') o
  | bothStopped {α β γ : Type} {left : Activity β} {right : Activity γ} {next : β → γ → Activity α}
      {cs cs' : Multiset Change} {b : Option β} {c : Option γ} (hl : Runs w left cs b)
      (hr : Runs w right cs' c) : Runs w (both left right next) (cs + cs') none

variable {w : Surroundings} {α β γ ι : Type} {cs : Multiset Change}

/-- A run in some surroundings is one in surroundings where more may happen. -/
theorem Runs.mono {w' : Surroundings} {p : Activity α} {o : Option α} (hw : w'.Includes w)
    (h : Runs w p cs o) : Runs w' p cs o := by
  induction h with
  | stopped => exact .stopped
  | done => exact .done
  | update r _ ih => exact .update r ih
  | isCancelled b hb _ ih => exact .isCancelled b (fun h => hw.mayBeCancelled (hb h)) ih
  | now t _ ih => exact .now t ih
  | waitUntil _ ih => exact .waitUntil ih
  | call answer ha _ ih =>
    rename_i pending _ _ _ _
    cases pending with
    | none => exact .call answer (hw.answers _ ha) ih
    | some pending => exact .call answer ha ih
  | within b _ _ ihb ih => exact .within b ihb ih
  | late hl _ _ ihb ih => exact .late (hw.mayBeLate hl) ihb ih
  | withinStopped _ ihb => exact .withinStopped ihb
  | unlessCancelled b _ _ ihb ih => exact .unlessCancelled b ihb ih
  | givenUp hc _ _ ihb ih => exact .givenUp (hw.mayBeCancelled hc) ihb ih
  | guardedStopped _ ihb => exact .guardedStopped ihb
  | inTurn b _ _ ihb ih => exact .inTurn b ihb ih
  | turnMissed hs hl _ ih => exact .turnMissed hs (hw.mayBeLate hl) ih
  | turnStopped _ ihb => exact .turnStopped ihb
  | both b c _ _ _ ihl ihr ih => exact .both b c ihl ihr ih
  | bothStopped _ _ ihl ihr => exact .bothStopped ihl ihr

/-- A run in some surroundings is one where whatever can happen may happen. -/
theorem Runs.any {p : Activity α} {o : Option α} (h : Runs w p cs o) : Runs .any p cs o :=
  h.mono ⟨fun _ _ => trivial, fun _ => trivial, fun _ => trivial⟩

/-! ## One activity after the other -/

/-- A run of one activity after the other, taken apart: a run of the first that was stopped, or a
finished run of the first with a run of the second. -/
def RunsThrough (w : Surroundings) (p : Activity α) (f : α → Activity β) (cs : Multiset Change)
    (o : Option β) : Prop :=
  (o = none ∧ Runs w p cs none) ∨
    ∃ a cs₁ cs₂, cs = cs₁ + cs₂ ∧ Runs w p cs₁ (some a) ∧ Runs w (f a) cs₂ o

namespace RunsThrough

variable {p q : Activity α} {f : α → Activity β} {o : Option β} {ds : Multiset Change}

theorem stopped : RunsThrough w p f 0 none := .inl ⟨rfl, .stopped⟩

theorem prepend (hq : ∀ {cs o}, Runs w q cs o → Runs w p (ds + cs) o)
    (h : RunsThrough w q f cs o) : RunsThrough w p f (ds + cs) o := by
  rcases h with ⟨rfl, h⟩ | ⟨a, cs₁, cs₂, rfl, h₁, h₂⟩
  · exact .inl ⟨rfl, hq h⟩
  · exact .inr ⟨a, ds + cs₁, cs₂, (add_assoc ..).symm, hq h₁, h₂⟩

theorem lift (hq : ∀ {cs o}, Runs w q cs o → Runs w p cs o) (h : RunsThrough w q f cs o) :
    RunsThrough w p f cs o := by
  have h' : RunsThrough w p f (0 + cs) o := h.prepend fun h => by
    rw [zero_add]
    exact hq h
  rwa [zero_add] at h'

end RunsThrough

/-- **A run of one activity after the other** can be taken apart. -/
theorem runsThrough_of_runs_bind {p : Activity α} {f : α → Activity β} {o : Option β}
    (h : Runs w (p >>= f) cs o) : RunsThrough w p f cs o := by
  change Runs w (p.bind f) cs o at h
  induction p generalizing cs with
  | done a => exact .inr ⟨a, 0, cs, (zero_add cs).symm, .done, h⟩
  | update g next ih =>
    rw [Activity.bind] at h
    cases h with
    | stopped => exact .stopped
    | update r h => exact (ih _ h).prepend (.update r)
  | isCancelled next ih =>
    rw [Activity.bind] at h
    cases h with
    | stopped => exact .stopped
    | isCancelled b hb h => exact (ih _ h).lift (.isCancelled b hb)
  | now next ih =>
    rw [Activity.bind] at h
    cases h with
    | stopped => exact .stopped
    | now t h => exact (ih _ h).lift (.now t)
  | waitUntil time next ih =>
    rw [Activity.bind] at h
    cases h with
    | stopped => exact .stopped
    | waitUntil h => exact (ih h).lift .waitUntil
  | call r pending next ih =>
    rw [Activity.bind] at h
    cases h with
    | stopped => exact .stopped
    | call answer ha h => exact (ih _ h).lift (.call answer ha)
  | within deadline body next _ ih =>
    rw [Activity.bind] at h
    cases h with
    | stopped => exact .stopped
    | within b hb h => exact (ih _ h).prepend (.within b hb)
    | late hl hb h => exact (ih _ h).prepend (.late hl hb)
    | withinStopped hb => exact .inl ⟨rfl, .withinStopped hb⟩
  | unlessCancelled body next _ ih =>
    rw [Activity.bind] at h
    cases h with
    | stopped => exact .stopped
    | unlessCancelled b hb h => exact (ih _ h).prepend (.unlessCancelled b hb)
    | givenUp hc hb h => exact (ih _ h).prepend (.givenUp hc hb)
    | guardedStopped hb => exact .inl ⟨rfl, .guardedStopped hb⟩
  | inTurn stage deadline body next _ ih =>
    rw [Activity.bind] at h
    cases h with
    | stopped => exact .stopped
    | inTurn b hb h => exact (ih _ h).prepend (.inTurn b hb)
    | turnMissed hs hl h => exact (ih _ h).lift (.turnMissed hs hl)
    | turnStopped hb => exact .inl ⟨rfl, .turnStopped hb⟩
  | both left right next _ _ ih =>
    rw [Activity.bind] at h
    cases h with
    | stopped => exact .stopped
    | both b c hl hr h => exact (ih _ _ h).prepend (.both b c hl hr)
    | bothStopped hl hr => exact .inl ⟨rfl, .bothStopped hl hr⟩

theorem runs_bind_of_runs {p : Activity α} {f : α → Activity β} {cs' : Multiset Change} {a : α}
    {o : Option β} (h : Runs w p cs (some a)) (h' : Runs w (f a) cs' o) :
    Runs w (p >>= f) (cs + cs') o := by
  change Runs w (p.bind f) (cs + cs') o
  generalize ho : some a = oa at h
  induction h with
  | stopped => cases ho
  | withinStopped hb => cases ho
  | guardedStopped hb => cases ho
  | turnStopped hb => cases ho
  | bothStopped hl hr => cases ho
  | done =>
    cases ho
    rwa [zero_add]
  | update r h ih =>
    rw [add_assoc]
    exact .update r (ih h' ho)
  | isCancelled b hb h ih => exact .isCancelled b hb (ih h' ho)
  | now t h ih => exact .now t (ih h' ho)
  | waitUntil h ih => exact .waitUntil (ih h' ho)
  | call answer ha h ih => exact .call answer ha (ih h' ho)
  | within b hb h _ ih =>
    rw [add_assoc]
    exact .within b hb (ih h' ho)
  | late hl hb h _ ih =>
    rw [add_assoc]
    exact .late hl hb (ih h' ho)
  | unlessCancelled b hb h _ ih =>
    rw [add_assoc]
    exact .unlessCancelled b hb (ih h' ho)
  | givenUp hc hb h _ ih =>
    rw [add_assoc]
    exact .givenUp hc hb (ih h' ho)
  | inTurn b hb h _ ih =>
    rw [add_assoc]
    exact .inTurn b hb (ih h' ho)
  | turnMissed hs hl h ih => exact .turnMissed hs hl (ih h' ho)
  | both b c hl hr h _ _ ih =>
    rw [add_assoc]
    exact .both b c hl hr (ih h' ho)

theorem runs_bind_some_iff {p : Activity α} {f : α → Activity β} {b : β} :
    Runs w (p >>= f) cs (some b) ↔
      ∃ a cs₁ cs₂, cs = cs₁ + cs₂ ∧ Runs w p cs₁ (some a) ∧ Runs w (f a) cs₂ (some b) := by
  constructor
  · intro h
    rcases runsThrough_of_runs_bind h with ⟨h, -⟩ | h
    · cases h
    · exact h
  · rintro ⟨a, cs₁, cs₂, rfl, h₁, h₂⟩
    exact runs_bind_of_runs h₁ h₂

/-- Whatever is asked is answered, and so every activity can come to its end. -/
theorem exists_runs (r₀ : Resource) (hw : ∀ r, ∃ answer, w.answers r answer) (p : Activity α) :
    ∃ cs a, Runs w p cs (some a) := by
  induction p with
  | done a => exact ⟨0, a, .done⟩
  | update f next ih =>
    obtain ⟨cs, a, h⟩ := ih (f r₀).1
    exact ⟨_, a, .update r₀ h⟩
  | isCancelled next ih =>
    obtain ⟨cs, a, h⟩ := ih false
    exact ⟨cs, a, .isCancelled false nofun h⟩
  | now next ih =>
    obtain ⟨cs, a, h⟩ := ih 0
    exact ⟨cs, a, .now 0 h⟩
  | waitUntil time next ih =>
    obtain ⟨cs, a, h⟩ := ih
    exact ⟨cs, a, .waitUntil h⟩
  | call r pending next ih =>
    have hanswer : ∃ answer, w.MayAnswer pending answer := by
      cases pending with
      | none => exact hw r
      | some pending => exact ⟨pending.answer, rfl⟩
    obtain ⟨answer, hanswer⟩ := hanswer
    obtain ⟨cs, a, h⟩ := ih answer
    exact ⟨cs, a, .call answer hanswer h⟩
  | within deadline body next ihb ih =>
    obtain ⟨cs, b, hb⟩ := ihb
    obtain ⟨cs', a, h⟩ := ih (some b)
    exact ⟨_, a, .within b hb h⟩
  | unlessCancelled body next ihb ih =>
    obtain ⟨cs, b, hb⟩ := ihb
    obtain ⟨cs', a, h⟩ := ih (some b)
    exact ⟨_, a, .unlessCancelled b hb h⟩
  | inTurn stage deadline body next ihb ih =>
    obtain ⟨cs, b, hb⟩ := ihb
    obtain ⟨cs', a, h⟩ := ih (some b)
    exact ⟨_, a, .inTurn b hb h⟩
  | both left right next ihl ihr ih =>
    obtain ⟨cs, b, hl⟩ := ihl
    obtain ⟨cs', c, hr⟩ := ihr
    obtain ⟨cs'', a, h⟩ := ih b c
    exact ⟨_, a, .both b c hl hr h⟩

/-! ## Single steps -/

theorem runs_pure_some_iff {a b : α} :
    Runs w (pure a) cs (some b) ↔ cs = 0 ∧ b = a := by
  constructor
  · intro h
    cases h with
    | done => exact ⟨rfl, rfl⟩
  · rintro ⟨rfl, rfl⟩
    exact .done

theorem runs_cancelled_some_iff {b : Bool} :
    Runs w cancelled cs (some b) ↔ cs = 0 ∧ (b = true → w.mayBeCancelled) := by
  constructor
  · intro h
    cases h with
    | isCancelled b hb h =>
      cases h with
      | done => exact ⟨rfl, hb⟩
  · rintro ⟨rfl, hb⟩
    exact .isCancelled b hb .done

theorem runs_clock {cs : Multiset Change} {t : Nat} (h : Runs w clock cs (some t)) : cs = 0 := by
  cases h with
  | now t h =>
    cases h with
    | done => rfl

theorem runs_work_some_iff {f : Resource → β × Resource} {b : β} :
    Runs w (work f) cs (some b) ↔ ∃ r, cs = {(r, (f r).2)} ∧ b = (f r).1 := by
  constructor
  · intro h
    cases h with
    | update r h =>
      cases h with
      | done => exact ⟨r, add_zero _, rfl⟩
  · rintro ⟨r, rfl, rfl⟩
    have h : Runs w (work f) ({(r, (f r).2)} + 0) (some (f r).1) := .update r .done
    rwa [add_zero] at h

theorem runs_modify_some_iff {f : Resource → Resource} {u : Unit} :
    Runs w (modify f) cs (some u) ↔ ∃ r, cs = {(r, f r)} := by
  change Runs w (work fun r => ((), f r)) cs (some u) ↔ _
  simp [runs_work_some_iff]

/-- Steps that were all completed before a time are steps without a time limit. -/
theorem runs_foldBefore_true_iff {deadline : Nat} {step : β → ι → Activity β} {l : List ι}
    {b b' : β} :
    Runs w (foldBefore deadline step l b) cs (some (b', true)) ↔
      Runs w (l.foldlM step b) cs (some b') := by
  induction l generalizing b cs with
  | nil => simp [foldBefore, List.foldlM_nil, ← show pure (b, true) = done (b, true) from rfl,
      runs_pure_some_iff]
  | cons i l ih =>
    rw [List.foldlM_cons, runs_bind_some_iff]
    constructor
    · intro h
      cases h with
      | within b₁ hb h => exact ⟨b₁, _, _, rfl, hb, ih.1 h⟩
      | late hl hb h => nomatch h
    · rintro ⟨b₁, cs₁, cs₂, rfl, h₁, h₂⟩
      exact .within b₁ h₁ (ih.2 h₂)

theorem runs_foldBefore_false {deadline : Nat} {step : β → ι → Activity β} {l : List ι} {b b' : β}
    (h : Runs w (foldBefore deadline step l b) cs (some (b', false))) : w.mayBeLate := by
  induction l generalizing b cs with
  | nil => nomatch h
  | cons i l ih =>
    cases h with
    | within b₁ hb h => exact ih h
    | late hl hb h => exact hl

theorem runs_mapM {f : ι → Activity β} {l : List ι} {bs : List β}
    (h : Runs w (l.mapM f) cs (some bs)) :
    List.Forall₂ (fun i b => ∃ cs', cs' ≤ cs ∧ Runs w (f i) cs' (some b)) l bs := by
  induction l generalizing cs bs with
  | nil =>
    rw [List.mapM_nil] at h
    obtain ⟨-, rfl⟩ := runs_pure_some_iff.1 h
    exact .nil
  | cons i l ih =>
    rw [List.mapM_cons] at h
    obtain ⟨b, cs₁, _, rfl, hb, h⟩ := runs_bind_some_iff.1 h
    obtain ⟨rest, cs₂, _, rfl, hrest, h⟩ := runs_bind_some_iff.1 h
    obtain ⟨rfl, rfl⟩ := runs_pure_some_iff.1 h
    rw [add_zero]
    refine .cons ⟨cs₁, Multiset.le_add_right .., hb⟩ ((ih hrest).imp ?_)
    rintro j c ⟨cs', hcs, hj⟩
    exact ⟨cs', hcs.trans (Multiset.le_add_left ..), hj⟩

/-! ## Parts at the same time -/

/-- The parts of a run of parts that are done at the same time. -/
theorem runs_all {ps : List (Activity β)} {bs : List β} (h : Runs w (all ps) cs (some bs)) :
    List.Forall₂ (fun p b => ∃ cs', cs' ≤ cs ∧ Runs w p cs' (some b)) ps bs := by
  induction ps generalizing cs bs with
  | nil =>
    cases h with
    | done => exact .nil
  | cons p ps ih =>
    rw [all] at h
    cases h with
    | both b rest hp hps h =>
      cases h with
      | done =>
        rename_i cs₁ cs₂
        refine .cons ⟨cs₁, ?_, hp⟩ ((ih hps).imp ?_)
        · rw [add_zero]
          exact Multiset.le_add_right ..
        · rintro q c ⟨cs', hcs, hq⟩
          refine ⟨cs', hcs.trans ?_, hq⟩
          rw [add_zero]
          exact Multiset.le_add_left ..

/-! ## Activities whose changes are of one kind -/

/-- All changes that an activity can make are of one kind. -/
def ChangesOnly (R : Resource → Resource → Prop) (p : Activity α) : Prop :=
  ∀ w cs o, Runs w p cs o → ∀ c ∈ cs, R c.1 c.2

/-- An activity that changes nothing. -/
abbrev Quiet (p : Activity α) : Prop := ChangesOnly (fun _ _ => False) p

theorem Quiet.eq_zero {p : Activity α} (hp : Quiet p) {o : Option α} (h : Runs w p cs o) : cs = 0 :=
  Multiset.eq_zero_of_forall_notMem fun c hc => hp _ _ _ h c hc

/-- The runs of quiet parts at the same time. -/
theorem runs_all_iff_of_quiet {ps : List (Activity β)} (hps : ∀ p ∈ ps, Quiet p) {bs : List β} :
    Runs w (all ps) cs (some bs) ↔
      cs = 0 ∧ List.Forall₂ (fun p b => Runs w p 0 (some b)) ps bs := by
  induction ps generalizing cs bs with
  | nil =>
    rw [List.forall₂_nil_left_iff]
    exact runs_pure_some_iff
  | cons p ps ih =>
    have ih (cs : Multiset Change) (bs : List β) : Runs w (all ps) cs (some bs) ↔
        cs = 0 ∧ List.Forall₂ (fun p b => Runs w p 0 (some b)) ps bs :=
      ih fun q hq => hps q (List.mem_cons_of_mem _ hq)
    constructor
    · intro h
      cases h with
      | both b rest hp hrest h =>
        cases h with
        | done =>
          have hp₀ := (hps p List.mem_cons_self).eq_zero hp
          obtain ⟨hrest₀, hbs⟩ := (ih _ rest).1 hrest
          rw [hp₀] at hp
          rw [hp₀, hrest₀]
          exact ⟨rfl, .cons hp hbs⟩
    · rintro ⟨rfl, h⟩
      cases h with
      | cons hp hrest =>
        rw [← add_zero (0 : Multiset Change), ← add_zero (0 + 0 : Multiset Change)]
        exact .both _ _ hp ((ih 0 _).2 ⟨rfl, hrest⟩) .done

namespace ChangesOnly

variable {R : Resource → Resource → Prop}

theorem mono {S : Resource → Resource → Prop} {p : Activity α} (hp : ChangesOnly R p)
    (hRS : ∀ r r', R r r' → S r r') : ChangesOnly S p :=
  fun w cs o h c hc => hRS _ _ (hp w cs o h c hc)

theorem of_quiet {p : Activity α} (hp : Quiet p) : ChangesOnly R p := hp.mono fun _ _ h => h.elim

theorem done (a : α) : ChangesOnly R (done a) := by
  intro w cs o h c hc
  cases h <;> simp at hc

theorem update {f : Resource → β × Resource} {next : β → Activity α} (hf : ∀ r, R r (f r).2)
    (hn : ∀ b, ChangesOnly R (next b)) : ChangesOnly R (update f next) := by
  intro w cs o h c hc
  cases h with
  | stopped => simp at hc
  | update r h =>
    rcases Multiset.mem_add.1 hc with hc | hc
    · exact Multiset.mem_singleton.1 hc ▸ hf r
    · exact hn _ _ _ _ h c hc

theorem isCancelled {next : Bool → Activity α} (hn : ∀ b, ChangesOnly R (next b)) :
    ChangesOnly R (isCancelled next) := by
  intro w cs o h c hc
  cases h with
  | stopped => simp at hc
  | isCancelled b hb h => exact hn b _ _ _ h c hc

theorem now {next : Nat → Activity α} (hn : ∀ t, ChangesOnly R (next t)) :
    ChangesOnly R (now next) := by
  intro w cs o h c hc
  cases h with
  | stopped => simp at hc
  | now t h => exact hn t _ _ _ h c hc

theorem waitUntil {time : Nat} {next : Activity α} (hn : ChangesOnly R next) :
    ChangesOnly R (waitUntil time next) := by
  intro w cs o h c hc
  cases h with
  | stopped => simp at hc
  | waitUntil h => exact hn _ _ _ h c hc

theorem call {r : Request} {pending : Option (Pending r)}
    {next : Except EngineError r.Answer → Activity α} (hn : ∀ a, ChangesOnly R (next a)) :
    ChangesOnly R (call r pending next) := by
  intro w cs o h c hc
  cases h with
  | stopped => simp at hc
  | call answer ha h => exact hn answer _ _ _ h c hc

theorem within {deadline : Nat} {body : Activity β} {next : Option β → Activity α}
    (hb : ChangesOnly R body) (hn : ∀ b, ChangesOnly R (next b)) :
    ChangesOnly R (within deadline body next) := by
  intro w cs o h c hc
  cases h with
  | stopped => simp at hc
  | within b h h' => exact (Multiset.mem_add.1 hc).elim (hb _ _ _ h c) (hn _ _ _ _ h' c)
  | late hl h h' => exact (Multiset.mem_add.1 hc).elim (hb _ _ _ h c) (hn _ _ _ _ h' c)
  | withinStopped h => exact hb _ _ _ h c hc

theorem unlessCancelled {body : Activity β} {next : Option β → Activity α}
    (hb : ChangesOnly R body) (hn : ∀ b, ChangesOnly R (next b)) :
    ChangesOnly R (unlessCancelled body next) := by
  intro w cs o h c hc
  cases h with
  | stopped => simp at hc
  | unlessCancelled b h h' => exact (Multiset.mem_add.1 hc).elim (hb _ _ _ h c) (hn _ _ _ _ h' c)
  | givenUp hg h h' => exact (Multiset.mem_add.1 hc).elim (hb _ _ _ h c) (hn _ _ _ _ h' c)
  | guardedStopped h => exact hb _ _ _ h c hc

theorem inTurn {stage : TurnStage} {deadline : Nat} {body : Activity β}
    {next : Option β → Activity α} (hb : ChangesOnly R body) (hn : ∀ b, ChangesOnly R (next b)) :
    ChangesOnly R (inTurn stage deadline body next) := by
  intro w cs o h c hc
  cases h with
  | stopped => simp at hc
  | inTurn b h h' => exact (Multiset.mem_add.1 hc).elim (hb _ _ _ h c) (hn _ _ _ _ h' c)
  | turnMissed _ _ h => exact hn _ _ _ _ h c hc
  | turnStopped h => exact hb _ _ _ h c hc

theorem both {left : Activity β} {right : Activity γ} {next : β → γ → Activity α}
    (hl : ChangesOnly R left) (hr : ChangesOnly R right) (hn : ∀ b c, ChangesOnly R (next b c)) :
    ChangesOnly R (both left right next) := by
  intro w cs o h c hc
  cases h with
  | stopped => simp at hc
  | both b d h h' h'' =>
    rcases Multiset.mem_add.1 hc with hc | hc
    · exact (Multiset.mem_add.1 hc).elim (hl _ _ _ h c) (hr _ _ _ h' c)
    · exact hn _ _ _ _ _ h'' c hc
  | bothStopped h h' => exact (Multiset.mem_add.1 hc).elim (hl _ _ _ h c) (hr _ _ _ h' c)

theorem bind {p : Activity α} {f : α → Activity β} (hp : ChangesOnly R p)
    (hf : ∀ a, ChangesOnly R (f a)) : ChangesOnly R (p >>= f) := by
  intro w cs o h c hc
  rcases runsThrough_of_runs_bind h with ⟨-, h⟩ | ⟨a, cs₁, cs₂, rfl, h₁, h₂⟩
  · exact hp _ _ _ h c hc
  · exact (Multiset.mem_add.1 hc).elim (hp _ _ _ h₁ c) (hf a _ _ _ h₂ c)

theorem pure (a : α) : ChangesOnly R (pure a : Activity α) := done a

theorem work {f : Resource → β × Resource} (hf : ∀ r, R r (f r).2) : ChangesOnly R (work f) :=
  update hf done

theorem modify {f : Resource → Resource} (hf : ∀ r, R r (f r)) : ChangesOnly R (modify f) :=
  update hf done

theorem read {f : Resource → β} (hR : ∀ r, R r r) : ChangesOnly R (read f) := update hR done

theorem cancelled : ChangesOnly R cancelled := isCancelled done

theorem clock : ChangesOnly R clock := now done

theorem pause (ms : Nat) : ChangesOnly R (pause ms) := now fun _ => waitUntil (done ())

theorem ask (r : Request) : ChangesOnly R (ask r) := call done

theorem before {deadline : Nat} {body : Activity β} (hb : ChangesOnly R body) :
    ChangesOnly R (before deadline body) := within hb done

theorem limited {ms : Nat} {body : Activity β} (hb : ChangesOnly R body) :
    ChangesOnly R (limited ms body) := now fun _ => within hb done

theorem guarded {body : Activity β} (hb : ChangesOnly R body) : ChangesOnly R (guarded body) :=
  unlessCancelled hb done

theorem serialized {ms : Nat} {body : Activity β} (hb : ChangesOnly R body) :
    ChangesOnly R (serialized ms body) := now fun _ => inTurn hb done

theorem all {ps : List (Activity β)} (hps : ∀ p ∈ ps, ChangesOnly R p) :
    ChangesOnly R (all ps) := by
  induction ps with
  | nil => exact done []
  | cons p ps ih =>
    exact both (hps p (by simp)) (ih fun q hq => hps q (by simp [hq])) fun b bs => done (b :: bs)

theorem map {p : Activity α} {f : α → β} (hp : ChangesOnly R p) : ChangesOnly R (f <$> p) := by
  rw [map_eq_pure_bind]
  exact hp.bind fun a => pure (f a)

theorem foldlM {step : β → ι → Activity β} {l : List ι}
    (hs : ∀ b, ∀ i ∈ l, ChangesOnly R (step b i)) (b : β) : ChangesOnly R (l.foldlM step b) := by
  induction l generalizing b with
  | nil => exact pure b
  | cons i l ih =>
    rw [List.foldlM_cons]
    exact (hs b i (by simp)).bind fun b' => ih (fun b j hj => hs b j (by simp [hj])) b'

theorem mapM {f : ι → Activity β} {l : List ι} (hf : ∀ i ∈ l, ChangesOnly R (f i)) :
    ChangesOnly R (l.mapM f) := by
  induction l with
  | nil =>
    rw [List.mapM_nil]
    exact pure []
  | cons i l ih =>
    rw [List.mapM_cons]
    exact (hf i (by simp)).bind fun b => (ih fun j hj => hf j (by simp [hj])).bind fun bs => pure _

theorem forM {f : ι → Activity PUnit} {l : List ι} (hf : ∀ i ∈ l, ChangesOnly R (f i)) :
    ChangesOnly R (l.forM f) := by
  induction l with
  | nil => exact pure _
  | cons i l ih => exact (hf i (by simp)).bind fun _ => ih fun j hj => hf j (by simp [hj])

theorem foldBefore {deadline : Nat} {step : β → ι → Activity β} {l : List ι}
    (hs : ∀ b, ∀ i ∈ l, ChangesOnly R (step b i)) (b : β) :
    ChangesOnly R (foldBefore deadline step l b) := by
  induction l generalizing b with
  | nil => exact pure _
  | cons i l ih =>
    refine within (hs b i (by simp)) fun o => ?_
    cases o with
    | none => exact pure _
    | some b' => exact ih (fun b j hj => hs b j (by simp [hj])) b'

end ChangesOnly

end Activity

end HardwareWatch
