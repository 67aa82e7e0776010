import HardwareWatch.Proofs.Activity.Finish
import HardwareWatch.Proofs.Activity.Moves

/-!
# Moves at a site

An activity that is run at a site comes to its result by moves, with nobody else there.

* `Activity.overruns` says whether a limit of time runs out at one instant.
* `Activity.going_poll` is about one instant, `Activity.ends_run` about an activity that is run to
  its end.
* `Activity.exists_runs_run` says that nothing was cancelled on the way if the site is not cancelled
  in the end.
* `Activity.InTime` says that no limit of time runs out before the end, `Activity.InTime.ends_run`
  that no move is late then. `Activity.endsInTime` computes this for some instants.
-/

namespace HardwareWatch.Activity

variable {w : Surroundings} {α β γ σ : Type} {p q : Activity α} {a : α} {r r' r'' : Resource}

/-- Whether a limit of time runs out while an activity goes on at one instant. -/
def overruns {α : Type} (network : Network σ) : Activity α → Site σ → Bool
  | done _, _ => false
  | update f next, s =>
    (next (f s.resource).1).overruns network { s with resource := (f s.resource).2 }
  | isCancelled next, s => (next s.cancelled).overruns network s
  | now next, s => (next s.clock).overruns network s
  | waitUntil time next, s => decide (time ≤ s.clock) && next.overruns network s
  | call r none next, s =>
    let (reply, s) := begin network r s
    decide (reply.delayMs = 0) && (next reply.answer).overruns network (s.record .finished r)
  | call r (some pending) next, s =>
    decide (pending.due ≤ s.clock)
      && (next pending.answer).overruns network (s.record .finished r)
  | within deadline body next, s =>
    let left := body.poll network s
    body.overruns network s || match left.1.result? with
      | some b => (next (some b)).overruns network left.2
      | none => decide (deadline ≤ left.2.clock)
  | unlessCancelled body next, s =>
    if s.cancelled then (next none).overruns network (body.abandon s)
    else
      let left := body.poll network s
      body.overruns network s || match left.1.result? with
        | some b => (next (some b)).overruns network left.2
        | none => false
  | inTurn stage deadline body next, s =>
    let ticket := stage.ticket s.turns
    let s := stage.arrive s
    if stage.hasEntered || s.turns.isFirst ticket then
      let left := body.poll network s
      body.overruns network s || match left.1.result? with
        | some b => (next (some b)).overruns network (left.2.leaveQueue ticket)
        | none => false
    else decide (deadline ≤ s.clock)
  | both left right next, s =>
    let first := left.poll network s
    let second := right.poll network first.2
    left.overruns network s || right.overruns network first.2 ||
      match first.1.result?, second.1.result? with
      | some b, some c => (next b c).overruns network second.2
      | _, _ => false

variable {network : Network σ}

/-- Some moves of an activity, with nobody else there. -/
def Going (w : Surroundings) (c c' : Activity α × Resource) : Prop :=
  Relation.ReflTransGen (fun c c' => Moves w c.1 c.2 c'.1 c'.2) c c'

namespace Going

/-- Moves of a part are moves of the whole. -/
theorem lift {c : Activity β → Activity α}
    (hc : ∀ {p r q r'}, Moves w p r q r' → Moves w (c p) r (c q) r') {p q : Activity β}
    (h : Going w (p, r) (q, r')) : Going w (c p, r) (c q, r') :=
  Relation.ReflTransGen.lift (fun x : Activity β × Resource => (c x.1, x.2)) (fun _ _ => hc) _ _ h

theorem ends (h : Going w (p, r) (q, r')) (h' : Ends w E q r' a r'') : Ends w E p r a r'' := by
  generalize hc : (p, r) = c at h
  generalize hc' : (q, r') = c' at h
  induction h using Relation.ReflTransGen.head_induction_on generalizing p r with
  | refl =>
    obtain ⟨rfl, rfl⟩ := Prod.mk.inj (hc.trans hc'.symm)
    exact h'
  | head h _ ih =>
    subst hc
    exact .move h (ih rfl)

end Going

@[simp] theorem cancelled_poll (p : Activity α) (s : Site σ) :
    (p.poll network s).2.cancelled = s.cancelled :=
  (leadsTo_poll (Surroundings.any_admits network) p s fun _ => trivial).cancelled

/-- **An instant** of an activity at a site is some moves. -/
theorem going_poll (hw : ∀ r s, w.answers r (network r s).1.answer) (p : Activity α) (s : Site σ)
    (hs : s.cancelled = true → w.mayBeCancelled) (hl : p.overruns network s = true → w.mayBeLate) :
    Going w (p, s.resource) ((p.poll network s).1, (p.poll network s).2.resource) := by
  induction p generalizing s with
  | done a => exact .refl
  | update f next ih =>
    rw [overruns] at hl
    exact .head .update (ih _ _ hs hl)
  | isCancelled next ih =>
    rw [overruns] at hl
    exact .head (.isCancelled _ hs) (ih _ s hs hl)
  | now next ih =>
    rw [overruns] at hl
    exact .head (.now _) (ih _ s hs hl)
  | waitUntil time next ih =>
    rw [overruns] at hl
    rw [poll]
    split
    · rename_i hdue
      exact .head .waitUntil (ih s hs fun h => hl (by simp [hdue, h]))
    · exact .refl
  | call q pending next ih =>
    cases pending with
    | none =>
      rw [overruns] at hl
      rw [poll]
      dsimp only at hl ⊢
      have hanswer : w.MayAnswer none (network q s.network).1.answer := hw q s.network
      split
      · rename_i hnow
        exact .head (.answered _ hanswer) (ih _ _ hs fun h => hl (by simp [hnow, h]))
      · exact .single (.begun _ hanswer)
    | some pending =>
      rw [overruns] at hl
      rw [poll]
      split
      · rename_i hdue
        have hanswer : w.MayAnswer (some pending) pending.answer := rfl
        exact .head (.answered _ hanswer) (ih _ _ hs fun h => hl (by simp [hdue, h]))
      · exact .refl
  | within deadline body next ihb ihn =>
    rw [overruns] at hl
    rw [poll]
    dsimp only at hl ⊢
    have hbody := Going.lift (c := fun q => within deadline q next) .withinBody
      (ihb s hs fun h => hl (by simp [h]))
    split
    · rename_i b hb
      rw [hb] at hl
      rw [result?_eq_some_iff.1 hb] at hbody
      exact hbody.trans (.head (.withinEnd b)
        (ihn _ _ (by rwa [cancelled_poll]) fun h => hl (by simp [h])))
    · split
      · rename_i hb hdue
        have hlate := hl (by simp only [hb, decide_eq_true hdue, Bool.or_true])
        have hrest := ihn none ((body.poll network s).1.abandon (body.poll network s).2)
          (by rwa [cancelled_abandon, cancelled_poll]) fun _ => hlate
        rw [resource_abandon] at hrest
        exact hbody.trans (.head (.late hlate) hrest)
      · exact hbody
  | unlessCancelled body next ihb ihn =>
    rw [overruns] at hl
    rw [poll]
    split
    · rename_i hc
      rw [if_pos hc] at hl
      have hrest := ihn none (body.abandon s) (by rwa [cancelled_abandon]) hl
      rw [resource_abandon] at hrest
      exact .head (.givenUp (hs hc)) hrest
    · rename_i hc
      rw [if_neg hc] at hl
      dsimp only at hl ⊢
      have hbody := Going.lift (c := fun q => unlessCancelled q next) .guardedBody
        (ihb s hs fun h => hl (by simp [h]))
      split
      · rename_i b hb
        rw [hb] at hl
        rw [result?_eq_some_iff.1 hb] at hbody
        exact hbody.trans (.head (.guardedEnd b)
          (ihn _ _ (by rwa [cancelled_poll]) fun h => hl (by simp [h])))
      · exact hbody
  | inTurn stage deadline body next ihb ihn =>
    rw [overruns] at hl
    rw [poll]
    dsimp only at hl ⊢
    have hs₁ : (stage.arrive s).cancelled = true → w.mayBeCancelled := by rwa [cancelled_arrive]
    split
    · rename_i hturn
      rw [if_pos hturn] at hl
      have henter : Going w (inTurn stage deadline body next, s.resource)
          (inTurn (.entered (stage.ticket s.turns)) deadline body next,
            (stage.arrive s).resource) := by
        rw [resource_arrive]
        cases stage with
        | fresh => exact .single (.entered _ rfl)
        | waiting ticket => exact .single (.entered _ rfl)
        | entered ticket => exact .refl
      have hbody := henter.trans (Going.lift (c := fun q => inTurn (.entered _) deadline q next)
        .turnBody (ihb _ hs₁ fun h => hl (by simp [h])))
      split
      · rename_i b hb
        rw [hb] at hl
        rw [result?_eq_some_iff.1 hb] at hbody
        exact hbody.trans (.head (.turnEnd b)
          (ihn _ _ (by exact (cancelled_poll body _).symm ▸ hs₁) fun h => hl (by simp [h])))
      · exact hbody
    · rename_i hturn
      rw [if_neg hturn] at hl
      have hentered : stage.hasEntered = false := by
        cases h : stage.hasEntered with
        | false => rfl
        | true => simp [h] at hturn
      rw [← resource_arrive stage s]
      split
      · rename_i hdue
        have hlate := hl (decide_eq_true hdue)
        exact .head (.turnMissed hentered hlate) (ihn none _ (by exact hs₁) fun _ => hlate)
      · exact .single (.arrived _ hentered)
  | both left right next ihl ihr ihn =>
    rw [overruns] at hl
    rw [poll]
    dsimp only at hl ⊢
    have hleft := Going.lift (c := fun q => both q right next) .left
      (ihl s hs fun h => hl (by simp [h]))
    have hs₁ : (left.poll network s).2.cancelled = true → w.mayBeCancelled := by
      rwa [cancelled_poll]
    have hboth := hleft.trans (Going.lift (c := fun q => both _ q next) .right
      (ihr _ hs₁ fun h => hl (by simp [h])))
    split
    · rename_i b c hb hc
      rw [hb, hc] at hl
      rw [result?_eq_some_iff.1 hb, result?_eq_some_iff.1 hc] at hboth
      exact hboth.trans (.head (.bothEnd b c)
        (ihn _ _ _ (by rwa [cancelled_poll]) fun h => hl (by simp [h])))
    · exact hboth

/-! ## Cancellations -/

/-- A run that was cancelled stays cancelled. -/
theorem cancelled_run {cancelAt : Option Nat} {p : Activity α} {s : Site σ}
    (hs : s.cancelled = true) : (p.run network cancelAt s).2.cancelled = true := by
  fun_induction run network cancelAt p s with
  | case1 => exact hs
  | case2 p s hp left ih => exact ih ((cancelled_poll p _).trans hs)
  | case3 p s hp time hlt ih => exact ih rfl
  | case4 p s hp time hlt left ih => exact ih ((cancelled_poll p _).trans hs)

/-- A run that is not cancelled in the end goes as if it was never to be cancelled. -/
theorem run_eq_run_none {cancelAt : Option Nat} {p : Activity α} {s : Site σ}
    (h : (p.run network cancelAt s).2.cancelled = false) :
    p.run network cancelAt s = p.run network none s := by
  fun_induction run network cancelAt p s with
  | case1 p s cancelAt a hp =>
    rw [result?_eq_some_iff] at hp
    rw [hp, run_done]
  | case2 p s hp left ih => rw [ih h, run_eq_finish hp, finish]
  | case3 p s hp time hlt ih => exact absurd (h.symm.trans (cancelled_run rfl)) Bool.false_ne_true
  | case4 p s hp time hlt left ih => rw [ih h, run_eq_finish hp, finish]

/-- **A run of an activity to its end** is one of its runs, and the run was not cancelled if it is not
cancelled in the end. -/
theorem exists_runs_run (network : Network σ) (cancelAt : Option Nat) (p : Activity α)
    (s : Site σ) :
    ∃ cs, Runs (.around network ((p.run network cancelAt s).2.cancelled = true)) p cs
      (some (p.run network cancelAt s).1) := by
  cases h : (p.run network cancelAt s).2.cancelled with
  | true =>
    obtain ⟨cs, -, hruns⟩ := runs_run (Surroundings.around_admits network (true = true)) cancelAt p s
      fun _ => rfl
    exact ⟨cs, hruns⟩
  | false =>
    have hnone := run_eq_run_none h
    rw [hnone] at h ⊢
    obtain ⟨cs, -, hruns⟩ := runs_run (Surroundings.around_admits network (false = true)) none p s
      fun hs => hs.elim (fun hs => h.symm.trans (cancelled_run hs)) fun hne => absurd rfl hne
    exact ⟨cs, hruns⟩
/-! ## Up to the end -/

/-- No limit of time runs out while an activity that is not cancelled is run at a site. -/
inductive InTime (network : Network σ) {α : Type} : Activity α → Site σ → Prop
  | done (a : α) (s : Site σ) : InTime network (done a) s
  | instant {p : Activity α} {s : Site σ}
      (hnow : p.overruns network (s.atTime (max s.clock (p.wake s))) = false)
      (hlater : InTime network (p.poll network (s.atTime (max s.clock (p.wake s)))).1
        (p.poll network (s.atTime (max s.clock (p.wake s)))).2) : InTime network p s

/-- Whether an activity comes to its end within some instants, while no limit of time runs out. -/
def endsInTime (network : Network σ) {α : Type} : Nat → Activity α → Site σ → Bool
  | 0, p, _ => p.result?.isSome
  | n + 1, p, s =>
    let s := s.atTime (max s.clock (p.wake s))
    p.result?.isSome || !p.overruns network s &&
      endsInTime network n (p.poll network s).1 (p.poll network s).2

theorem inTime_of_endsInTime {n : Nat} {p : Activity α} {s : Site σ}
    (h : endsInTime network n p s = true) : InTime network p s := by
  have hdone {p : Activity α} {s : Site σ} (hp : p.result?.isSome = true) : InTime network p s := by
    obtain ⟨a, ha⟩ := Option.isSome_iff_exists.1 hp
    exact result?_eq_some_iff.1 ha ▸ .done a s
  induction n generalizing p s with
  | zero => exact hdone h
  | succ n ih =>
    rw [endsInTime, Bool.or_eq_true, Bool.and_eq_true, Bool.not_eq_true'] at h
    exact h.elim hdone fun h => .instant h.1 (ih h.2)

/-- **An activity that is run at a site** comes to its end by moves. -/
theorem ends_run (hw : w.Admits network) (cancelAt : Option Nat) (p : Activity α) (s : Site σ)
    (hs : s.cancelled = true ∨ cancelAt ≠ none → w.mayBeCancelled) :
    Ends w Alone p s.resource (p.run network cancelAt s).1
      (p.run network cancelAt s).2.resource := by
  fun_induction run network cancelAt p s with
  | case1 p s cancelAt a hp => exact result?_eq_some_iff.1 hp ▸ .done a _
  | case2 p s hp left ih =>
    refine (going_poll hw.2 p (s.atTime (max s.clock (p.wake s))) (fun hc => hs (.inl hc))
      fun _ => hw.1).ends (ih fun h => hs (h.imp_left fun hc => ?_))
    rwa [cancelled_poll] at hc
  | case3 p s hp time hlt ih => exact ih fun _ => hs (.inr (Option.some_ne_none _))
  | case4 p s hp time hlt left ih =>
    refine (going_poll hw.2 p (s.atTime (max s.clock (p.wake s))) (fun hc => hs (.inl hc))
      fun _ => hw.1).ends (ih fun h => hs (h.imp_left fun hc => ?_))
    rwa [cancelled_poll] at hc

/-- **An activity that is run in time** comes to its end by moves that are not late. -/
theorem InTime.ends_run {s : Site σ} (h : InTime network p s)
    (hw : ∀ r s, w.answers r (network r s).1.answer)
    (hs : s.cancelled = true → w.mayBeCancelled) :
    Ends w Alone p s.resource (p.run network none s).1 (p.run network none s).2.resource := by
  induction h with
  | done a s => exact run_done network none a s ▸ .done a _
  | @instant p s hnow _ ih =>
    cases hp : p.result? with
    | some a =>
      obtain rfl := result?_eq_some_iff.1 hp
      exact run_done network none a s ▸ .done a _
    | none =>
      have hs' : (s.atTime (max s.clock (p.wake s))).cancelled = true → w.mayBeCancelled := hs
      rw [run_eq_finish hp]
      refine (going_poll hw p (s.atTime (max s.clock (p.wake s))) hs' fun h => ?_).ends
        (ih (by rwa [cancelled_poll]))
      exact absurd (hnow.symm.trans h) Bool.false_ne_true

end HardwareWatch.Activity
