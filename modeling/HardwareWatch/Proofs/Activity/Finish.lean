import HardwareWatch.Proofs.Activity.AtSite

/-!
# Activities one after the other

An activity that is not cancelled and that goes on at once leaves a result and a site. The two of one
activity after the other are those of the second one, begun at the site that the first one left.

* `Activity.finish` is the result and the site that are left.
* `Activity.poll_bind` says so of one instant, `Activity.finish_bind` of the activities up to their end.
* `Activity.runs_finish` says that there is a run with this result and these changes.
-/

namespace HardwareWatch.Activity

variable {σ α β : Type} {network : Network σ}

/-- Let an activity go on now, and then up to its end. -/
def finish (network : Network σ) (p : Activity α) (s : Site σ) : α × Site σ :=
  (p.poll network s).1.run network none (p.poll network s).2

/-! ## One instant -/

/-- What is left at the end of an instant of one activity after the other. -/
def andThen (network : Network σ) (left : Activity α × Site σ) (f : α → Activity β) :
    Activity β × Site σ :=
  match left.1.result? with
  | some a => (f a).poll network left.2
  | none => (left.1.bind f, left.2)

theorem andThen_done (a : α) (s : Site σ) (f : α → Activity β) :
    andThen network (done a, s) f = (f a).poll network s := rfl

theorem andThen_of_result? {p : Activity α} (hp : p.result? = none) (s : Site σ)
    (f : α → Activity β) : andThen network (p, s) f = (p.bind f, s) := by
  simp only [andThen, hp]

/-- **An instant** of one activity after the other: the second one goes on where the first one comes
to its end. -/
theorem poll_bind (p : Activity α) (f : α → Activity β) (s : Site σ) :
    (p.bind f).poll network s = andThen network (p.poll network s) f := by
  induction p generalizing s with
  | done a => rfl
  | update g next ih =>
    rw [bind, poll, poll]
    exact ih _ f _
  | isCancelled next ih =>
    rw [bind, poll, poll]
    exact ih _ f _
  | now next ih =>
    rw [bind, poll, poll]
    exact ih _ f _
  | waitUntil time next ih =>
    rw [bind, poll, poll]
    split
    · exact ih f s
    · rfl
  | call r pending next ih =>
    cases pending with
    | none =>
      rw [bind, poll, poll]
      dsimp only
      split
      · exact ih _ f _
      · rfl
    | some pending =>
      rw [bind, poll, poll]
      split
      · exact ih _ f _
      · rfl
  | within deadline body next _ ih =>
    rw [bind, poll, poll]
    dsimp only
    split
    · exact ih _ f _
    · split
      · exact ih _ f _
      · rfl
  | unlessCancelled body next _ ih =>
    rw [bind, poll, poll]
    split
    · exact ih _ f _
    · dsimp only
      split
      · exact ih _ f _
      · rfl
  | inTurn stage deadline body next _ ih =>
    rw [bind, poll, poll]
    dsimp only
    split
    · split
      · exact ih _ f _
      · rfl
    · split
      · exact ih _ f _
      · rfl
  | both left right next _ _ ih =>
    rw [bind, poll, poll]
    dsimp only
    split
    · exact ih _ _ f _
    · rw [andThen_of_result? rfl]
      rfl

theorem wake_bind {p : Activity α} (hp : p.result? = none) (f : α → Activity β) (s : Site σ) :
    (p.bind f).wake s = p.wake s := by
  cases p with
  | done a => cases hp
  | call r pending next => cases pending <;> rfl
  | _ => rfl

theorem result?_bind {p : Activity α} (hp : p.result? = none) (f : α → Activity β) :
    (p.bind f).result? = none := by
  cases p with
  | done a => cases hp
  | _ => rfl

/-! ## Up to the end -/

/-- An activity that has something left to do goes on when it wakes. -/
theorem run_eq_finish {p : Activity α} (hp : p.result? = none) (s : Site σ) :
    p.run network none s = p.finish network (s.atTime (max s.clock (p.wake s))) := by
  rw [run.eq_def]
  split
  · rename_i h
    rw [hp] at h
    cases h
  · rfl

/-- The same where the run is cancelled later. -/
theorem run_eq_run_poll {p : Activity α} {s : Site σ} {time : Nat} (hp : p.result? = none)
    (h : max s.clock (p.wake s) < time) :
    p.run network (some time) s =
      (p.poll network (s.atTime (max s.clock (p.wake s)))).1.run network (some time)
        (p.poll network (s.atTime (max s.clock (p.wake s)))).2 := by
  rw [run.eq_def]
  split
  · rename_i h
    rw [hp] at h
    cases h
  · exact if_neg (Nat.not_le_of_lt h)

/-- A run that is cancelled before the activity wakes. -/
theorem run_eq_run_cancelled {p : Activity α} {s : Site σ} {time : Nat} (hp : p.result? = none)
    (h : time ≤ max s.clock (p.wake s)) :
    p.run network (some time) s =
      p.run network none { s with clock := max s.clock time, cancelled := true } := by
  rw [run.eq_def]
  split
  · rename_i h
    rw [hp] at h
    cases h
  · exact if_pos h

/-- An activity that can go on at once. -/
theorem run_eq_finish_of_wake {p : Activity α} {s : Site σ} (hp : p.result? = none)
    (hwake : p.wake s = 0) : p.run network none s = p.finish network s := by
  rw [run_eq_finish hp, hwake, Nat.max_zero]
  rfl

/-- An activity that can come to its end at once. -/
theorem run_at_once {p : Activity α} {s : Site σ} {a : α} (hp : p.result? = none)
    (hwake : p.wake s = 0) (hpoll : (p.poll network s).1.result? = some a) :
    p.run network none s = (a, (p.poll network s).2) := by
  rw [run_eq_finish_of_wake hp hwake, finish, result?_eq_some_iff.1 hpoll, run_done]

/-- What is seen of the result of an activity that can come to its end at once. -/
theorem map_run_at_once {p : Activity α} {s : Site σ} {f : α → β} {b : β} (hp : p.result? = none)
    (hwake : p.wake s = 0) (h : (p.poll network s).1.result?.map f = some b) :
    f (p.run network none s).1 = b := by
  obtain ⟨a, ha, rfl⟩ := Option.map_eq_some_iff.1 h
  rw [run_at_once hp hwake ha]

theorem finish_done (a : α) (s : Site σ) : (done a).finish network s = (a, s) := run_done ..

theorem finish_pure (a : α) (s : Site σ) : (pure a : Activity α).finish network s = (a, s) :=
  finish_done a s

theorem finish_work (f : Resource → β × Resource) (s : Site σ) :
    (work f).finish network s = ((f s.resource).1, { s with resource := (f s.resource).2 }) :=
  finish_done ..

theorem finish_modify (f : Resource → Resource) (s : Site σ) :
    (modify f).finish network s = ((), { s with resource := f s.resource }) := finish_done ..

/-- What is left at the end of an instant, up to its end. -/
theorem run_andThen {left : Activity α × Site σ} {f : α → Activity β}
    (h : left.1.result? = none → (left.1.bind f).run network none left.2 =
      (f (left.1.run network none left.2).1).finish network (left.1.run network none left.2).2) :
    (andThen network left f).1.run network none (andThen network left f).2 =
      (f (left.1.run network none left.2).1).finish network (left.1.run network none left.2).2 := by
  obtain ⟨p, s⟩ := left
  cases hp : p.result? with
  | none =>
    rw [andThen_of_result? hp]
    exact h hp
  | some a =>
    rw [result?_eq_some_iff] at hp
    subst hp
    rw [andThen_done, run_done]
    rfl

theorem run_bind {p : Activity α} (hp : p.result? = none) (f : α → Activity β) (s : Site σ) :
    (p.bind f).run network none s =
      (f (p.run network none s).1).finish network (p.run network none s).2 := by
  generalize hc : (none : Option Nat) = cancelAt
  fun_induction run network cancelAt p s with
  | case1 p s cancelAt a h =>
    rw [hp] at h
    cases h
  | case2 p s h left ih =>
    rw [run_eq_finish (result?_bind hp f), wake_bind hp, finish, poll_bind]
    exact run_andThen fun hleft => ih hleft rfl
  | case3 => cases hc
  | case4 => cases hc

/-- **One activity after the other**: the second one begins at the site that the first one left. -/
theorem finish_bind (p : Activity α) (f : α → Activity β) (s : Site σ) :
    (p >>= f).finish network s =
      (f (p.finish network s).1).finish network (p.finish network s).2 := by
  change (p.bind f).finish network s = _
  rw [finish, poll_bind]
  exact run_andThen fun hleft => run_bind hleft f _

/-- There is a run with this result, by which the resource became what it is. -/
theorem runs_finish {w : Surroundings} (hw : w.Admits network) (p : Activity α) (s : Site σ)
    (hs : s.cancelled = true → w.mayBeCancelled) :
    ∃ ds, Path s.resource ds (p.finish network s).2.resource ∧
      Runs w p ds (some (p.finish network s).1) := by
  have hpoll := leadsTo_poll hw p s hs
  obtain ⟨ds, hds, hd⟩ := hpoll.runs
  obtain ⟨ds', hds', hrun⟩ := runs_run hw none (p.poll network s).1 (p.poll network s).2 fun h =>
    h.elim (fun hc => hs (hpoll.cancelled ▸ hc)) fun hne => absurd rfl hne
  exact ⟨ds + ds', hds.trans hds', hd _ _ hrun⟩

end HardwareWatch.Activity
