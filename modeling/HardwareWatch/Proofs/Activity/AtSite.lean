import HardwareWatch.Activity.Run
import HardwareWatch.Proofs.Activity.Runs

/-!
# The runs of an activity at a site

An activity that is run at a site, with a network that answers and a clock that moves on, comes to one
of its runs, and the resource of the site goes through the changes of this run.

* `Surroundings.Admits` says that the answers of a network are possible.
* `Path` leads from one resource to another through changes.
* `Activity.leadsTo_poll` is about one instant: a run of what is left of the activity is the rest of a
  run of the activity.
* `Activity.runs_run` is about an activity that is run to its end.
-/

namespace HardwareWatch

variable {σ α : Type} {w : Surroundings} {network : Network σ}

/-- The answers of a network are possible, and so is it that they come late. -/
def Surroundings.Admits (w : Surroundings) (network : Network σ) : Prop :=
  w.mayBeLate ∧ ∀ r s, w.answers r (network r s).1.answer

theorem Surroundings.any_admits (network : Network σ) : any.Admits network :=
  ⟨trivial, fun _ _ => trivial⟩

/-- What may happen where a network answers: its answers come back, in time or not, and the run may be
cancelled if it can be. -/
def Surroundings.around (network : Network σ) (mayBeCancelled : Prop) : Surroundings :=
  ⟨fun r answer => ∃ s, answer = (network r s).1.answer, True, mayBeCancelled⟩

theorem Surroundings.around_admits (network : Network σ) (mayBeCancelled : Prop) :
    (around network mayBeCancelled).Admits network :=
  ⟨trivial, fun _ s => ⟨s, rfl⟩⟩

/-- A resource becomes another one through changes. -/
inductive Path : Resource → Multiset Change → Resource → Prop
  | refl (r : Resource) : Path r 0 r
  | step {r r' : Resource} {cs : Multiset Change} (h : Path r cs r') (r'' : Resource) :
    Path r (cs + {(r', r'')}) r''

namespace Path

theorem single (r r' : Resource) : Path r {(r, r')} r' := by
  have h := step (refl r) r'
  rwa [zero_add] at h

theorem trans {r r' r'' : Resource} {cs ds : Multiset Change} (h : Path r cs r')
    (h' : Path r' ds r'') : Path r (cs + ds) r'' := by
  induction h' with
  | refl =>
    rw [add_zero]
    exact h
  | step _ r'' ih =>
    rw [← add_assoc]
    exact .step ih r''

/-- Changes of one kind lead to a resource that this kind of change can lead to. -/
theorem reflTransGen {R : Resource → Resource → Prop} {r r' : Resource} {cs : Multiset Change}
    (h : Path r cs r') (hcs : ∀ c ∈ cs, R c.1 c.2) : Relation.ReflTransGen R r r' := by
  induction h with
  | refl => exact .refl
  | step _ r'' ih =>
    exact .tail (ih fun c hc => hcs c (Multiset.mem_add.2 (.inl hc)))
      (hcs (_, r'') (Multiset.mem_add.2 (.inr (Multiset.mem_singleton_self _))))

end Path

namespace Activity

/-! ## One instant -/

/-- With some changes before them, the runs of an activity are runs of another one. -/
def Continues (w : Surroundings) (p q : Activity α) (ds : Multiset Change) : Prop :=
  ∀ cs o, Runs w q cs o → Runs w p (ds + cs) o

namespace Continues

variable {p q : Activity α} {ds : Multiset Change}

theorem stopped (h : Continues w p q ds) : Runs w p ds none := by
  rw [← add_zero ds]
  exact h 0 none .stopped

theorem done {a : α} (h : Continues w p q ds) (hq : q = done a) : Runs w p ds (some a) := by
  rw [← add_zero ds]
  exact h 0 (some a) (hq ▸ .done)

/-! A part that goes on is a whole that goes on. -/

variable {β γ : Type} {body left : Activity β} {right right' : Activity γ} {ds' : Multiset Change}

protected theorem within {next : Option β → Activity α} (deadline : Nat)
    (h : Continues w body left ds) :
    Continues w (within deadline body next) (within deadline left next) ds := by
  intro cs o hr
  cases hr with
  | stopped =>
    rw [add_zero]
    exact .withinStopped h.stopped
  | within b hb hr =>
    rw [← add_assoc]
    exact .within b (h _ _ hb) hr
  | late hl hb hr =>
    rw [← add_assoc]
    exact .late hl (h _ _ hb) hr
  | withinStopped hb => exact .withinStopped (h _ _ hb)

protected theorem unlessCancelled {next : Option β → Activity α} (h : Continues w body left ds) :
    Continues w (unlessCancelled body next) (unlessCancelled left next) ds := by
  intro cs o hr
  cases hr with
  | stopped =>
    rw [add_zero]
    exact .guardedStopped h.stopped
  | unlessCancelled b hb hr =>
    rw [← add_assoc]
    exact .unlessCancelled b (h _ _ hb) hr
  | givenUp hc hb hr =>
    rw [← add_assoc]
    exact .givenUp hc (h _ _ hb) hr
  | guardedStopped hb => exact .guardedStopped (h _ _ hb)

/-- What has its turn does not miss it any more. -/
protected theorem inTurn {next : Option β → Activity α} (stage : TurnStage) (ticket deadline : Nat)
    (h : Continues w body left ds) :
    Continues w (inTurn stage deadline body next)
      (inTurn (.entered ticket) deadline left next) ds := by
  intro cs o hr
  cases hr with
  | stopped =>
    rw [add_zero]
    exact .turnStopped h.stopped
  | inTurn b hb hr =>
    rw [← add_assoc]
    exact .inTurn b (h _ _ hb) hr
  | turnMissed hs => cases hs
  | turnStopped hb => exact .turnStopped (h _ _ hb)

protected theorem both {next : β → γ → Activity α} {left' : Activity β}
    (h : Continues w left left' ds) (h' : Continues w right right' ds') :
    Continues w (both left right next) (both left' right' next) (ds + ds') := by
  intro cs o hr
  cases hr with
  | stopped =>
    rw [add_zero]
    exact .bothStopped h.stopped h'.stopped
  | both b c hl hr hn =>
    rw [← add_assoc, add_add_add_comm]
    exact .both b c (h _ _ hl) (h' _ _ hr) hn
  | bothStopped hl hr =>
    rw [add_add_add_comm]
    exact .bothStopped (h _ _ hl) (h' _ _ hr)

end Continues

/-- An activity at a site becomes another one at another site, by the beginning of a run. -/
structure LeadsTo (w : Surroundings) (p : Activity α) (s : Site σ) (q : Activity α) (s' : Site σ) :
    Prop where
  cancelled : s'.cancelled = s.cancelled
  runs : ∃ ds, Path s.resource ds s'.resource ∧ Continues w p q ds

namespace LeadsTo

variable {p q q' : Activity α} {s s₁ s' : Site σ}

theorem refl (p : Activity α) (s : Site σ) : LeadsTo w p s p s :=
  ⟨rfl, 0, .refl _, fun cs o h => by rwa [zero_add]⟩

/-- A step that changes neither the resource nor whether the run is cancelled. -/
theorem of_runs (hr : s'.resource = s.resource) (hc : s'.cancelled = s.cancelled)
    (hp : ∀ cs o, Runs w q cs o → Runs w p cs o) : LeadsTo w p s q s' := by
  refine ⟨hc, 0, hr ▸ .refl _, fun cs o h => ?_⟩
  rw [zero_add]
  exact hp cs o h

theorem trans (h : LeadsTo w p s q s₁) (h' : LeadsTo w q s₁ q' s') : LeadsTo w p s q' s' := by
  obtain ⟨ds, hds, hp⟩ := h.runs
  obtain ⟨ds', hds', hq⟩ := h'.runs
  refine ⟨h'.cancelled.trans h.cancelled, ds + ds', hds.trans hds', fun cs o hr => ?_⟩
  rw [add_assoc]
  exact hp _ _ (hq cs o hr)

/-- A step of a part is a step of the whole. -/
theorem lift {β : Type} {body left : Activity β} (h : LeadsTo w body s left s')
    (hp : ∀ ds, Continues w body left ds → Continues w p q ds) : LeadsTo w p s q s' := by
  obtain ⟨ds, hds, hb⟩ := h.runs
  exact ⟨h.cancelled, ds, hds, hp ds hb⟩

/-- Steps of two parts, one after the other, are a step of the whole. -/
theorem lift_both {β γ : Type} {left left' : Activity β} {right right' : Activity γ}
    (h : LeadsTo w left s left' s₁) (h' : LeadsTo w right s₁ right' s')
    (hp : ∀ ds ds', Continues w left left' ds → Continues w right right' ds' →
      Continues w p q (ds + ds')) : LeadsTo w p s q s' := by
  obtain ⟨ds, hds, hl⟩ := h.runs
  obtain ⟨ds', hds', hr⟩ := h'.runs
  exact ⟨h'.cancelled.trans h.cancelled, ds + ds', hds.trans hds', hp ds ds' hl hr⟩

end LeadsTo

@[simp] theorem resource_abandon (p : Activity α) (s : Site σ) :
    (p.abandon s).resource = s.resource := by
  induction p generalizing s with
  | call r pending _ _ => cases pending <;> rfl
  | within _ _ _ ihb _ => exact ihb s
  | unlessCancelled _ _ ihb _ => exact ihb s
  | inTurn stage _ _ _ ihb _ => cases stage <;> first | rfl | exact ihb s
  | both _ _ _ ihl ihr _ => exact (ihr _).trans (ihl s)
  | _ => rfl

@[simp] theorem cancelled_abandon (p : Activity α) (s : Site σ) :
    (p.abandon s).cancelled = s.cancelled := by
  induction p generalizing s with
  | call r pending _ _ => cases pending <;> rfl
  | within _ _ _ ihb _ => exact ihb s
  | unlessCancelled _ _ ihb _ => exact ihb s
  | inTurn stage _ _ _ ihb _ => cases stage <;> first | rfl | exact ihb s
  | both _ _ _ ihl ihr _ => exact (ihr _).trans (ihl s)
  | _ => rfl

theorem LeadsTo.leaveQueue (p : Activity α) (s : Site σ) (ticket : Nat) :
    LeadsTo w p s p (s.leaveQueue ticket) := .of_runs rfl rfl fun _ _ h => h

theorem LeadsTo.abandon {β : Type} (p : Activity β) (q : Activity α) (s : Site σ) :
    LeadsTo w p s p (q.abandon s) :=
  .of_runs (resource_abandon q s) (cancelled_abandon q s) fun _ _ h => h

@[simp] theorem resource_arrive (stage : TurnStage) (s : Site σ) :
    (stage.arrive s).resource = s.resource := by
  cases stage <;> rfl

@[simp] theorem cancelled_arrive (stage : TurnStage) (s : Site σ) :
    (stage.arrive s).cancelled = s.cancelled := by
  cases stage <;> rfl

/-- **What is left of an activity after an instant** has the rests of runs of the activity. -/
theorem leadsTo_poll (hw : w.Admits network) (p : Activity α) (s : Site σ)
    (hs : s.cancelled = true → w.mayBeCancelled) :
    LeadsTo w p s (p.poll network s).1 (p.poll network s).2 := by
  induction p generalizing s with
  | done a => exact .refl _ s
  | update f next ih =>
    rw [poll]
    refine .trans ?_ (ih _ _ (by exact hs))
    exact ⟨rfl, _, .single s.resource (f s.resource).2, fun cs o h => .update s.resource h⟩
  | isCancelled next ih =>
    rw [poll]
    exact .trans (.of_runs rfl rfl fun cs o h => .isCancelled _ hs h) (ih _ s hs)
  | now next ih =>
    rw [poll]
    exact .trans (.of_runs rfl rfl fun cs o h => .now _ h) (ih _ s hs)
  | waitUntil time next ih =>
    rw [poll]
    split
    · exact .trans (.of_runs rfl rfl fun cs o h => .waitUntil h) (ih s hs)
    · exact .refl _ s
  | call r pending next ih =>
    cases pending with
    | none =>
      rw [poll]
      dsimp only
      have hanswer := hw.2 r s.network
      split
      · refine .trans ?_ (ih _ _ (by exact hs))
        exact .of_runs rfl rfl fun cs o h => .call _ hanswer h
      · refine .of_runs rfl rfl fun cs o h => ?_
        cases h with
        | stopped => exact .stopped
        | call answer ha h => exact .call answer (ha ▸ hanswer) h
    | some pending =>
      rw [poll]
      split
      · refine .trans ?_ (ih _ _ (by exact hs))
        exact .of_runs rfl rfl fun cs o h => .call _ rfl h
      · exact .refl _ s
  | within deadline body next ihb ihn =>
    rw [poll]
    dsimp only
    have hbody := ihb s hs
    have hs' : (body.poll network s).2.cancelled = true → w.mayBeCancelled := hbody.cancelled ▸ hs
    split
    · rename_i b hb
      rw [result?_eq_some_iff] at hb
      refine .trans (.lift hbody fun ds hd cs o h => ?_) (ihn _ _ hs')
      exact .within b (hd.done hb) h
    · split
      · refine .trans (.lift hbody fun ds hd cs o h => ?_) (.trans (.abandon _ _ _)
          (ihn none _ (by rwa [cancelled_abandon])))
        exact .late hw.1 hd.stopped h
      · exact .lift hbody fun ds hd => hd.within deadline
  | unlessCancelled body next ihb ihn =>
    rw [poll]
    split
    · rename_i hc
      refine .trans (.trans ?_ (.abandon (next none) body s))
        (ihn none _ (by rwa [cancelled_abandon]))
      refine .of_runs rfl rfl fun cs o h => ?_
      rw [← zero_add cs]
      exact .givenUp (hs hc) .stopped h
    · dsimp only
      have hbody := ihb s hs
      have hs' : (body.poll network s).2.cancelled = true → w.mayBeCancelled :=
        hbody.cancelled ▸ hs
      split
      · rename_i b hb
        rw [result?_eq_some_iff] at hb
        refine .trans (.lift hbody fun ds hd cs o h => ?_) (ihn _ _ hs')
        exact .unlessCancelled b (hd.done hb) h
      · exact .lift hbody fun ds hd => hd.unlessCancelled
  | inTurn stage deadline body next ihb ihn =>
    rw [poll]
    dsimp only
    have harrive : LeadsTo w body s body (stage.arrive s) :=
      .of_runs (resource_arrive stage s) (cancelled_arrive stage s) fun _ _ h => h
    have hs₁ : (stage.arrive s).cancelled = true → w.mayBeCancelled := by
      rwa [cancelled_arrive]
    split
    · have hbody := harrive.trans (ihb _ hs₁)
      have hs' : (body.poll network (stage.arrive s)).2.cancelled = true → w.mayBeCancelled :=
        hbody.cancelled ▸ hs
      split
      · rename_i b hb
        rw [result?_eq_some_iff] at hb
        refine .trans (.lift hbody fun ds hd cs o h => ?_) (.trans (.leaveQueue _ _ _)
          (ihn _ _ (by exact hs')))
        exact .inTurn b (hd.done hb) h
      · exact .lift hbody fun ds hd => hd.inTurn stage _ deadline
    · rename_i hstage
      have hentered : stage.hasEntered = false := by
        cases h : stage.hasEntered with
        | false => rfl
        | true => simp [h] at hstage
      split
      · have hmissed : LeadsTo w (inTurn stage deadline body next) s (next none) (stage.arrive s) :=
          .of_runs (resource_arrive stage s) (cancelled_arrive stage s) fun cs o h =>
            .turnMissed hentered hw.1 h
        exact hmissed.trans (.trans (.leaveQueue _ _ _) (ihn none _ (by exact hs₁)))
      · refine .of_runs (resource_arrive stage s) (cancelled_arrive stage s) fun cs o h => ?_
        cases h with
        | stopped => exact .stopped
        | inTurn b hb h => exact .inTurn b hb h
        | turnMissed _ hl h => exact .turnMissed hentered hl h
        | turnStopped hb => exact .turnStopped hb
  | both left right next ihl ihr ihn =>
    rw [poll]
    dsimp only
    have hleft := ihl s hs
    have hs₁ : (left.poll network s).2.cancelled = true → w.mayBeCancelled := hleft.cancelled ▸ hs
    have hright := ihr _ hs₁
    have hs' : (right.poll network (left.poll network s).2).2.cancelled = true →
        w.mayBeCancelled := hright.cancelled ▸ hs₁
    split
    · rename_i b c hb hc
      rw [result?_eq_some_iff] at hb hc
      refine .trans (.lift_both hleft hright fun ds ds' hd hd' cs o h => ?_) (ihn _ _ _ hs')
      exact .both b c (hd.done hb) (hd'.done hc) h
    · exact .lift_both hleft hright fun ds ds' hd hd' => hd.both hd'

/-! ## Up to the end -/

/-- **A run of an activity to its end** is one of its runs. -/
theorem runs_run (hw : w.Admits network) (cancelAt : Option Nat) (p : Activity α) (s : Site σ)
    (hs : s.cancelled = true ∨ cancelAt ≠ none → w.mayBeCancelled) :
    ∃ ds, Path s.resource ds (p.run network cancelAt s).2.resource ∧
      Runs w p ds (some (p.run network cancelAt s).1) := by
  fun_induction run network cancelAt p s with
  | case1 p s cancelAt a hp =>
    rw [result?_eq_some_iff] at hp
    subst hp
    exact ⟨0, .refl _, .done⟩
  | case2 p s hp left ih =>
    have hpoll := leadsTo_poll hw p (s.atTime (max s.clock (p.wake s))) fun hc => hs (.inl hc)
    obtain ⟨ds, hds, hd⟩ := hpoll.runs
    obtain ⟨ds', hds', hrun⟩ := ih fun h => hs (h.imp_left fun hc => hpoll.cancelled ▸ hc)
    exact ⟨ds + ds', hds.trans hds', hd _ _ hrun⟩
  | case3 p s hp time hlt ih =>
    exact ih fun _ => hs (.inr (Option.some_ne_none _))
  | case4 p s hp time hlt left ih =>
    have hpoll := leadsTo_poll hw p (s.atTime (max s.clock (p.wake s))) fun hc => hs (.inl hc)
    obtain ⟨ds, hds, hd⟩ := hpoll.runs
    obtain ⟨ds', hds', hrun⟩ := ih fun h => hs (h.imp_left fun hc => hpoll.cancelled ▸ hc)
    exact ⟨ds + ds', hds.trans hds', hd _ _ hrun⟩

/-- An activity that is cancelled before it begins, and that can come to its end at once. -/
theorem run_cancelled_at_once {p : Activity α} {s : Site σ} {a : α} (hp : p.result? = none)
    (hwake : p.wake { s with cancelled := true } = 0)
    (hpoll : (p.poll network { s with cancelled := true }).1 = done a) :
    p.run network (some 0) s = (a, (p.poll network { s with cancelled := true }).2) := by
  rw [run.eq_def]
  split
  · rename_i h
    rw [hp] at h
    cases h
  · dsimp only
    rw [if_pos (Nat.zero_le _), Nat.max_zero, run.eq_def]
    split
    · rename_i h
      rw [hp] at h
      cases h
    · dsimp only
      rw [hwake, Nat.max_zero]
      change (poll network p { s with cancelled := true }).1.run network none _ = _
      rw [hpoll, run_done]
      rfl

/-- The changes of a run to the end are of the kind of the activity's changes. -/
theorem reflTransGen_run {R : Resource → Resource → Prop} {p : Activity α} (hp : ChangesOnly R p)
    (network : Network σ) (cancelAt : Option Nat) (s : Site σ) :
    Relation.ReflTransGen R s.resource (p.run network cancelAt s).2.resource := by
  obtain ⟨ds, hds, hrun⟩ := runs_run (Surroundings.any_admits network) cancelAt p s fun _ => trivial
  exact hds.reflTransGen (hp _ _ _ hrun)

/-- What is left of an activity after an instant makes the same kind of changes. -/
theorem ChangesOnly.poll {R : Resource → Resource → Prop} {p : Activity α} (hp : ChangesOnly R p)
    (network : Network σ) (s : Site σ) :
    Relation.ReflTransGen R s.resource (p.poll network s).2.resource ∧
      ChangesOnly R (p.poll network s).1 := by
  have hpoll := leadsTo_poll (Surroundings.any_admits network) p s fun _ => trivial
  obtain ⟨ds, hds, hd⟩ := hpoll.runs
  refine ⟨hds.reflTransGen fun c hc => hp _ _ _ hd.stopped c hc, fun w cs o h c hc => ?_⟩
  exact hp _ _ _ (hd _ _ (h.any)) c (Multiset.mem_add.2 (.inr hc))

end Activity

end HardwareWatch
