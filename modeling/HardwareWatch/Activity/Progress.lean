import HardwareWatch.Activity.Poll

/-!
# Progress of an activity

An activity that goes on comes nearer to its end: what is left of it follows it in a relation without
infinite descent. So an activity can be run to its end.

* `Activity.Follows` says that an activity is what is left of another one after some progress.
* `Activity.follows_wellFounded` says that there is no infinite progress.
* `Activity.poll_eq_or_follows` says that an instant without progress changes nothing.
* `Activity.follows_poll_of_wake_le` says that there is progress from the time `Activity.wake` on.
-/

namespace HardwareWatch

namespace Activity

/-- What can be left of an activity after some progress. -/
inductive Follows : {α : Type} → Activity α → Activity α → Prop
  | update {α β : Type} {f : Resource → β × Resource} {next : β → Activity α} (b : β) :
    Follows (next b) (update f next)
  | isCancelled {α : Type} {next : Bool → Activity α} (b : Bool) :
    Follows (next b) (isCancelled next)
  | now {α : Type} {next : Nat → Activity α} (t : Nat) : Follows (next t) (now next)
  | waitUntil {α : Type} {time : Nat} {next : Activity α} : Follows next (waitUntil time next)
  | begun {α : Type} {r : Request} {next : Except EngineError r.Answer → Activity α}
      (pending : Pending r) : Follows (call r (some pending) next) (call r none next)
  | answered {α : Type} {r : Request} {pending : Option (Pending r)}
      {next : Except EngineError r.Answer → Activity α} (answer : Except EngineError r.Answer) :
    Follows (next answer) (call r pending next)
  | withinBody {α β : Type} {deadline : Nat} {body left : Activity β}
      {next : Option β → Activity α} (h : Follows left body) :
    Follows (within deadline left next) (within deadline body next)
  | withinEnd {α β : Type} {deadline : Nat} {body : Activity β} {next : Option β → Activity α}
      (b : Option β) : Follows (next b) (within deadline body next)
  | guardedBody {α β : Type} {body left : Activity β} {next : Option β → Activity α}
      (h : Follows left body) : Follows (unlessCancelled left next) (unlessCancelled body next)
  | guardedEnd {α β : Type} {body : Activity β} {next : Option β → Activity α} (b : Option β) :
    Follows (next b) (unlessCancelled body next)
  | arrived {α β : Type} {ticket deadline : Nat} {body : Activity β}
      {next : Option β → Activity α} :
    Follows (inTurn (.waiting ticket) deadline body next) (inTurn .fresh deadline body next)
  | entered {α β : Type} {stage : TurnStage} {ticket deadline : Nat} {body : Activity β}
      {next : Option β → Activity α} (h : stage.hasEntered = false) :
    Follows (inTurn (.entered ticket) deadline body next) (inTurn stage deadline body next)
  | turnBody {α β : Type} {stage : TurnStage} {deadline : Nat} {body left : Activity β}
      {next : Option β → Activity α} (h : Follows left body) :
    Follows (inTurn stage deadline left next) (inTurn stage deadline body next)
  | turnEnd {α β : Type} {stage : TurnStage} {deadline : Nat} {body : Activity β}
      {next : Option β → Activity α} (b : Option β) :
    Follows (next b) (inTurn stage deadline body next)
  | left {α β γ : Type} {p left : Activity β} {q : Activity γ} {next : β → γ → Activity α}
      (h : Follows left p) : Follows (both left q next) (both p q next)
  | right {α β γ : Type} {p : Activity β} {q right : Activity γ} {next : β → γ → Activity α}
      (h : Follows right q) : Follows (both p right next) (both p q next)
  | bothEnd {α β γ : Type} {p : Activity β} {q : Activity γ} {next : β → γ → Activity α} (b : β)
      (c : γ) : Follows (next b c) (both p q next)

/-! ## No infinite progress -/

theorem acc_within {α β : Type} {deadline : Nat} {body : Activity β} {next : Option β → Activity α}
    (hb : Acc Follows body) (hn : ∀ b, Acc Follows (next b)) :
    Acc Follows (within deadline body next) := by
  induction hb with
  | intro body _ ih =>
    refine .intro _ fun q h => ?_
    cases h with
    | withinBody h => exact ih _ h
    | withinEnd b => exact hn b

theorem acc_unlessCancelled {α β : Type} {body : Activity β} {next : Option β → Activity α}
    (hb : Acc Follows body) (hn : ∀ b, Acc Follows (next b)) :
    Acc Follows (unlessCancelled body next) := by
  induction hb with
  | intro body _ ih =>
    refine .intro _ fun q h => ?_
    cases h with
    | guardedBody h => exact ih _ h
    | guardedEnd b => exact hn b

theorem acc_entered {α β : Type} {ticket deadline : Nat} {body : Activity β}
    {next : Option β → Activity α} (hb : Acc Follows body) (hn : ∀ b, Acc Follows (next b)) :
    Acc Follows (inTurn (.entered ticket) deadline body next) := by
  induction hb with
  | intro body _ ih =>
    refine .intro _ fun q h => ?_
    cases h with
    | entered h => cases h
    | turnBody h => exact ih _ h
    | turnEnd b => exact hn b

theorem acc_waiting {α β : Type} {ticket deadline : Nat} {body : Activity β}
    {next : Option β → Activity α} (hb : Acc Follows body) (hn : ∀ b, Acc Follows (next b)) :
    Acc Follows (inTurn (.waiting ticket) deadline body next) := by
  induction hb with
  | intro body hb ih =>
    refine .intro _ fun q h => ?_
    cases h with
    | entered _ => exact acc_entered (.intro body hb) hn
    | turnBody h => exact ih _ h
    | turnEnd b => exact hn b

theorem acc_fresh {α β : Type} {deadline : Nat} {body : Activity β} {next : Option β → Activity α}
    (hb : Acc Follows body) (hn : ∀ b, Acc Follows (next b)) :
    Acc Follows (inTurn .fresh deadline body next) := by
  induction hb with
  | intro body hb ih =>
    refine .intro _ fun q h => ?_
    cases h with
    | arrived => exact acc_waiting (.intro body hb) hn
    | entered _ => exact acc_entered (.intro body hb) hn
    | turnBody h => exact ih _ h
    | turnEnd b => exact hn b

theorem acc_both {α β γ : Type} {p : Activity β} {q : Activity γ} {next : β → γ → Activity α}
    (hp : Acc Follows p) (hq : Acc Follows q) (hn : ∀ b c, Acc Follows (next b c)) :
    Acc Follows (both p q next) := by
  induction hp generalizing q with
  | intro p _ ihp =>
    induction hq with
    | intro q hq ihq =>
      refine .intro _ fun r h => ?_
      cases h with
      | left h => exact ihp _ h (.intro q hq)
      | right h => exact ihq _ h
      | bothEnd b c => exact hn b c

theorem acc {α : Type} (p : Activity α) : Acc Follows p := by
  induction p with
  | done a => exact .intro _ fun q h => by cases h
  | update f next ih => exact .intro _ fun q h => by cases h with | update b => exact ih b
  | isCancelled next ih => exact .intro _ fun q h => by cases h with | isCancelled b => exact ih b
  | now next ih => exact .intro _ fun q h => by cases h with | now t => exact ih t
  | waitUntil time next ih => exact .intro _ fun q h => by cases h with | waitUntil => exact ih
  | call r pending next ih =>
    have hs : ∀ w : Pending r, Acc Follows (call r (some w) next) := fun w =>
      .intro _ fun q h => by cases h with | answered a => exact ih a
    refine .intro _ fun q h => ?_
    cases h with
    | begun w => exact hs w
    | answered a => exact ih a
  | within _ _ _ ihb ihn => exact acc_within ihb ihn
  | unlessCancelled _ _ ihb ihn => exact acc_unlessCancelled ihb ihn
  | inTurn stage _ _ _ ihb ihn =>
    cases stage with
    | fresh => exact acc_fresh ihb ihn
    | waiting => exact acc_waiting ihb ihn
    | entered => exact acc_entered ihb ihn
  | both _ _ _ ihp ihq ihn => exact acc_both ihp ihq ihn

/-- There is no infinite progress. -/
theorem follows_wellFounded {α : Type} : WellFounded (@Follows α) := ⟨acc⟩

/-! ## Time stands still at an instant -/

variable {σ : Type}

@[simp] theorem clock_abandon {α : Type} (p : Activity α) (s : Site σ) :
    (p.abandon s).clock = s.clock := by
  induction p generalizing s with
  | call r pending _ _ => cases pending <;> rfl
  | within _ _ _ ihb _ => exact ihb s
  | unlessCancelled _ _ ihb _ => exact ihb s
  | inTurn stage _ _ _ ihb _ => cases stage <;> first | rfl | exact ihb s
  | both _ _ _ ihl ihr _ => exact (ihr _).trans (ihl s)
  | _ => rfl

@[simp] theorem clock_arrive (stage : TurnStage) (s : Site σ) :
    (stage.arrive s).clock = s.clock := by
  cases stage <;> rfl

variable (network : Network σ)

@[simp] theorem clock_poll {α : Type} (p : Activity α) (s : Site σ) :
    (p.poll network s).2.clock = s.clock := by
  induction p generalizing s with
  | done a => rfl
  | update f next ih => exact ih _ _
  | isCancelled next ih => exact ih _ _
  | now next ih => exact ih _ _
  | waitUntil time next ih =>
    rw [poll]
    split
    · exact ih s
    · rfl
  | call r pending next ih =>
    cases pending with
    | none =>
      rw [poll]
      dsimp only
      split
      · exact ih _ _
      · rfl
    | some w =>
      rw [poll]
      split
      · exact ih _ _
      · rfl
  | within deadline body next ihb ihn =>
    rw [poll]
    dsimp only
    split
    · rw [ihn, ihb]
    · split
      · rw [ihn, clock_abandon, ihb]
      · exact ihb s
  | unlessCancelled body next ihb ihn =>
    rw [poll]
    split
    · rw [ihn, clock_abandon]
    · dsimp only
      split
      · rw [ihn, ihb]
      · exact ihb s
  | inTurn stage deadline body next ihb ihn =>
    rw [poll]
    dsimp only
    split
    · split
      · exact (ihn _ _).trans ((ihb _).trans (clock_arrive stage s))
      · exact (ihb _).trans (clock_arrive stage s)
    · split
      · exact (ihn _ _).trans (clock_arrive stage s)
      · exact clock_arrive stage s
  | both left right next ihl ihr ihn =>
    rw [poll]
    dsimp only
    split
    · rw [ihn, ihr, ihl]
    · rw [ihr, ihl]

/-! ## Progress at an instant -/

open Relation (TransGen)

/-- What is left of an activity after at least one step of progress. -/
abbrev FollowsSome {α : Type} (q p : Activity α) : Prop := TransGen Follows q p

theorem followsSome_of_follows {α : Type} {p q r : Activity α} (h : Follows q p)
    (hr : r = q ∨ FollowsSome r q) : FollowsSome r p := by
  rcases hr with rfl | hr
  · exact .single h
  · exact hr.tail h

theorem followsSome_map {α β : Type} {f : Activity β → Activity α}
    (hf : ∀ {q p}, Follows q p → Follows (f q) (f p)) {q p : Activity β} (h : FollowsSome q p) :
    FollowsSome (f q) (f p) := by
  induction h with
  | single h => exact .single (hf h)
  | tail _ h ih => exact ih.tail (hf h)

theorem FollowsSome.trans {α : Type} {p q r : Activity α} (h : FollowsSome r q)
    (h' : FollowsSome q p) : FollowsSome r p := Relation.TransGen.trans h h'

/-- An activity that does nothing at an instant leaves everything as it is. -/
theorem poll_eq_or_follows {α : Type} (p : Activity α) (s : Site σ) :
    p.poll network s = (p, s) ∨ FollowsSome (p.poll network s).1 p := by
  induction p generalizing s with
  | done a => exact .inl rfl
  | update f next ih =>
    exact .inr (followsSome_of_follows (.update _) ((ih _ _).imp_left fun h => by rw [poll, h]))
  | isCancelled next ih =>
    exact .inr (followsSome_of_follows (.isCancelled _)
      ((ih _ _).imp_left fun h => by rw [poll, h]))
  | now next ih =>
    exact .inr (followsSome_of_follows (.now _) ((ih _ _).imp_left fun h => by rw [poll, h]))
  | waitUntil time next ih =>
    rw [poll]
    split
    · exact .inr (followsSome_of_follows .waitUntil ((ih _).imp_left fun h => by rw [h]))
    · exact .inl rfl
  | call r pending next ih =>
    cases pending with
    | none =>
      rw [poll]
      dsimp only
      split
      · exact .inr (followsSome_of_follows (.answered _) ((ih _ _).imp_left fun h => by rw [h]))
      · exact .inr (.single (.begun _))
    | some w =>
      rw [poll]
      split
      · exact .inr (followsSome_of_follows (.answered _) ((ih _ _).imp_left fun h => by rw [h]))
      · exact .inl rfl
  | within deadline body next ihb ihn =>
    rw [poll]
    dsimp only
    have lift : ∀ {q : Activity _}, FollowsSome q body →
        FollowsSome (within deadline q next) (within deadline body next) :=
      followsSome_map (f := fun q => within deadline q next) .withinBody
    split
    · exact .inr (followsSome_of_follows (.withinEnd _) ((ihn _ _).imp_left fun h => by rw [h]))
    · split
      · exact .inr (followsSome_of_follows (.withinEnd _) ((ihn _ _).imp_left fun h => by rw [h]))
      · rcases ihb s with h | h
        · exact .inl (by rw [h])
        · exact .inr (lift h)
  | unlessCancelled body next ihb ihn =>
    rw [poll]
    split
    · exact .inr (followsSome_of_follows (.guardedEnd _) ((ihn _ _).imp_left fun h => by rw [h]))
    · dsimp only
      split
      · exact .inr (followsSome_of_follows (.guardedEnd _) ((ihn _ _).imp_left fun h => by rw [h]))
      · rcases ihb s with h | h
        · exact .inl (by rw [h])
        · exact .inr (followsSome_map (f := fun q => unlessCancelled q next) .guardedBody h)
  | inTurn stage deadline body next ihb ihn =>
    rw [poll]
    dsimp only
    split
    · split
      · exact .inr (followsSome_of_follows (.turnEnd _) ((ihn _ _).imp_left fun h => by rw [h]))
      · have lift : ∀ {q : Activity _}, FollowsSome q body →
            FollowsSome (inTurn (.entered (stage.ticket s.turns)) deadline q next)
              (inTurn (.entered (stage.ticket s.turns)) deadline body next) :=
          followsSome_map (f := fun q => inTurn (.entered _) deadline q next) .turnBody
        cases hs : stage.hasEntered with
        | true =>
          cases stage with
          | fresh => cases hs
          | waiting ticket => cases hs
          | entered ticket => exact (ihb s).imp (fun h => by simp only [TurnStage.arrive, h]; rfl) lift
        | false =>
          rcases ihb (stage.arrive s) with h | h
          · rw [h]
            exact .inr (.single (.entered hs))
          · exact .inr ((lift h).tail (.entered hs))
    · split
      · exact .inr (followsSome_of_follows (.turnEnd _) ((ihn _ _).imp_left fun h => by rw [h]))
      · cases stage with
        | fresh => exact .inr (.single .arrived)
        | waiting ticket => exact .inl rfl
        | entered ticket => simp_all [TurnStage.hasEntered]
  | both left right next ihl ihr ihn =>
    rw [poll]
    dsimp only
    split
    · exact .inr (followsSome_of_follows (.bothEnd _ _) ((ihn _ _ _).imp_left fun h => by rw [h]))
    · have liftLeft : ∀ {p : Activity _}, FollowsSome p left →
          FollowsSome (both p right next) (both left right next) :=
        followsSome_map (f := fun p => both p right next) .left
      have liftRight : ∀ {p : Activity _} {q : Activity _}, FollowsSome q right →
          FollowsSome (both p q next) (both p right next) :=
        fun {p} {q} => followsSome_map (f := fun q => both p q next) .right
      rcases ihl s with hl | hl
      · rw [hl]
        rcases ihr s with hr | hr
        · exact .inl (by rw [hr])
        · exact .inr (liftRight hr)
      · rcases ihr (left.poll network s).2 with hr | hr
        · rw [hr]
          exact .inr (liftLeft hl)
        · exact .inr ((liftRight hr).trans (liftLeft hl))

theorem poll_done {α : Type} (a : α) (s : Site σ) : (done a).poll network s = (done a, s) := rfl

theorem followsSome_poll {α : Type} {p q : Activity α} (h : Follows q p) (s : Site σ) :
    FollowsSome (q.poll network s).1 p :=
  followsSome_of_follows h ((poll_eq_or_follows network q s).imp_left fun h => by rw [h])

theorem result?_eq_none_of_poll {α : Type} {p : Activity α} {s : Site σ}
    (h : (p.poll network s).1.result? = none) : p.result? = none := by
  cases p with
  | done a => exact h
  | _ => rfl

theorem followsSome_poll_unentered {α β : Type} {stage : TurnStage} {deadline : Nat}
    {body : Activity β} {next : Option β → Activity α} {s : Site σ} (hs : stage.hasEntered = false)
    (h : stage = .fresh ∨ s.turns.isFirst (stage.ticket s.turns) = true ∨ deadline ≤ s.clock) :
    FollowsSome ((inTurn stage deadline body next).poll network s).1
      (inTurn stage deadline body next) := by
  rw [poll]
  dsimp only
  split
  · split
    · exact followsSome_poll network (.turnEnd _) _
    · exact followsSome_of_follows (.entered hs)
        ((poll_eq_or_follows network body (stage.arrive s)).imp (fun h => by rw [h])
          (followsSome_map (f := fun q => inTurn (.entered _) deadline q next) .turnBody))
  · split
    · exact followsSome_poll network (.turnEnd _) _
    · rename_i hf hd
      cases stage with
      | fresh => exact .single .arrived
      | entered ticket => cases hs
      | waiting ticket =>
        rcases h with h | h | h
        · cases h
        · exact absurd (by simp only [TurnStage.arrive, h, Bool.or_true]) hf
        · exact absurd h hd

/-- From the time at which an activity wakes there is progress. -/
theorem follows_poll_of_wake_le {α : Type} {p : Activity α} {s : Site σ} (hp : p.result? = none)
    (h : p.wake s ≤ s.clock) : FollowsSome (p.poll network s).1 p := by
  induction p generalizing s with
  | done a => cases hp
  | update f next _ => exact followsSome_poll network (.update _) _
  | isCancelled next _ => exact followsSome_poll network (.isCancelled _) _
  | now next _ => exact followsSome_poll network (.now _) _
  | waitUntil time next _ =>
    rw [wake] at h
    rw [poll, if_pos h]
    exact followsSome_poll network .waitUntil s
  | call r pending next _ =>
    cases pending with
    | none =>
      rw [poll]
      dsimp only
      split
      · exact followsSome_poll network (.answered _) _
      · exact .single (.begun _)
    | some w =>
      rw [wake] at h
      rw [poll, if_pos h]
      exact followsSome_poll network (.answered _) _
  | within deadline body next ihb _ =>
    rw [poll]
    dsimp only
    split
    · exact followsSome_poll network (.withinEnd _) _
    · rename_i hb
      split
      · exact followsSome_poll network (.withinEnd _) _
      · rename_i hd
        rw [wake] at h
        exact followsSome_map (f := fun q => within deadline q next) .withinBody
          (ihb (result?_eq_none_of_poll network hb) (by rw [clock_poll] at hd; omega))
  | unlessCancelled body next ihb _ =>
    rw [wake] at h
    rw [poll]
    split
    · exact followsSome_poll network (.guardedEnd _) _
    · rename_i hc
      rw [if_neg hc] at h
      dsimp only
      split
      · exact followsSome_poll network (.guardedEnd _) _
      · rename_i hb
        exact followsSome_map (f := fun q => unlessCancelled q next) .guardedBody
          (ihb (result?_eq_none_of_poll network hb) h)
  | inTurn stage deadline body next ihb _ =>
    cases hs : stage.hasEntered with
    | true =>
      cases stage with
      | fresh => cases hs
      | waiting ticket => cases hs
      | entered ticket =>
        rw [wake, if_pos hs] at h
        rw [poll]
        dsimp only
        rw [if_pos (by rw [hs]; rfl)]
        split
        · exact followsSome_poll network (.turnEnd _) _
        · rename_i hb
          exact followsSome_map (f := fun q => inTurn (.entered ticket) deadline q next) .turnBody
            (ihb (result?_eq_none_of_poll network hb) h)
    | false =>
      cases stage with
      | entered ticket => cases hs
      | fresh => exact followsSome_poll_unentered network hs (.inl rfl)
      | waiting ticket =>
        rw [wake, if_neg (by rw [hs]; exact Bool.false_ne_true)] at h
        refine followsSome_poll_unentered network hs (.inr ?_)
        split at h
        · rename_i hf
          exact .inl (by simpa using hf)
        · exact .inr h
  | both left right next ihl ihr _ =>
    rw [poll]
    dsimp only
    split
    · exact followsSome_poll network (.bothEnd _ _) _
    · rename_i hd
      have liftLeft : ∀ {p : Activity _}, FollowsSome p left →
          FollowsSome (both p right next) (both left right next) :=
        followsSome_map (f := fun p => both p right next) .left
      have liftRight : ∀ {p : Activity _} {q : Activity _}, FollowsSome q right →
          FollowsSome (both p q next) (both p right next) :=
        fun {p} {q} => followsSome_map (f := fun q => both p q next) .right
      have hl : (left.poll network s = (left, s) ∧
          (left.result? = none → ¬ left.wake s ≤ s.clock)) ∨
          FollowsSome (left.poll network s).1 left := by
        by_cases hw : left.result? = none ∧ left.wake s ≤ s.clock
        · exact .inr (ihl hw.1 hw.2)
        · exact (poll_eq_or_follows network left s).imp_left fun h => ⟨h, fun h' hw' => hw ⟨h', hw'⟩⟩
      rcases hl with ⟨hl, hw⟩ | hl
      · rw [hl] at hd ⊢
        refine liftRight ?_
        rw [wake] at h
        cases hlr : left.result? with
        | none =>
          have hw := hw hlr
          cases hrr : right.result? with
          | none =>
            simp only [hlr, hrr] at h
            exact ihr hrr (show right.wake s ≤ s.clock by omega)
          | some c =>
            simp only [hlr, hrr] at h
            exact absurd h hw
        | some b =>
          cases hrr : right.result? with
          | none =>
            simp only [hlr, hrr] at h
            exact ihr hrr h
          | some c =>
            rw [result?_eq_some_iff] at hrr
            subst hrr
            exact absurd rfl (hd b c hlr)
      · rcases poll_eq_or_follows network right (left.poll network s).2 with hr | hr
        · rw [hr]
          exact liftLeft hl
        · exact (liftRight hr).trans (liftLeft hl)

end Activity

end HardwareWatch
