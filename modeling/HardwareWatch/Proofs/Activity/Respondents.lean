import HardwareWatch.Proofs.Activity.Runs

/-!
# Respondents

What an activity that asks extensions comes to is settled by what it is told: whether it gets its turn
in time, and what comes back on its requests in time, if anything does. A respondent tells it this,
and then nothing is left open.

* `Respondent` tells an activity what comes back, `Respondent.follow` is what the activity comes to.
* `Respondent.runs_follow` says that this is one of its runs.
* `Respondent.Finishes` says that an activity comes to its end whatever it is told.
* `Activity.Followed` says that all runs of an activity are the doings of respondents. It has a rule
  for every way to put probes together.
-/

namespace HardwareWatch

/-- What was done so far, from first to last: requests, and waits for a turn. -/
abbrev Deeds := List (Option Request)

/-- What an activity is told, given what it did before. -/
structure Respondent where
  /-- Whether it gets its turn in time. -/
  hasTurn : Deeds → Bool
  /-- What comes back on a request in time, if anything does. -/
  answer : Deeds → (r : Request) → Option (Except EngineError r.Answer)

namespace Respondent

/-- Nothing comes back. -/
def silent : Respondent := ⟨fun _ => true, fun _ _ => none⟩

/-- What an activity comes to that is not cancelled, if it comes to its end, and what it did up to
then. The clock stands still: no limit runs out but where nothing comes back. -/
def follow {α : Type} (b : Respondent) : Activity α → Deeds → Option α × Deeds
  | .done a, l => (some a, l)
  | .update _ _, l => (none, l)
  | .isCancelled next, l => b.follow (next false) l
  | .now next, l => b.follow (next 0) l
  | .waitUntil _ next, l => b.follow next l
  | .call r none next, l =>
    match b.answer l r with
    | some answer => b.follow (next answer) (l ++ [some r])
    | none => (none, l ++ [some r])
  | .call _ (some pending) next, l => b.follow (next pending.answer) l
  | .within _ body next, l =>
    let told := b.follow body l
    b.follow (next told.1) told.2
  | .unlessCancelled body next, l =>
    match b.follow body l with
    | (some c, l) => b.follow (next (some c)) l
    | (none, l) => (none, l)
  | .inTurn stage _ body next, l =>
    if stage.hasEntered || b.hasTurn l then
      match b.follow body (l ++ [none]) with
      | (some c, l) => b.follow (next (some c)) l
      | (none, l) => (none, l)
    else b.follow (next none) (l ++ [none])
  | .both _ _ _, l => (none, l)

variable {α β : Type} (b : Respondent)

theorem follow_bind (p : Activity α) (f : α → Activity β) (l : Deeds) :
    b.follow (p >>= f) l =
      match b.follow p l with
      | (some a, l) => b.follow (f a) l
      | (none, l) => (none, l) := by
  change b.follow (p.bind f) l = _
  induction p generalizing l with
  | done a => rfl
  | update => rfl
  | isCancelled next ih => exact ih false f l
  | now next ih => exact ih 0 f l
  | waitUntil _ next ih => exact ih f l
  | call r pending next ih =>
    cases pending with
    | none =>
      rw [Activity.bind, follow, follow]
      cases b.answer l r with
      | none => rfl
      | some answer => exact ih answer f _
    | some pending => exact ih pending.answer f l
  | within deadline body next _ ih =>
    rw [Activity.bind, follow, follow]
    exact ih _ f _
  | unlessCancelled body next _ ih =>
    rw [Activity.bind, follow, follow]
    cases b.follow body l with
    | mk o l =>
      cases o with
      | none => rfl
      | some c => exact ih _ f l
  | inTurn stage deadline body next _ ih =>
    rw [Activity.bind, follow, follow]
    split
    · cases b.follow body (l ++ [none]) with
      | mk o l =>
        cases o with
        | none => rfl
        | some c => exact ih _ f l
    · exact ih _ f _
  | both => rfl

theorem follow_ask (r : Request) (l : Deeds) :
    b.follow (Activity.ask r) l = (b.answer l r, l ++ [some r]) := by
  rw [Activity.ask, follow]
  cases b.answer l r <;> rfl

theorem follow_limited (ms : Nat) (p : Activity α) (l : Deeds) :
    b.follow (Activity.limited ms p) l = (some (b.follow p l).1, (b.follow p l).2) := rfl

/-- **What an activity is told leads to one of its runs.** -/
theorem runs_follow {p : Activity α} {l : Deeds} {a : α} (h : (b.follow p l).1 = some a) :
    Activity.Runs .uncancelled p 0 (some a) := by
  induction p generalizing l with
  | done a => exact Option.some.inj h ▸ .done
  | update => cases h
  | isCancelled next ih => exact .isCancelled false nofun (ih false h)
  | now next ih => exact .now 0 (ih 0 h)
  | waitUntil _ next ih => exact .waitUntil (ih h)
  | call r pending next ih =>
    cases pending with
    | none =>
      rw [follow] at h
      split at h
      · rename_i answer _
        exact .call answer trivial (ih answer h)
      · cases h
    | some pending => exact .call pending.answer rfl (ih _ h)
  | within deadline body next ihb ih =>
    rw [follow] at h
    rw [← add_zero (0 : Multiset Change)]
    cases hbody : (b.follow body l).1 with
    | none => exact .late trivial .stopped (ih none (hbody ▸ h))
    | some c => exact .within c (ihb hbody) (ih (some c) (hbody ▸ h))
  | unlessCancelled body next ihb ih =>
    rw [follow] at h
    split at h
    · rename_i c l' hbody
      rw [← add_zero (0 : Multiset Change)]
      exact .unlessCancelled c (ihb (congrArg Prod.fst hbody)) (ih (some c) h)
    · cases h
  | inTurn stage deadline body next ihb ih =>
    rw [follow] at h
    split at h
    · split at h
      · rename_i c l' hbody
        rw [← add_zero (0 : Multiset Change)]
        exact .inTurn c (ihb (congrArg Prod.fst hbody)) (ih (some c) h)
      · cases h
    · rename_i hturn
      rw [Bool.not_eq_true, Bool.or_eq_false_iff] at hturn
      exact .turnMissed hturn.1 trivial (ih none h)
  | both => cases h

/-! ## Activities that come to their end -/

/-- The activity comes to its end whatever it is told. -/
def Finishes (p : Activity α) : Prop :=
  ∀ (b : Respondent) (l : Deeds), ∃ a l', b.follow p l = (some a, l')

namespace Finishes

theorem pure (a : α) : Finishes (pure a) := fun _ l => ⟨a, l, rfl⟩

theorem bind {p : Activity α} {f : α → Activity β} (hp : Finishes p) (hf : ∀ a, Finishes (f a)) :
    Finishes (p >>= f) := by
  intro b l
  obtain ⟨a, l₁, hp⟩ := hp b l
  rw [follow_bind, hp]
  exact hf a b l₁

theorem cancelled : Finishes Activity.cancelled := fun _ l => ⟨false, l, rfl⟩

theorem pause (ms : Nat) : Finishes (Activity.pause ms) := fun _ l => ⟨(), l, rfl⟩

theorem limited (ms : Nat) (p : Activity α) : Finishes (Activity.limited ms p) :=
  fun b l => ⟨_, _, b.follow_limited ms p l⟩

theorem guarded {p : Activity α} (hp : Finishes p) : Finishes (Activity.guarded p) := by
  intro b l
  obtain ⟨a, l', hp⟩ := hp b l
  refine ⟨some a, l', ?_⟩
  rw [Activity.guarded, follow, hp]
  rfl

theorem serialized {p : Activity α} (hp : Finishes p) (ms : Nat) :
    Finishes (Activity.serialized ms p) := by
  intro b l
  obtain ⟨a, l', hp⟩ := hp b (l ++ [none])
  rw [Activity.serialized, follow, follow, hp]
  split
  · exact ⟨some a, l', rfl⟩
  · exact ⟨none, l ++ [none], rfl⟩

end Finishes

end Respondent

/-! ## All runs are told -/

namespace Respondent

/-- Two respondents tell the same from a number of deeds on up to another one. -/
def AgreesOn (b b' : Respondent) (m n : Nat) : Prop :=
  ∀ l : Deeds, m ≤ l.length → l.length < n → b.hasTurn l = b'.hasTurn l ∧ b.answer l = b'.answer l

theorem AgreesOn.mono {b b' : Respondent} {m m' n n' : Nat} (h : b.AgreesOn b' m n) (hm : m ≤ m')
    (hn : n' ≤ n) : b.AgreesOn b' m' n' :=
  fun l hl hl' => h l (hm.trans hl) (Nat.lt_of_lt_of_le hl' hn)

/-- One respondent up to a number of deeds, and another one from then on. -/
def upTo (n : Nat) (b b' : Respondent) : Respondent :=
  ⟨fun l => if l.length < n then b.hasTurn l else b'.hasTurn l,
    fun l => if l.length < n then b.answer l else b'.answer l⟩

theorem AgreesOn.left {b b₁ b₂ : Respondent} {m n n' : Nat}
    (h : b.AgreesOn (upTo n b₁ b₂) m n') (hn : n ≤ n') : b.AgreesOn b₁ m n := by
  intro l hl hl'
  have hsame := h l hl (Nat.lt_of_lt_of_le hl' hn)
  simp only [upTo, if_pos hl'] at hsame
  exact hsame

theorem AgreesOn.right {b b₁ b₂ : Respondent} {m n n' : Nat}
    (h : b.AgreesOn (upTo n b₁ b₂) m n') (hm : m ≤ n) : b.AgreesOn b₂ n n' := by
  intro l hl hl'
  have hsame := h l (hm.trans hl) hl'
  simp only [upTo, if_neg (Nat.not_lt.2 hl)] at hsame
  exact hsame

/-- The answer to one request comes back. -/
noncomputable def giving (r : Request) (answer : Except EngineError r.Answer) : Respondent :=
  open Classical in
  ⟨fun _ => true, fun _ r' => if h : r' = r then some (h ▸ answer) else none⟩

theorem answer_giving (r : Request) (answer : Except EngineError r.Answer) (l : Deeds) :
    (giving r answer).answer l r = some answer := dif_pos rfl

end Respondent

namespace Activity

open Respondent

/-- All runs of the activity are the doings of respondents, whatever was done before. What these
tell it is laid down as far as the activity goes. -/
def Followed (w : Surroundings) {α : Type} (p : Activity α) : Prop :=
  ∀ cs a, Runs w p cs (some a) → ∀ l : Deeds, ∃ b l', l.length ≤ l'.length ∧
    ∀ b' : Respondent, b'.AgreesOn b l.length l'.length → b'.follow p l = (some a, l')

namespace Followed

variable {w : Surroundings} {α β : Type}

theorem pure (a : α) : Followed w (pure a) := by
  intro cs a' h l
  obtain ⟨-, rfl⟩ := runs_pure_some_iff.1 h
  exact ⟨silent, l, le_rfl, fun _ _ => rfl⟩

theorem bind {p : Activity α} {f : α → Activity β} (hp : Followed w p)
    (hf : ∀ a, Followed w (f a)) : Followed w (p >>= f) := by
  intro cs c h l
  obtain ⟨a, _, _, -, hfirst, hrest⟩ := runs_bind_some_iff.1 h
  obtain ⟨b₁, l₁, hl₁, hb₁⟩ := hp _ _ hfirst l
  obtain ⟨b₂, l₂, hl₂, hb₂⟩ := hf a _ _ hrest l₁
  refine ⟨upTo l₁.length b₁ b₂, l₂, hl₁.trans hl₂, fun b hb => ?_⟩
  rw [follow_bind, hb₁ b (hb.left hl₂)]
  exact hb₂ b (hb.right hl₁)

theorem cancelled (hw : ¬w.mayBeCancelled) : Followed w cancelled := by
  intro cs a h l
  obtain ⟨-, ha⟩ := runs_cancelled_some_iff.1 h
  obtain rfl : a = false := Bool.eq_false_iff.2 fun h => hw (ha h)
  exact ⟨silent, l, le_rfl, fun _ _ => rfl⟩

theorem pause (ms : Nat) : Followed w (pause ms) :=
  fun _ _ _ l => ⟨silent, l, le_rfl, fun _ _ => rfl⟩

theorem limited_ask (ms : Nat) (r : Request) : Followed w (limited ms (ask r)) := by
  intro cs o h l
  have hlength : l.length < (l ++ [some r]).length := by simp
  cases h with
  | now t h =>
    cases h with
    | within answer hbody h =>
      cases h with
      | done =>
        refine ⟨giving r answer, l ++ [some r], hlength.le, fun b hb => ?_⟩
        have hanswer : b.answer l r = some answer :=
          (congrFun (hb l le_rfl hlength).2 r).trans (answer_giving r answer l)
        rw [follow_limited, follow_ask, hanswer]
    | late _ _ h =>
      cases h with
      | done =>
        refine ⟨silent, l ++ [some r], hlength.le, fun b hb => ?_⟩
        have hanswer : b.answer l r = none := congrFun (hb l le_rfl hlength).2 r
        rw [follow_limited, follow_ask, hanswer]

theorem guarded {p : Activity α} (hw : ¬w.mayBeCancelled) (hp : Followed w p) :
    Followed w (guarded p) := by
  intro cs o h l
  cases h with
  | unlessCancelled a hbody h =>
    cases h with
    | done =>
      obtain ⟨b, l', hl, hb⟩ := hp _ _ hbody l
      refine ⟨b, l', hl, fun b' hb' => ?_⟩
      rw [Activity.guarded, follow, hb b' hb']
      rfl
  | givenUp hc => exact absurd hc hw

theorem serialized {p : Activity α} (hp : Followed w p) (ms : Nat) :
    Followed w (serialized ms p) := by
  intro cs o h l
  have hlength : l.length < (l ++ [none]).length := by simp
  cases h with
  | now t h =>
    cases h with
    | inTurn a hbody h =>
      cases h with
      | done =>
        obtain ⟨b, l', hl, hb⟩ := hp _ _ hbody (l ++ [none])
        refine ⟨upTo (l ++ [none]).length ⟨fun _ => true, b.answer⟩ b, l',
          hlength.le.trans hl, fun b' hb' => ?_⟩
        have hturn : b'.hasTurn l = true := (hb'.left hl l le_rfl hlength).1
        rw [Activity.serialized, follow, follow, hturn, Bool.or_true, if_pos rfl,
          hb b' (hb'.right hlength.le)]
        rfl
    | turnMissed _ _ h =>
      cases h with
      | done =>
        refine ⟨⟨fun _ => false, silent.answer⟩, l ++ [none], hlength.le, fun b hb => ?_⟩
        have hturn : b.hasTurn l = false := (hb l le_rfl hlength).1
        rw [Activity.serialized, follow, follow, hturn]
        rfl

end Followed

end Activity

end HardwareWatch
