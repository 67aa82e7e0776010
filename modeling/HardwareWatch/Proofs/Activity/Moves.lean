import HardwareWatch.Proofs.Activity.AtSite

/-!
# The moves of an activity

An activity goes on in small moves, and between two of them others can change the resource of the
host. Parts that are done at the same time move in any order.

* `Activity.Moves` is one move of an activity.
* `Activity.Ends` says that an activity comes to a result, amid changes of others of some kind. It
  can be taken apart where one activity comes after the other (`Activity.ends_bind_iff`).
* `Activity.Ends.runs` says that the moves make up a run, so that what is known of all runs is known
  here.
-/

namespace HardwareWatch.Activity

variable {w : Surroundings} {α β γ σ : Type}

/-- One move of an activity, with the resource before and after it. A part that waits for its turn
is not begun before it has the turn, and then it does not miss it any more. -/
inductive Moves (w : Surroundings) :
    {α : Type} → Activity α → Resource → Activity α → Resource → Prop
  | update {α β : Type} {f : Resource → β × Resource} {next : β → Activity α} {r : Resource} :
    Moves w (update f next) r (next (f r).1) (f r).2
  | isCancelled {α : Type} {next : Bool → Activity α} {r : Resource} (b : Bool)
      (hb : b = true → w.mayBeCancelled) : Moves w (isCancelled next) r (next b) r
  | now {α : Type} {next : Nat → Activity α} {r : Resource} (t : Nat) :
    Moves w (now next) r (next t) r
  | waitUntil {α : Type} {time : Nat} {next : Activity α} {r : Resource} :
    Moves w (waitUntil time next) r next r
  | begun {α : Type} {q : Request} {next : Except EngineError q.Answer → Activity α} {r : Resource}
      (pending : Pending q) (ha : w.answers q pending.answer) :
    Moves w (call q none next) r (call q (some pending) next) r
  | answered {α : Type} {q : Request} {pending : Option (Pending q)}
      {next : Except EngineError q.Answer → Activity α} {r : Resource}
      (answer : Except EngineError q.Answer) (ha : w.MayAnswer pending answer) :
    Moves w (call q pending next) r (next answer) r
  | withinBody {α β : Type} {deadline : Nat} {body left : Activity β} {next : Option β → Activity α}
      {r r' : Resource} (h : Moves w body r left r') :
    Moves w (within deadline body next) r (within deadline left next) r'
  | withinEnd {α β : Type} {deadline : Nat} {next : Option β → Activity α} {r : Resource} (b : β) :
    Moves w (within deadline (done b) next) r (next (some b)) r
  | late {α β : Type} {deadline : Nat} {body : Activity β} {next : Option β → Activity α}
      {r : Resource} (hl : w.mayBeLate) : Moves w (within deadline body next) r (next none) r
  | guardedBody {α β : Type} {body left : Activity β} {next : Option β → Activity α}
      {r r' : Resource} (h : Moves w body r left r') :
    Moves w (unlessCancelled body next) r (unlessCancelled left next) r'
  | guardedEnd {α β : Type} {next : Option β → Activity α} {r : Resource} (b : β) :
    Moves w (unlessCancelled (done b) next) r (next (some b)) r
  | givenUp {α β : Type} {body : Activity β} {next : Option β → Activity α} {r : Resource}
      (hc : w.mayBeCancelled) : Moves w (unlessCancelled body next) r (next none) r
  | arrived {α β : Type} {stage : TurnStage} {deadline : Nat} {body : Activity β}
      {next : Option β → Activity α} {r : Resource} (ticket : Nat)
      (hs : stage.hasEntered = false) :
    Moves w (inTurn stage deadline body next) r (inTurn (.waiting ticket) deadline body next) r
  | entered {α β : Type} {stage : TurnStage} {deadline : Nat} {body : Activity β}
      {next : Option β → Activity α} {r : Resource} (ticket : Nat)
      (hs : stage.hasEntered = false) :
    Moves w (inTurn stage deadline body next) r (inTurn (.entered ticket) deadline body next) r
  | turnBody {α β : Type} {ticket deadline : Nat} {body left : Activity β}
      {next : Option β → Activity α} {r r' : Resource} (h : Moves w body r left r') :
    Moves w (inTurn (.entered ticket) deadline body next) r
      (inTurn (.entered ticket) deadline left next) r'
  | turnEnd {α β : Type} {ticket deadline : Nat} {next : Option β → Activity α} {r : Resource}
      (b : β) : Moves w (inTurn (.entered ticket) deadline (done b) next) r (next (some b)) r
  | turnMissed {α β : Type} {stage : TurnStage} {deadline : Nat} {body : Activity β}
      {next : Option β → Activity α} {r : Resource} (hs : stage.hasEntered = false)
      (hl : w.mayBeLate) : Moves w (inTurn stage deadline body next) r (next none) r
  | left {α β γ : Type} {left left' : Activity β} {right : Activity γ} {next : β → γ → Activity α}
      {r r' : Resource} (h : Moves w left r left' r') :
    Moves w (both left right next) r (both left' right next) r'
  | right {α β γ : Type} {left : Activity β} {right right' : Activity γ}
      {next : β → γ → Activity α} {r r' : Resource} (h : Moves w right r right' r') :
    Moves w (both left right next) r (both left right' next) r'
  | bothEnd {α β γ : Type} {next : β → γ → Activity α} {r : Resource} (b : β) (c : γ) :
    Moves w (both (done b) (done c) next) r (next b c) r

theorem not_moves_done {a : α} {q : Activity α} {r r' : Resource} : ¬Moves w (done a) r q r' := nofun

/-- Nobody else is there to change the resource. -/
abbrev Alone : Resource → Resource → Prop := fun _ _ => False

theorem reflTransGen_alone_iff {r r' : Resource} :
    Relation.ReflTransGen Alone r r' ↔ r' = r := by
  constructor
  · intro h
    cases h with
    | refl => rfl
    | tail _ h => exact h.elim
  · rintro rfl
    exact .refl

/-- What every change keeps is kept by all of them together. -/
theorem keeps_of_reflTransGen {R : Resource → Resource → Prop} {P : Resource → Prop}
    (hR : ∀ r s, R r s → P r → P s) {r s : Resource} (h : Relation.ReflTransGen R r s) (hr : P r) :
    P s := by
  induction h with
  | refl => exact hr
  | tail _ hstep ih => exact hR _ _ hstep ih

/-- What no change touches is the same after all of them. -/
theorem eq_of_reflTransGen {β : Type} {R : Resource → Resource → Prop} (f : Resource → β)
    (hR : ∀ r s, R r s → f s = f r) {r s : Resource} (h : Relation.ReflTransGen R r s) :
    f s = f r :=
  keeps_of_reflTransGen (P := fun s => f s = f r) (fun r s hstep => (hR r s hstep).trans) h rfl

/-- An activity comes to a result by moves, amid changes of others of some kind, and the resource
becomes another one. -/
inductive Ends (w : Surroundings) (E : Resource → Resource → Prop) :
    {α : Type} → Activity α → Resource → α → Resource → Prop
  | done {α : Type} (a : α) (r : Resource) : Ends w E (done a) r a r
  | move {α : Type} {p q : Activity α} {r r' r'' : Resource} {a : α} (h : Moves w p r q r')
      (h' : Ends w E q r' a r'') : Ends w E p r a r''
  | meanwhile {α : Type} {p : Activity α} {r r' r'' : Resource} {a : α} (h : E r r')
      (h' : Ends w E p r' a r'') : Ends w E p r a r''

variable {E F : Resource → Resource → Prop} {p q : Activity α} {f : α → Activity β} {a : α} {b : β}
  {r r' r'' : Resource}

/-! ## One activity after the other -/

theorem Moves.bind (h : Moves w p r q r') (f : α → Activity β) :
    Moves w (p.bind f) r (q.bind f) r' := by
  cases h with
  | update => exact .update
  | isCancelled b hb => exact .isCancelled b hb
  | now t => exact .now t
  | waitUntil => exact .waitUntil
  | begun pending ha => exact .begun pending ha
  | answered answer ha => exact .answered answer ha
  | withinBody h => exact .withinBody h
  | withinEnd b => exact .withinEnd b
  | late hl => exact .late hl
  | guardedBody h => exact .guardedBody h
  | guardedEnd b => exact .guardedEnd b
  | givenUp hc => exact .givenUp hc
  | arrived ticket hs => exact .arrived ticket hs
  | entered ticket hs => exact .entered ticket hs
  | turnBody h => exact .turnBody h
  | turnEnd b => exact .turnEnd b
  | turnMissed hs hl => exact .turnMissed hs hl
  | left h => exact .left h
  | right h => exact .right h
  | bothEnd b c => exact .bothEnd b c

/-- As long as the first of two activities has something left to do, it is the one that moves. -/
theorem moves_bind {q : Activity β} (hp : p.result? = none) (h : Moves w (p.bind f) r q r') :
    ∃ p', q = p'.bind f ∧ Moves w p r p' r' := by
  cases p with
  | done a => cases hp
  | update g next =>
    cases h with
    | update => exact ⟨_, rfl, .update⟩
  | isCancelled next =>
    cases h with
    | isCancelled b hb => exact ⟨_, rfl, .isCancelled b hb⟩
  | now next =>
    cases h with
    | now t => exact ⟨_, rfl, .now t⟩
  | waitUntil time next =>
    cases h with
    | waitUntil => exact ⟨_, rfl, .waitUntil⟩
  | call q pending next =>
    cases h with
    | begun pending ha => exact ⟨_, rfl, .begun pending ha⟩
    | answered answer ha => exact ⟨_, rfl, .answered answer ha⟩
  | within deadline body next =>
    cases h with
    | withinBody h => exact ⟨_, rfl, .withinBody h⟩
    | withinEnd b => exact ⟨_, rfl, .withinEnd b⟩
    | late hl => exact ⟨_, rfl, .late hl⟩
  | unlessCancelled body next =>
    cases h with
    | guardedBody h => exact ⟨_, rfl, .guardedBody h⟩
    | guardedEnd b => exact ⟨_, rfl, .guardedEnd b⟩
    | givenUp hc => exact ⟨_, rfl, .givenUp hc⟩
  | inTurn stage deadline body next =>
    cases h with
    | arrived ticket hs => exact ⟨_, rfl, .arrived ticket hs⟩
    | entered ticket hs => exact ⟨_, rfl, .entered ticket hs⟩
    | turnBody h => exact ⟨_, rfl, .turnBody h⟩
    | turnEnd b => exact ⟨_, rfl, .turnEnd b⟩
    | turnMissed hs hl => exact ⟨_, rfl, .turnMissed hs hl⟩
  | both left right next =>
    cases h with
    | left h => exact ⟨_, rfl, .left h⟩
    | right h => exact ⟨_, rfl, .right h⟩
    | bothEnd b c => exact ⟨_, rfl, .bothEnd b c⟩

namespace Ends

/-- What ends amid some changes ends amid more. -/
theorem mono (h : Ends w E p r a r') (hEF : ∀ r r', E r r' → F r r') : Ends w F p r a r' := by
  induction h with
  | done a r => exact .done a r
  | move h _ ih => exact .move h ih
  | meanwhile h _ ih => exact .meanwhile (hEF _ _ h) ih

theorem before (h : Relation.ReflTransGen E r r') (h' : Ends w E p r' a r'') :
    Ends w E p r a r'' := by
  induction h using Relation.ReflTransGen.head_induction_on with
  | refl => exact h'
  | head h _ ih => exact .meanwhile h ih

end Ends

/-- Once there is a result, only others make changes. -/
theorem ends_done_iff {b : α} : Ends w E (done a) r b r' ↔ b = a ∧ Relation.ReflTransGen E r r' := by
  constructor
  · intro h
    generalize hp : done a = p at h
    induction h with
    | done b r =>
      cases hp
      exact ⟨rfl, .refl⟩
    | move h =>
      subst hp
      exact absurd h not_moves_done
    | meanwhile h _ ih =>
      obtain ⟨rfl, hrest⟩ := ih hp
      exact ⟨rfl, .head h hrest⟩
  · rintro ⟨rfl, h⟩
    exact .before h (.done b r')

theorem ends_pure_iff {b : α} :
    Ends w E (pure a) r b r' ↔ b = a ∧ Relation.ReflTransGen E r r' := ends_done_iff

/-- **One activity after the other** comes to its end by way of a result of the first. -/
theorem ends_bind_iff :
    Ends w E (p >>= f) r b r'' ↔ ∃ a r', Ends w E p r a r' ∧ Ends w E (f a) r' b r'' := by
  constructor
  · intro h
    generalize hq : p >>= f = q at h
    induction h generalizing p with
    | done b r =>
      cases p with
      | done a =>
        have hf : f a = done b := hq
        exact ⟨a, r, .done a r, hf ▸ .done b r⟩
      | _ => cases hq
    | move h hrest ih =>
      subst hq
      cases hp : p.result? with
      | some a =>
        obtain rfl := result?_eq_some_iff.1 hp
        exact ⟨a, _, .done a _, .move h hrest⟩
      | none =>
        obtain ⟨p', rfl, hmove⟩ := moves_bind hp h
        obtain ⟨a, r₁, hends, hnext⟩ := ih rfl
        exact ⟨a, r₁, .move hmove hends, hnext⟩
    | meanwhile h _ ih =>
      obtain ⟨a, r₁, hends, hnext⟩ := ih hq
      exact ⟨a, r₁, .meanwhile h hends, hnext⟩
  · rintro ⟨a, r', hp, hf⟩
    induction hp with
    | done a r => exact hf
    | move h _ ih => exact .move (h.bind f) (ih hf)
    | meanwhile h _ ih => exact .meanwhile h (ih hf)

/-! ## Single steps -/

theorem ends_work_iff {f : Resource → α × Resource} :
    Ends w E (work f) r a r' ↔
      ∃ r₁, Relation.ReflTransGen E r r₁ ∧ a = (f r₁).1 ∧ Relation.ReflTransGen E (f r₁).2 r' := by
  constructor
  · intro h
    generalize hp : work f = p at h
    induction h with
    | done => cases hp
    | move h hrest =>
      subst hp
      cases h with
      | update =>
        obtain ⟨rfl, hafter⟩ := ends_done_iff.1 hrest
        exact ⟨_, .refl, rfl, hafter⟩
    | meanwhile h _ ih =>
      obtain ⟨r₁, hbefore, ha, hafter⟩ := ih hp
      exact ⟨r₁, .head h hbefore, ha, hafter⟩
  · rintro ⟨r₁, hbefore, rfl, hafter⟩
    exact .before hbefore (.move .update (ends_done_iff.2 ⟨rfl, hafter⟩))

theorem ends_modify_iff {f : Resource → Resource} {u : Unit} :
    Ends w E (modify f) r u r' ↔
      ∃ r₁, Relation.ReflTransGen E r r₁ ∧ Relation.ReflTransGen E (f r₁) r' := by
  change Ends w E (work fun r => ((), f r)) r u r' ↔ _
  simp only [ends_work_iff, true_and]

theorem ends_read_iff {f : Resource → α} :
    Ends w E (read f) r a r' ↔
      ∃ r₁, Relation.ReflTransGen E r r₁ ∧ a = f r₁ ∧ Relation.ReflTransGen E r₁ r' :=
  ends_work_iff (f := fun r => (f r, r))

theorem ends_alone_modify_iff {f : Resource → Resource} {u : Unit} :
    Ends w Alone (modify f) r u r' ↔ r' = f r := by
  simp [ends_modify_iff, reflTransGen_alone_iff]

theorem ends_alone_read_iff {f : Resource → α} :
    Ends w Alone (read f) r a r' ↔ a = f r ∧ r' = r := by
  simp [ends_read_iff, reflTransGen_alone_iff]

theorem ends_cancelled_iff {b : Bool} :
    Ends w E cancelled r b r' ↔ (b = true → w.mayBeCancelled) ∧ Relation.ReflTransGen E r r' := by
  constructor
  · intro h
    generalize hp : cancelled = p at h
    induction h with
    | done => cases hp
    | move h hrest =>
      subst hp
      cases h with
      | isCancelled b hb =>
        obtain ⟨rfl, hafter⟩ := ends_done_iff.1 hrest
        exact ⟨hb, hafter⟩
    | meanwhile h _ ih => exact (ih hp).imp_right (.head h)
  · rintro ⟨hb, h⟩
    exact .before h (.move (.isCancelled b hb) (.done b r'))

theorem ends_clock {t : Nat} (h : Ends w E clock r t r') : Relation.ReflTransGen E r r' := by
  generalize hp : clock = p at h
  induction h with
  | done => cases hp
  | move h hrest =>
    subst hp
    cases h with
    | now t => exact (ends_done_iff.1 hrest).2
  | meanwhile h _ ih => exact .head h (ih hp)

/-! ## Moves make up a run -/

theorem continues_refl (p : Activity α) : Continues w p p 0 := fun cs o h => by rwa [zero_add]

/-- A move is the beginning of a run. -/
theorem Moves.continues (h : Moves w p r q r') :
    ∃ ds, (ds = 0 ∧ r' = r ∨ ds = {(r, r')}) ∧ Continues w p q ds := by
  induction h with
  | update => exact ⟨_, .inr rfl, fun cs o h => .update _ h⟩
  | isCancelled b hb => exact ⟨0, .inl ⟨rfl, rfl⟩, fun cs o h => .isCancelled b hb (by rwa [zero_add])⟩
  | now t => exact ⟨0, .inl ⟨rfl, rfl⟩, fun cs o h => .now t (by rwa [zero_add])⟩
  | waitUntil => exact ⟨0, .inl ⟨rfl, rfl⟩, fun cs o h => .waitUntil (by rwa [zero_add])⟩
  | begun pending ha =>
    refine ⟨0, .inl ⟨rfl, rfl⟩, fun cs o h => ?_⟩
    rw [zero_add]
    cases h with
    | stopped => exact .stopped
    | call answer hanswer h => exact .call answer (hanswer ▸ ha) h
  | answered answer ha =>
    exact ⟨0, .inl ⟨rfl, rfl⟩, fun cs o h => .call answer ha (by rwa [zero_add])⟩
  | withinBody _ ih =>
    obtain ⟨ds, hds, h⟩ := ih
    exact ⟨ds, hds, h.within _⟩
  | withinEnd b => exact ⟨0, .inl ⟨rfl, rfl⟩, fun cs o h => .within b .done h⟩
  | late hl => exact ⟨0, .inl ⟨rfl, rfl⟩, fun cs o h => .late hl .stopped h⟩
  | guardedBody _ ih =>
    obtain ⟨ds, hds, h⟩ := ih
    exact ⟨ds, hds, h.unlessCancelled⟩
  | guardedEnd b => exact ⟨0, .inl ⟨rfl, rfl⟩, fun cs o h => .unlessCancelled b .done h⟩
  | givenUp hc => exact ⟨0, .inl ⟨rfl, rfl⟩, fun cs o h => .givenUp hc .stopped h⟩
  | arrived ticket hs =>
    refine ⟨0, .inl ⟨rfl, rfl⟩, fun cs o h => ?_⟩
    rw [zero_add]
    cases h with
    | stopped => exact .stopped
    | inTurn b hb h => exact .inTurn b hb h
    | turnMissed _ hl h => exact .turnMissed hs hl h
    | turnStopped hb => exact .turnStopped hb
  | entered ticket hs =>
    exact ⟨0, .inl ⟨rfl, rfl⟩, (continues_refl _).inTurn _ ticket _⟩
  | turnBody _ ih =>
    obtain ⟨ds, hds, h⟩ := ih
    exact ⟨ds, hds, h.inTurn _ _ _⟩
  | turnEnd b => exact ⟨0, .inl ⟨rfl, rfl⟩, fun cs o h => .inTurn b .done h⟩
  | turnMissed hs hl =>
    exact ⟨0, .inl ⟨rfl, rfl⟩, fun cs o h => .turnMissed hs hl (by rwa [zero_add])⟩
  | left _ ih =>
    obtain ⟨ds, hds, h⟩ := ih
    exact ⟨ds, hds, add_zero ds ▸ h.both (continues_refl _)⟩
  | right _ ih =>
    obtain ⟨ds, hds, h⟩ := ih
    exact ⟨ds, hds, zero_add ds ▸ (continues_refl _).both h⟩
  | bothEnd b c =>
    exact ⟨0, .inl ⟨rfl, rfl⟩, fun cs o h => by simpa using Runs.both b c .done .done h⟩

/-- **An activity that comes to its end** has run, and apart from the changes of this run there were
only those of others. -/
theorem Ends.runs (h : Ends w E p r a r') :
    ∃ cs, Runs w p cs (some a) ∧
      Relation.ReflTransGen (fun r r' => (r, r') ∈ cs ∨ E r r') r r' := by
  induction h with
  | done a r => exact ⟨0, .done, .refl⟩
  | move h _ ih =>
    obtain ⟨cs, hruns, hpath⟩ := ih
    obtain ⟨ds, hds, hcontinues⟩ := h.continues
    refine ⟨ds + cs, hcontinues _ _ hruns, ?_⟩
    have hrest : Relation.ReflTransGen (fun r r' => (r, r') ∈ ds + cs ∨ E r r') _ _ :=
      Relation.ReflTransGen.mono
        (fun _ _ hstep => hstep.imp_left fun hc => Multiset.mem_add.2 (.inr hc)) _ _ hpath
    rcases hds with ⟨rfl, rfl⟩ | rfl
    · exact hrest
    · exact .head (.inl (Multiset.mem_add.2 (.inl (Multiset.mem_singleton_self _)))) hrest
  | meanwhile h _ ih =>
    obtain ⟨cs, hruns, hpath⟩ := ih
    exact ⟨cs, hruns, .head (.inr h) hpath⟩

/-- Apart from the changes of others there are only those that the activity can make. -/
theorem Ends.reflTransGen {R : Resource → Resource → Prop} (h : Ends w E p r a r')
    (hp : ChangesOnly R p) : Relation.ReflTransGen (fun r r' => R r r' ∨ E r r') r r' := by
  obtain ⟨cs, hruns, hpath⟩ := h.runs
  exact Relation.ReflTransGen.mono
    (fun r₁ r₂ hstep => hstep.imp_left fun hc => hp _ _ _ hruns (r₁, r₂) hc) _ _ hpath

/-- If nobody else is there, there are only the changes that the activity can make. -/
theorem Ends.reflTransGen_alone {R : Resource → Resource → Prop} (h : Ends w Alone p r a r')
    (hp : ChangesOnly R p) : Relation.ReflTransGen R r r' :=
  Relation.ReflTransGen.mono (fun _ _ hstep => hstep.resolve_right not_false) _ _
    (h.reflTransGen hp)

/-- What no change of an activity touches is the same at its end, if nobody else is there. -/
theorem Ends.keeps {f : Resource → β} (h : Ends w Alone p r a r')
    (hp : ChangesOnly (fun r r' => f r' = f r) p) : f r' = f r :=
  eq_of_reflTransGen f (fun _ _ => id) (h.reflTransGen_alone hp)

/-- During a quiet activity there are only the changes of others. -/
theorem Ends.of_quiet (h : Ends w E p r a r') (hp : Quiet p) :
    Runs w p 0 (some a) ∧ Relation.ReflTransGen E r r' := by
  obtain ⟨cs, hruns, hpath⟩ := h.runs
  obtain rfl := hp.eq_zero hruns
  exact ⟨hruns, Relation.ReflTransGen.mono
    (fun _ _ hstep => hstep.resolve_left (Multiset.notMem_zero _)) _ _ hpath⟩

end HardwareWatch.Activity
