import HardwareWatch.Proofs.Activity.Parts

/-!
# Activities that agree

Two activities are compared that see the same of the resource of the host when they begin. Each of
them has others around it, who do not touch what it sees.

* `Activity.SameResult` says that two activities have one result in all their runs. This is for
  those that leave the resource alone.
* `Activity.Agree` says that they have one result and that what they see is the same at their ends
  too. It has a rule for every way to put activities together.
-/

namespace HardwareWatch.Activity

variable {w : Surroundings} {α β γ ι κ : Type}

/-! ## Activities with the same result -/

/-- Two activities have one result in all their runs. -/
def SameResult (w : Surroundings) (p p' : Activity α) : Prop :=
  ∀ cs cs' a a', Runs w p cs (some a) → Runs w p' cs' (some a') → a = a'

namespace SameResult

theorem pure (a : α) : SameResult w (pure a) (pure a) := by
  intro cs cs' b b' h h'
  exact (runs_pure_some_iff.1 h).2.trans (runs_pure_some_iff.1 h').2.symm

theorem bind {p p' : Activity α} {f f' : α → Activity β} (hp : SameResult w p p')
    (hf : ∀ a, SameResult w (f a) (f' a)) : SameResult w (p >>= f) (p' >>= f') := by
  intro cs cs' b b' h h'
  obtain ⟨a, cs₁, cs₂, -, h₁, h₂⟩ := runs_bind_some_iff.1 h
  obtain ⟨a', cs₁', cs₂', -, h₁', h₂'⟩ := runs_bind_some_iff.1 h'
  obtain rfl := hp _ _ _ _ h₁ h₁'
  exact hf a _ _ _ _ h₂ h₂'

theorem cancelled (hw : ¬w.mayBeCancelled) : SameResult w cancelled cancelled := by
  intro cs cs' b b' h h'
  have hfalse {cs : Multiset Change} {b : Bool} (h : Runs w Activity.cancelled cs (some b)) :
      b = false := by
    cases b with
    | false => rfl
    | true => exact absurd ((runs_cancelled_some_iff.1 h).2 rfl) hw
  rw [hfalse h, hfalse h']

theorem unit (p p' : Activity Unit) : SameResult w p p' := fun _ _ _ _ _ _ => rfl

/-- Two activities with limits have one result, if both come to that of their bodies. -/
theorem of_bodies {p p' : Activity α} {q q' : Activity (Option α)} (hp : SameResult w p p')
    (hq : ∀ cs o, Runs w q cs (some o) → ∃ a cs', o = some a ∧ Runs w p cs' (some a))
    (hq' : ∀ cs o, Runs w q' cs (some o) → ∃ a cs', o = some a ∧ Runs w p' cs' (some a)) :
    SameResult w q q' := by
  intro cs cs' o o' h h'
  obtain ⟨a, _, rfl, ha⟩ := hq cs o h
  obtain ⟨a', _, rfl, ha'⟩ := hq' cs' o' h'
  exact congrArg some (hp _ _ _ _ ha ha')

theorem limited {p p' : Activity α} {ms ms' : Nat} (hw : ¬w.mayBeLate) (hp : SameResult w p p') :
    SameResult w (limited ms p) (limited ms' p') := by
  have hbody (p : Activity α) (ms : Nat) (cs : Multiset Change) (o : Option α)
      (h : Runs w (Activity.limited ms p) cs (some o)) :
      ∃ a cs', o = some a ∧ Runs w p cs' (some a) := by
    cases h with
    | now t h =>
      cases h with
      | within a hb h =>
        cases h with
        | done => exact ⟨a, _, rfl, hb⟩
      | late hl => exact absurd hl hw
  exact hp.of_bodies (hbody p ms) (hbody p' ms')

theorem guarded {p p' : Activity α} (hw : ¬w.mayBeCancelled) (hp : SameResult w p p') :
    SameResult w (guarded p) (guarded p') := by
  have hbody (p : Activity α) (cs : Multiset Change) (o : Option α)
      (h : Runs w (Activity.guarded p) cs (some o)) :
      ∃ a cs', o = some a ∧ Runs w p cs' (some a) := by
    cases h with
    | unlessCancelled a hb h =>
      cases h with
      | done => exact ⟨a, _, rfl, hb⟩
    | givenUp hc => exact absurd hc hw
  exact hp.of_bodies (hbody p) (hbody p')

theorem serialized {p p' : Activity α} {ms ms' : Nat} (hw : ¬w.mayBeLate)
    (hp : SameResult w p p') : SameResult w (serialized ms p) (serialized ms' p') := by
  have hbody (p : Activity α) (ms : Nat) (cs : Multiset Change) (o : Option α)
      (h : Runs w (Activity.serialized ms p) cs (some o)) :
      ∃ a cs', o = some a ∧ Runs w p cs' (some a) := by
    cases h with
    | now t h =>
      cases h with
      | inTurn a hb h =>
        cases h with
        | done => exact ⟨a, _, rfl, hb⟩
      | turnMissed _ hl => exact absurd hl hw
  exact hp.of_bodies (hbody p ms) (hbody p' ms')

theorem all {f f' : ι → Activity β} {l : List ι} (hf : ∀ i, SameResult w (f i) (f' i)) :
    SameResult w (all (l.map f)) (all (l.map f')) := by
  intro cs cs' bs bs' h h'
  rw [runs_all_iff] at h h'
  induction h generalizing cs' bs' with
  | nil => exact (oneRunEach_nil_iff.1 h').2.symm
  | cons hi _ ih =>
    obtain ⟨_, _, b', rest', -, rfl, hi', hrest'⟩ := oneRunEach_cons_iff.1 h'
    rw [hf _ _ _ _ _ hi hi', ih _ _ hrest']

theorem foldlM {step step' : β → ι → Activity β} {l : List ι}
    (hs : ∀ b i, SameResult w (step b i) (step' b i)) (b : β) :
    SameResult w (l.foldlM step b) (l.foldlM step' b) := by
  induction l generalizing b with
  | nil => exact pure b
  | cons i l ih =>
    rw [List.foldlM_cons, List.foldlM_cons]
    exact (hs b i).bind ih

theorem foldBefore {step step' : β → ι → Activity β} {l : List ι} {deadline deadline' : Nat}
    (hw : ¬w.mayBeLate) (hs : ∀ b i, SameResult w (step b i) (step' b i)) (b : β) :
    SameResult w (foldBefore deadline step l b) (foldBefore deadline' step' l b) := by
  rintro cs cs' ⟨b₁, isComplete⟩ ⟨b₁', isComplete'⟩ h h'
  cases isComplete with
  | false => exact absurd (runs_foldBefore_false h) hw
  | true =>
    cases isComplete' with
    | false => exact absurd (runs_foldBefore_false h') hw
    | true =>
      rw [foldlM hs b _ _ _ _ (runs_foldBefore_true_iff.1 h) (runs_foldBefore_true_iff.1 h')]

end SameResult

/-! ## Activities that agree in what they see -/

/-- Two activities that see the same of the resource when they begin have one result and see the
same when they end. -/
def Agree (w : Surroundings) (E : Resource → Resource → Prop) (view : Resource → γ)
    (p p' : Activity α) : Prop :=
  ∀ r r', view r = view r' → ∀ a a' s s', Ends w E p r a s → Ends w E p' r' a' s' →
    a = a' ∧ view s = view s'

/-- Up to a time that does not run out, an activity comes to its end. -/
theorem ends_before {E : Resource → Resource → Prop} {deadline : Nat} {p : Activity α}
    {o : Option α} {r s : Resource} (hw : ¬w.mayBeLate)
    (h : Ends w E (before deadline p) r o s) : ∃ a, o = some a ∧ Ends w E p r a s := by
  generalize hq : before deadline p = q at h
  induction h generalizing p with
  | done => cases hq
  | move h hrest ih =>
    subst hq
    cases h with
    | withinBody h =>
      obtain ⟨a, rfl, ha⟩ := ih rfl
      exact ⟨a, rfl, .move h ha⟩
    | withinEnd a =>
      obtain ⟨rfl, hafter⟩ := ends_done_iff.1 hrest
      exact ⟨a, rfl, ends_done_iff.2 ⟨rfl, hafter⟩⟩
    | late hl => exact absurd hl hw
  | meanwhile h _ ih =>
    obtain ⟨a, rfl, ha⟩ := ih hq
    exact ⟨a, rfl, .meanwhile h ha⟩

namespace Agree

variable {E : Resource → Resource → Prop} {view : Resource → γ}

theorem bind {p p' : Activity α} {f f' : α → Activity β} (hp : Agree w E view p p')
    (hf : ∀ a, Agree w E view (f a) (f' a)) : Agree w E view (p >>= f) (p' >>= f') := by
  intro r r' hr b b' s s' h h'
  obtain ⟨a, r₁, h₁, h₂⟩ := ends_bind_iff.1 h
  obtain ⟨a', r₁', h₁', h₂'⟩ := ends_bind_iff.1 h'
  obtain ⟨rfl, hr₁⟩ := hp r r' hr _ _ _ _ h₁ h₁'
  exact hf a r₁ r₁' hr₁ _ _ _ _ h₂ h₂'

variable (hE : ∀ r s, E r s → view s = view r)

include hE

/-- Two resources of which the same is seen, later on. -/
theorem view_eq {r r' s s' : Resource} (hr : view r = view r')
    (h : Relation.ReflTransGen E r s) (h' : Relation.ReflTransGen E r' s') : view s = view s' := by
  rw [eq_of_reflTransGen view hE h, eq_of_reflTransGen view hE h', hr]

theorem of_quiet {p p' : Activity α} (hp : Quiet p) (hp' : Quiet p') (h : SameResult w p p') :
    Agree w E view p p' := by
  intro r r' hr a a' s s' ha ha'
  obtain ⟨hruns, hpath⟩ := ha.of_quiet hp
  obtain ⟨hruns', hpath'⟩ := ha'.of_quiet hp'
  exact ⟨h _ _ _ _ hruns hruns', view_eq hE hr hpath hpath'⟩

theorem pure (a : α) : Agree w E view (pure a) (pure a) :=
  of_quiet hE (.pure a) (.pure a) (.pure a)

theorem cancelled (hw : ¬w.mayBeCancelled) : Agree w E view cancelled cancelled :=
  of_quiet hE .cancelled .cancelled (.cancelled hw)

theorem clock_bind {f f' : Nat → Activity α} (hf : ∀ t t', Agree w E view (f t) (f' t')) :
    Agree w E view (clock >>= f) (clock >>= f') := by
  intro r r' hr a a' s s' h h'
  obtain ⟨t, r₁, h₁, h₂⟩ := ends_bind_iff.1 h
  obtain ⟨t', r₁', h₁', h₂'⟩ := ends_bind_iff.1 h'
  have hr₁ := view_eq hE hr (ends_clock h₁) (ends_clock h₁')
  exact hf t t' r₁ r₁' hr₁ _ _ _ _ h₂ h₂'

theorem work {f f' : Resource → β × Resource}
    (hf : ∀ r r', view r = view r' → (f r).1 = (f' r').1 ∧ view (f r).2 = view (f' r').2) :
    Agree w E view (work f) (work f') := by
  intro r r' hr b b' s s' h h'
  obtain ⟨r₁, hbefore, rfl, hafter⟩ := ends_work_iff.1 h
  obtain ⟨r₁', hbefore', rfl, hafter'⟩ := ends_work_iff.1 h'
  obtain ⟨hb, hs⟩ := hf r₁ r₁' (view_eq hE hr hbefore hbefore')
  exact ⟨hb, view_eq hE hs hafter hafter'⟩

theorem modify {f f' : Resource → Resource}
    (hf : ∀ r r', view r = view r' → view (f r) = view (f' r')) :
    Agree w E view (modify f) (modify f') := work hE fun r r' hr => ⟨rfl, hf r r' hr⟩

/-- What is read may differ where the difference does not matter afterwards. -/
theorem read_bind {f f' : Resource → β} {k k' : β → Activity α}
    (hk : ∀ r r', view r = view r' → Agree w E view (k (f r)) (k' (f' r'))) :
    Agree w E view (read f >>= k) (read f' >>= k') := by
  intro r r' hr a a' s s' h h'
  obtain ⟨_, r₁, h₁, h₂⟩ := ends_bind_iff.1 h
  obtain ⟨_, r₁', h₁', h₂'⟩ := ends_bind_iff.1 h'
  obtain ⟨r₀, hbefore, rfl, hafter⟩ := ends_read_iff.1 h₁
  obtain ⟨r₀', hbefore', rfl, hafter'⟩ := ends_read_iff.1 h₁'
  have hr₀ := view_eq hE hr hbefore hbefore'
  have hr₁ := view_eq hE hr₀ hafter hafter'
  exact hk r₀ r₀' hr₀ r₁ r₁' hr₁ _ _ _ _ h₂ h₂'

omit hE in
theorem before {p p' : Activity α} {deadline deadline' : Nat} (hw : ¬w.mayBeLate)
    (hp : Agree w E view p p') : Agree w E view (before deadline p) (before deadline' p') := by
  intro r r' hr o o' s s' h h'
  obtain ⟨a, rfl, ha⟩ := ends_before hw h
  obtain ⟨a', rfl, ha'⟩ := ends_before hw h'
  exact (hp r r' hr _ _ _ _ ha ha').imp_left (congrArg some)

theorem forM {f : ι → Activity PUnit} {f' : κ → Activity PUnit} {R : ι → κ → Prop} {l : List ι}
    {l' : List κ} (hl : List.Forall₂ R l l') (hf : ∀ i i', R i i' → Agree w E view (f i) (f' i')) :
    Agree w E view (l.forM f) (l'.forM f') := by
  induction hl with
  | nil => exact pure hE _
  | cons hi _ ih => exact (hf _ _ hi).bind fun _ => ih

end Agree

end HardwareWatch.Activity
