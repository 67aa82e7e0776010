import HardwareWatch.Proofs.Activity.Runs

/-!
# Activities in prompt surroundings

Where every request has one answer, nothing is late and nothing is cancelled, an activity that only
asks and waits has one result.

* `Activity.Gives` says that an activity changes nothing and has one result.
* `Activity.Settled` says that there is such a result. It has a rule for every way to put activities
  together that does not look at the resource or at the time.
-/

namespace HardwareWatch.Activity

variable {answers : (r : Request) → Except EngineError r.Answer} {α β ι : Type}

/-- The activity changes nothing and has this one result. -/
def Gives (answers : (r : Request) → Except EngineError r.Answer) (p : Activity α) (a : α) : Prop :=
  ∀ cs b, Runs (.prompt answers) p cs (some b) ↔ cs = 0 ∧ b = a

/-- The activity changes nothing and has one result. -/
def Settled (answers : (r : Request) → Except EngineError r.Answer) (p : Activity α) : Prop :=
  ∃ a, Gives answers p a

namespace Gives

theorem pure (a : α) : Gives answers (pure a) a := fun _ _ => runs_pure_some_iff

theorem bind {p : Activity α} {f : α → Activity β} {a : α} {b : β} (hp : Gives answers p a)
    (hf : Gives answers (f a) b) : Gives answers (p >>= f) b := by
  intro cs b'
  rw [runs_bind_some_iff]
  constructor
  · rintro ⟨a', cs₁, cs₂, rfl, h₁, h₂⟩
    obtain ⟨rfl, rfl⟩ := (hp _ _).1 h₁
    obtain ⟨rfl, rfl⟩ := (hf _ _).1 h₂
    exact ⟨add_zero 0, rfl⟩
  · rintro ⟨rfl, rfl⟩
    exact ⟨a, 0, 0, (add_zero 0).symm, (hp _ _).2 ⟨rfl, rfl⟩, (hf _ _).2 ⟨rfl, rfl⟩⟩

theorem cancelled : Gives answers cancelled false := by
  intro cs b
  rw [runs_cancelled_some_iff]
  cases b <;> simp [Surroundings.prompt]

theorem pause (ms : Nat) : Gives answers (pause ms) () := by
  intro cs b
  constructor
  · intro h
    cases h with
    | now t h =>
      cases h with
      | waitUntil h =>
        cases h with
        | done => exact ⟨rfl, rfl⟩
  · rintro ⟨rfl, -⟩
    exact .now 0 (.waitUntil .done)

theorem ask (r : Request) : Gives answers (ask r) (answers r) := by
  intro cs b
  constructor
  · intro h
    cases h with
    | call answer ha h =>
      cases h with
      | done => exact ⟨rfl, ha⟩
  · rintro ⟨rfl, rfl⟩
    exact .call _ rfl .done

theorem limited {p : Activity α} {a : α} (hp : Gives answers p a) (ms : Nat) :
    Gives answers (limited ms p) (some a) := by
  intro cs b
  constructor
  · intro h
    cases h with
    | now t h =>
      cases h with
      | within a' hb h =>
        obtain ⟨rfl, rfl⟩ := (hp _ _).1 hb
        cases h with
        | done => exact ⟨add_zero 0, rfl⟩
      | late hl => exact hl.elim
  · rintro ⟨rfl, rfl⟩
    exact .now 0 (add_zero (0 : Multiset Change) ▸ .within a ((hp _ _).2 ⟨rfl, rfl⟩) .done)

theorem guarded {p : Activity α} {a : α} (hp : Gives answers p a) :
    Gives answers (guarded p) (some a) := by
  intro cs b
  constructor
  · intro h
    cases h with
    | unlessCancelled a' hb h =>
      obtain ⟨rfl, rfl⟩ := (hp _ _).1 hb
      cases h with
      | done => exact ⟨add_zero 0, rfl⟩
    | givenUp hc => exact hc.elim
  · rintro ⟨rfl, rfl⟩
    exact add_zero (0 : Multiset Change) ▸ .unlessCancelled a ((hp _ _).2 ⟨rfl, rfl⟩) .done

theorem serialized {p : Activity α} {a : α} (hp : Gives answers p a) (ms : Nat) :
    Gives answers (serialized ms p) (some a) := by
  intro cs b
  constructor
  · intro h
    cases h with
    | now t h =>
      cases h with
      | inTurn a' hb h =>
        obtain ⟨rfl, rfl⟩ := (hp _ _).1 hb
        cases h with
        | done => exact ⟨add_zero 0, rfl⟩
      | turnMissed _ hl => exact hl.elim
  · rintro ⟨rfl, rfl⟩
    exact .now 0 (add_zero (0 : Multiset Change) ▸ .inTurn a ((hp _ _).2 ⟨rfl, rfl⟩) .done)

end Gives

namespace Settled

theorem pure (a : α) : Settled answers (Pure.pure a : Activity α) := ⟨a, .pure a⟩

theorem bind {p : Activity α} {f : α → Activity β} (hp : Settled answers p)
    (hf : ∀ a, Settled answers (f a)) : Settled answers (p >>= f) := by
  obtain ⟨a, hp⟩ := hp
  obtain ⟨b, hf⟩ := hf a
  exact ⟨b, hp.bind hf⟩

theorem cancelled : Settled answers cancelled := ⟨false, .cancelled⟩

theorem pause (ms : Nat) : Settled answers (pause ms) := ⟨(), .pause ms⟩

theorem ask (r : Request) : Settled answers (ask r) := ⟨_, .ask r⟩

theorem limited {p : Activity α} (hp : Settled answers p) (ms : Nat) :
    Settled answers (limited ms p) := by
  obtain ⟨a, hp⟩ := hp
  exact ⟨some a, hp.limited ms⟩

theorem guarded {p : Activity α} (hp : Settled answers p) : Settled answers (guarded p) := by
  obtain ⟨a, hp⟩ := hp
  exact ⟨some a, hp.guarded⟩

theorem serialized {p : Activity α} (hp : Settled answers p) (ms : Nat) :
    Settled answers (serialized ms p) := by
  obtain ⟨a, hp⟩ := hp
  exact ⟨some a, hp.serialized ms⟩

end Settled

end HardwareWatch.Activity
