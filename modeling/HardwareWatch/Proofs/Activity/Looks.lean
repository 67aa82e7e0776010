import HardwareWatch.Proofs.Activity.Finish
import HardwareWatch.Proofs.Activity.InTime

/-!
# Activities that are looked at from time to time

An activity goes on when somebody looks at it, at the site as it is then. What others do on the host
in between is not known, and so the activity may find any site.

* `Site.log` is what happened to requests, from first to last.
* `Activity.Looked` says what is left of an activity after some looks, and what happened to its
  requests by then.
* `Activity.looked_bind_done` is about one activity after the other.
* `Activity.exists_looked_run` says that a run is some looks.
-/

namespace HardwareWatch

/-! ## Logs -/

namespace Site

variable {σ : Type}

/-- What happened to requests, from first to last. -/
def log (s : Site σ) : List CallEvent := s.events.reverse

@[simp] theorem log_record (s : Site σ) (stage : CallStage) (r : Request) :
    (s.record stage r).log = s.log ++ [⟨s.clock, stage, r⟩] := by
  rw [log, log, record, List.reverse_cons]

@[simp] theorem log_atTime (s : Site σ) (time : Nat) : (s.atTime time).log = s.log := rfl

@[simp] theorem log_arrive (s : Site σ) (stage : TurnStage) : (stage.arrive s).log = s.log := by
  cases stage <;> rfl

end Site

namespace Activity

variable {σ α β : Type} {network : Network σ}

@[simp] theorem log_begin (network : Network σ) (r : Request) (s : Site σ) :
    (begin network r s).2.log = s.log ++ [⟨s.clock, .begun, r⟩] := Site.log_record ..

theorem log_prefix_record (s : Site σ) (stage : CallStage) (r : Request) :
    s.log <+: (s.record stage r).log := by
  rw [Site.log_record]
  exact List.prefix_append ..

theorem log_prefix_leaveQueue (s : Site σ) (ticket : Nat) : s.log <+: (s.leaveQueue ticket).log :=
  List.prefix_rfl

theorem log_prefix_arrive (s : Site σ) (stage : TurnStage) : s.log <+: (stage.arrive s).log :=
  (Site.log_arrive s stage).symm ▸ List.prefix_rfl

theorem log_prefix_abandon (p : Activity α) (s : Site σ) : s.log <+: (p.abandon s).log := by
  induction p generalizing s with
  | call r pending _ _ =>
    cases pending with
    | none => exact List.prefix_rfl
    | some pending => exact log_prefix_record s .abandoned r
  | within _ _ _ ihb _ => exact ihb s
  | unlessCancelled _ _ ihb _ => exact ihb s
  | inTurn stage _ _ _ ihb _ =>
    cases stage with
    | entered ticket => exact ihb s
    | _ => exact List.prefix_rfl
  | both _ _ _ ihl ihr _ => exact (ihl s).trans (ihr _)
  | _ => exact List.prefix_rfl

/-- Nothing that happened is forgotten when an activity goes on. -/
theorem log_prefix_poll (network : Network σ) (p : Activity α) (s : Site σ) :
    s.log <+: (p.poll network s).2.log := by
  induction p generalizing s with
  | done a => exact List.prefix_rfl
  | update f next ih =>
    rw [poll]
    exact ih _ { s with resource := (f s.resource).2 }
  | isCancelled next ih =>
    rw [poll]
    exact ih _ s
  | now next ih =>
    rw [poll]
    exact ih _ s
  | waitUntil time next ih =>
    rw [poll]
    split
    · exact ih s
    · exact List.prefix_rfl
  | call r pending next ih =>
    cases pending with
    | none =>
      have hbegin : s.log <+: (begin network r s).2.log := log_prefix_record _ .begun r
      rw [poll]
      dsimp only
      split
      · exact (hbegin.trans (log_prefix_record _ .finished r)).trans (ih _ _)
      · exact hbegin
    | some pending =>
      rw [poll]
      split
      · exact (log_prefix_record s .finished r).trans (ih _ _)
      · exact List.prefix_rfl
  | within deadline body next ihb ih =>
    rw [poll]
    dsimp only
    split
    · exact (ihb s).trans (ih _ _)
    · split
      · exact ((ihb s).trans (log_prefix_abandon ..)).trans (ih _ _)
      · exact ihb s
  | unlessCancelled body next ihb ih =>
    rw [poll]
    split
    · exact (log_prefix_abandon body s).trans (ih _ _)
    · dsimp only
      split
      · exact (ihb s).trans (ih _ _)
      · exact ihb s
  | inTurn stage deadline body next ihb ih =>
    have harrive := log_prefix_arrive s stage
    rw [poll]
    dsimp only
    split
    · have hbody := harrive.trans (ihb _)
      split
      · exact (hbody.trans (log_prefix_leaveQueue ..)).trans (ih _ _)
      · exact hbody
    · split
      · exact (harrive.trans (log_prefix_leaveQueue ..)).trans (ih _ _)
      · exact harrive
  | both left right next ihl ihr ih =>
    rw [poll]
    dsimp only
    split
    · exact ((ihl s).trans (ihr _)).trans (ih _ _ _)
    · exact (ihl s).trans (ihr _)

/-! ## Looks -/

variable {mayBeCancelled : Prop} {p q left : Activity α} {f : α → Activity β} {s : Site σ} {a : α}
  {b : β} {events events' : List CallEvent}

/-- What is left of an activity after some looks, each at some site, and what happened to its
requests by then. -/
inductive Looked (network : Network σ) (mayBeCancelled : Prop) (p : Activity α) :
    List CallEvent → Activity α → Prop
  | refl : Looked network mayBeCancelled p [] p
  | look {q : Activity α} {s : Site σ} {events more : List CallEvent}
      (h : Looked network mayBeCancelled p events q) (hs : s.cancelled = true → mayBeCancelled)
      (hmore : s.log ++ more = (q.poll network s).2.log) :
    Looked network mayBeCancelled p (events ++ more) (q.poll network s).1

namespace Looked

theorem trans (h : Looked network mayBeCancelled p events left)
    (h' : Looked network mayBeCancelled left events' q) :
    Looked network mayBeCancelled p (events ++ events') q := by
  induction h' with
  | refl => rwa [List.append_nil]
  | look _ hs hmore ih =>
    rw [← List.append_assoc]
    exact ih.look hs hmore

/-- One look, after which there are others. -/
theorem head {more : List CallEvent} (hs : s.cancelled = true → mayBeCancelled)
    (hmore : s.log ++ more = (p.poll network s).2.log)
    (h : Looked network mayBeCancelled (p.poll network s).1 events q) :
    Looked network mayBeCancelled p (more ++ events) q :=
  (Looked.refl.look hs hmore).trans h

end Looked

/-- What has nothing left to do stays as it is. -/
theorem looked_done (h : Looked network mayBeCancelled (done a) events q) :
    events = [] ∧ q = done a := by
  induction h with
  | refl => exact ⟨rfl, rfl⟩
  | look _ _ hmore ih =>
    obtain ⟨rfl, rfl⟩ := ih
    rw [poll] at hmore ⊢
    exact ⟨List.append_right_eq_self.1 hmore, rfl⟩

/-- **One activity after the other** is the first one, or it is the second one from where the first
one came to its end. -/
theorem looked_bind {q : Activity β} (h : Looked network mayBeCancelled (p.bind f) events q) :
    (∃ left, Looked network mayBeCancelled p events left ∧ left.result? = none ∧
      q = left.bind f) ∨
    ∃ a first second, Looked network mayBeCancelled p first (done a) ∧
      Looked network mayBeCancelled (f a) second q ∧ events = first ++ second := by
  induction h with
  | refl =>
    cases hp : p.result? with
    | none => exact .inl ⟨p, .refl, hp, rfl⟩
    | some a =>
      obtain rfl := result?_eq_some_iff.1 hp
      exact .inr ⟨a, [], [], .refl, .refl, rfl⟩
  | @look q s events more _ hs hmore ih =>
    obtain ⟨left, hleft, hnone, rfl⟩ | ⟨a, first, second, hfirst, hsecond, rfl⟩ := ih
    · rw [poll_bind] at hmore ⊢
      cases hresult : (left.poll network s).1.result? with
      | none =>
        rw [andThen, hresult] at hmore ⊢
        exact .inl ⟨_, hleft.look hs hmore, hresult, rfl⟩
      | some a =>
        -- The second activity is looked at for the first time where the first one left the site.
        obtain ⟨more₁, hmore₁⟩ := log_prefix_poll network left s
        obtain ⟨more₂, hmore₂⟩ := log_prefix_poll network (f a) (left.poll network s).2
        rw [andThen, hresult] at hmore ⊢
        have hfirst := hleft.look hs hmore₁
        rw [result?_eq_some_iff.1 hresult] at hfirst
        have hsplit : more = more₁ ++ more₂ := by
          rw [← hmore₂, ← hmore₁, List.append_assoc] at hmore
          exact List.append_cancel_left hmore
        refine .inr ⟨a, events ++ more₁, more₂, hfirst, ?_, ?_⟩
        · exact Looked.refl.look (fun h => hs ((cancelled_poll left s).symm.trans h)) hmore₂
        · rw [hsplit, List.append_assoc]
    · exact .inr ⟨a, first, second ++ more, hfirst, hsecond.look hs hmore,
        List.append_assoc ..⟩

/-- One activity after the other, up to its end. -/
theorem looked_bind_done (h : Looked network mayBeCancelled (p >>= f) events (done b)) :
    ∃ a first second, Looked network mayBeCancelled p first (done a) ∧
      Looked network mayBeCancelled (f a) second (done b) ∧ events = first ++ second := by
  obtain ⟨left, -, hnone, hdone⟩ | h := looked_bind h
  · have hresult := result?_bind hnone f
    rw [← hdone] at hresult
    cases hresult
  · exact h

/-- What is done after a look at some time. -/
theorem exists_looked_of_poll {time : Nat} {ended : α × Site σ}
    (hcancelled : s.cancelled = true → ended.2.cancelled = true)
    (h : ∃ events, ended.2.log = (p.poll network (s.atTime time)).2.log ++ events ∧
      Looked network (ended.2.cancelled = true) (p.poll network (s.atTime time)).1 events
        (done ended.1)) :
    ∃ events, ended.2.log = s.log ++ events ∧
      Looked network (ended.2.cancelled = true) p events (done ended.1) := by
  obtain ⟨events, hlog, h⟩ := h
  obtain ⟨more, hmore⟩ := log_prefix_poll network p (s.atTime time)
  refine ⟨more ++ events, ?_, h.head (s := s.atTime time) hcancelled hmore⟩
  rw [hlog, ← hmore, Site.log_atTime, List.append_assoc]

/-- **A run of an activity to its end** is some looks, of which none found the run cancelled if it
is not cancelled in the end. -/
theorem exists_looked_run (network : Network σ) (cancelAt : Option Nat) (p : Activity α)
    (s : Site σ) :
    ∃ events, (p.run network cancelAt s).2.log = s.log ++ events ∧
      Looked network ((p.run network cancelAt s).2.cancelled = true) p events
        (done (p.run network cancelAt s).1) := by
  fun_induction run network cancelAt p s with
  | case1 p s cancelAt a hp =>
    obtain rfl := result?_eq_some_iff.1 hp
    exact ⟨[], (List.append_nil _).symm, .refl⟩
  | case2 p s hp left ih =>
    exact exists_looked_of_poll (fun hs => cancelled_run ((cancelled_poll p _).trans hs)) ih
  | case3 p s hp time hle ih => exact ih
  | case4 p s hp time hlt left ih =>
    exact exists_looked_of_poll (fun hs => cancelled_run ((cancelled_poll p _).trans hs)) ih

end Activity

end HardwareWatch
