import HardwareWatch.Proofs.Activity.Finish

/-!
# Activities with more in their results

An activity may keep more of what happened than its result says. To find out about the result, one
looks at an activity that does the same and keeps this too, and sees the result in what it keeps.

* `Activity.SeenAs` says that two activities do the same, and that the results of the one are seen
  in those of the other. It has a rule for every way to put activities together.
* `Activity.SeenAs.run` says that they leave the same site when they are run, and one result is seen
  in the other.
-/

namespace HardwareWatch.Activity

/-- An activity that is seen as another one: both do the same, and what the other one comes to, as a
whole and in its parts, is seen in what the activity comes to. -/
inductive SeenAs : {α β : Type} → (α → β) → Activity α → Activity β → Prop
  | done {α β : Type} {f : α → β} (a : α) : SeenAs f (done a) (done (f a))
  | update {α β γ : Type} {f : α → β} {g : Resource → γ × Resource} {next : γ → Activity α}
      {next' : γ → Activity β} (h : ∀ c, SeenAs f (next c) (next' c)) :
    SeenAs f (update g next) (update g next')
  | isCancelled {α β : Type} {f : α → β} {next : Bool → Activity α} {next' : Bool → Activity β}
      (h : ∀ b, SeenAs f (next b) (next' b)) : SeenAs f (isCancelled next) (isCancelled next')
  | now {α β : Type} {f : α → β} {next : Nat → Activity α} {next' : Nat → Activity β}
      (h : ∀ t, SeenAs f (next t) (next' t)) : SeenAs f (now next) (now next')
  | waitUntil {α β : Type} {f : α → β} (time : Nat) {next : Activity α} {next' : Activity β}
      (h : SeenAs f next next') : SeenAs f (waitUntil time next) (waitUntil time next')
  | call {α β : Type} {f : α → β} (r : Request) (pending : Option (Pending r))
      {next : Except EngineError r.Answer → Activity α}
      {next' : Except EngineError r.Answer → Activity β}
      (h : ∀ answer, SeenAs f (next answer) (next' answer)) :
    SeenAs f (call r pending next) (call r pending next')
  | within {α β γ δ : Type} {f : α → β} {g : γ → δ} (deadline : Nat) {body : Activity γ}
      {body' : Activity δ} {next : Option γ → Activity α} {next' : Option δ → Activity β}
      (hb : SeenAs g body body') (h : ∀ c, SeenAs f (next c) (next' (c.map g))) :
    SeenAs f (within deadline body next) (within deadline body' next')
  | unlessCancelled {α β γ δ : Type} {f : α → β} {g : γ → δ} {body : Activity γ}
      {body' : Activity δ} {next : Option γ → Activity α} {next' : Option δ → Activity β}
      (hb : SeenAs g body body') (h : ∀ c, SeenAs f (next c) (next' (c.map g))) :
    SeenAs f (unlessCancelled body next) (unlessCancelled body' next')
  | inTurn {α β γ δ : Type} {f : α → β} {g : γ → δ} (stage : TurnStage) (deadline : Nat)
      {body : Activity γ} {body' : Activity δ} {next : Option γ → Activity α}
      {next' : Option δ → Activity β} (hb : SeenAs g body body')
      (h : ∀ c, SeenAs f (next c) (next' (c.map g))) :
    SeenAs f (inTurn stage deadline body next) (inTurn stage deadline body' next')
  | both {α β γ γ' δ δ' : Type} {f : α → β} {g : γ → γ'} {k : δ → δ'} {left : Activity γ}
      {left' : Activity γ'} {right : Activity δ} {right' : Activity δ'} {next : γ → δ → Activity α}
      {next' : γ' → δ' → Activity β} (hl : SeenAs g left left') (hr : SeenAs k right right')
      (h : ∀ c d, SeenAs f (next c d) (next' (g c) (k d))) :
    SeenAs f (both left right next) (both left' right' next')

namespace SeenAs

variable {σ α β γ δ ι : Type} {f : α → β} {p : Activity α} {q : Activity β}

/-! ## At one instant -/

theorem result?_eq (h : SeenAs f p q) : q.result? = p.result?.map f := by
  cases h <;> rfl

theorem abandon_eq (h : SeenAs f p q) (s : Site σ) : q.abandon s = p.abandon s := by
  induction h generalizing s with
  | call _ pending _ _ => cases pending <;> rfl
  | within _ _ _ ihb _ => exact ihb s
  | unlessCancelled _ _ ihb _ => exact ihb s
  | inTurn stage _ _ _ ihb _ =>
    cases stage with
    | entered ticket => exact congrArg (·.leaveQueue ticket) (ihb s)
    | _ => rfl
  | both _ _ _ ihl ihr _ => rw [abandon, abandon, ihl, ihr]
  | _ => rfl

theorem wake_eq (h : SeenAs f p q) (s : Site σ) : q.wake s = p.wake s := by
  induction h with
  | call _ pending _ _ => cases pending <;> rfl
  | within _ _ _ ihb _ => rw [wake, wake, ihb]
  | unlessCancelled _ _ ihb _ => rw [wake, wake, ihb]
  | inTurn _ _ _ _ ihb _ => rw [wake, wake, ihb]
  | both hl hr h ihl ihr ih =>
    rename_i left left' right right' next next'
    rw [wake, wake, hl.result?_eq, hr.result?_eq, ihl, ihr]
    cases left.result? <;> cases right.result? <;> rfl
  | _ => rfl

/-- What is left of two activities is seen as one another, at one site. -/
structure Left (f : α → β) (left : Activity α × Site σ) (left' : Activity β × Site σ) : Prop where
  seenAs : SeenAs f left.1 left'.1
  site_eq : left'.2 = left.2

/-- **At an instant** both go on in the same way. -/
theorem left (network : Network σ) (h : SeenAs f p q) (s : Site σ) :
    Left f (p.poll network s) (q.poll network s) := by
  induction h generalizing s with
  | done a => exact ⟨.done a, rfl⟩
  | update _ ih =>
    rw [poll, poll]
    exact ih _ _
  | isCancelled _ ih =>
    rw [poll, poll]
    exact ih _ _
  | now _ ih =>
    rw [poll, poll]
    exact ih _ _
  | waitUntil time h ih =>
    rw [poll, poll]
    split
    · exact ih s
    · exact ⟨.waitUntil time h, rfl⟩
  | call r pending h ih =>
    cases pending with
    | none =>
      rw [poll, poll]
      dsimp only
      split
      · exact ih _ _
      · exact ⟨.call r _ h, rfl⟩
    | some pending =>
      rw [poll, poll]
      split
      · exact ih _ _
      · exact ⟨.call r _ h, rfl⟩
  | within deadline hb h ihb ih =>
    rename_i body body' next next'
    rw [poll, poll]
    obtain ⟨hbody, hsite⟩ := ihb s
    dsimp only
    rw [hsite, hbody.result?_eq, hbody.abandon_eq]
    cases (body.poll network s).1.result? with
    | some c => exact ih (some c) _
    | none =>
      dsimp only [Option.map]
      split
      · exact ih none _
      · exact ⟨.within deadline hbody h, rfl⟩
  | unlessCancelled hb h ihb ih =>
    rename_i body body' next next'
    rw [poll, poll]
    obtain ⟨hbody, hsite⟩ := ihb s
    split
    · rw [hb.abandon_eq]
      exact ih none _
    · dsimp only
      rw [hsite, hbody.result?_eq]
      cases (body.poll network s).1.result? with
      | some c => exact ih _ _
      | none => exact ⟨.unlessCancelled hbody h, rfl⟩
  | inTurn stage deadline hb h ihb ih =>
    rename_i body body' next next'
    rw [poll, poll]
    obtain ⟨hbody, hsite⟩ := ihb (stage.arrive s)
    dsimp only
    split
    · rw [hsite, hbody.result?_eq]
      cases (body.poll network (stage.arrive s)).1.result? with
      | some c => exact ih _ _
      | none => exact ⟨.inTurn _ deadline hbody h, rfl⟩
    · split
      · exact ih none _
      · exact ⟨.inTurn _ deadline hb h, rfl⟩
  | both hl hr h ihl ihr ih =>
    rename_i left left' right right' next next'
    rw [poll, poll]
    obtain ⟨hleft, hsite⟩ := ihl s
    dsimp only
    rw [hsite]
    obtain ⟨hright, hsite⟩ := ihr (left.poll network s).2
    rw [hsite, hleft.result?_eq, hright.result?_eq]
    cases (left.poll network s).1.result? with
    | none => exact ⟨.both hleft hright h, rfl⟩
    | some c =>
      cases (right.poll network (left.poll network s).2).1.result? with
      | none => exact ⟨.both hleft hright h, rfl⟩
      | some d => exact ih c d _

/-! ## Up to the end -/

/-- **Up to the end**: both leave one site, and the one result is seen in the other. -/
theorem run (network : Network σ) (cancelAt : Option Nat) (h : SeenAs f p q) (s : Site σ) :
    q.run network cancelAt s =
      (f (p.run network cancelAt s).1, (p.run network cancelAt s).2) := by
  fun_induction Activity.run network cancelAt p s generalizing q with
  | case1 p s cancelAt a hp =>
    have hq : q.result? = some (f a) := by rw [h.result?_eq, hp, Option.map_some]
    rw [result?_eq_some_iff.1 hq, run_done]
  | case2 p s hp left =>
    rename_i ih
    have hq : q.result? = none := by rw [h.result?_eq, hp, Option.map_none]
    obtain ⟨hleft, hsite⟩ := h.left network (s.atTime (max s.clock (p.wake s)))
    rw [run_eq_finish hq, h.wake_eq, finish, hsite]
    exact ih hleft
  | case3 p s hp time hle ih =>
    have hq : q.result? = none := by rw [h.result?_eq, hp, Option.map_none]
    rw [run_eq_run_cancelled hq (by rwa [h.wake_eq])]
    exact ih h
  | case4 p s hp time hlt left =>
    rename_i ih
    have hq : q.result? = none := by rw [h.result?_eq, hp, Option.map_none]
    obtain ⟨hleft, hsite⟩ := h.left network (s.atTime (max s.clock (p.wake s)))
    rw [run_eq_run_poll hq (by rw [h.wake_eq]; exact Nat.lt_of_not_le hlt), h.wake_eq, hsite]
    exact ih hleft

/-! ## Activities put together -/

theorem pure {a : α} {b : β} (h : f a = b) : SeenAs f (pure a) (pure b) := h ▸ .done a

theorem bind {g : γ → δ} {k : α → Activity γ} {k' : β → Activity δ} (h : SeenAs f p q)
    (hk : ∀ a, SeenAs g (k a) (k' (f a))) : SeenAs g (p >>= k) (q >>= k') := by
  change SeenAs g (p.bind k) (q.bind k')
  induction h with
  | done a => exact hk a
  | update _ ih => exact .update fun c => ih c hk
  | isCancelled _ ih => exact .isCancelled fun b => ih b hk
  | now _ ih => exact .now fun t => ih t hk
  | waitUntil time _ ih => exact .waitUntil time (ih hk)
  | call r pending _ ih => exact .call r pending fun answer => ih answer hk
  | within deadline hb _ _ ih => exact .within deadline hb fun c => ih c hk
  | unlessCancelled hb _ _ ih => exact .unlessCancelled hb fun c => ih c hk
  | inTurn stage deadline hb _ _ ih => exact .inTurn stage deadline hb fun c => ih c hk
  | both hl hr _ _ _ ih => exact .both hl hr fun c d => ih c d hk

/-- An activity is seen as itself. -/
theorem refl (p : Activity α) : SeenAs id p p := by
  induction p with
  | done a => exact .done a
  | update _ _ ih => exact .update ih
  | isCancelled _ ih => exact .isCancelled ih
  | now _ ih => exact .now ih
  | waitUntil time _ ih => exact .waitUntil time ih
  | call r pending _ ih => exact .call r pending ih
  | within deadline _ _ ihb ih =>
    exact .within deadline ihb fun c => by rw [Option.map_id]; exact ih c
  | unlessCancelled _ _ ihb ih =>
    exact .unlessCancelled ihb fun c => by rw [Option.map_id]; exact ih c
  | inTurn stage deadline _ _ ihb ih =>
    exact .inTurn stage deadline ihb fun c => by rw [Option.map_id]; exact ih c
  | both _ _ _ ihl ihr ih => exact .both ihl ihr ih

/-- Both do the same part first. -/
theorem after {k : γ → Activity α} {k' : γ → Activity β} (p : Activity γ)
    (hk : ∀ c, SeenAs f (k c) (k' c)) : SeenAs f (p >>= k) (p >>= k') := (refl p).bind hk

theorem mapM {run : ι → Activity α} {run' : ι → Activity β} {l : List ι}
    (h : ∀ i ∈ l, SeenAs f (run i) (run' i)) : SeenAs (List.map f) (l.mapM run) (l.mapM run') := by
  induction l with
  | nil =>
    rw [List.mapM_nil, List.mapM_nil]
    exact pure rfl
  | cons i l ih =>
    rw [List.mapM_cons, List.mapM_cons]
    exact (h i List.mem_cons_self).bind fun a =>
      (ih fun j hj => h j (List.mem_cons_of_mem i hj)).bind fun _ => pure rfl

theorem all {run : ι → Activity α} {run' : ι → Activity β} {l : List ι}
    (h : ∀ i ∈ l, SeenAs f (run i) (run' i)) :
    SeenAs (List.map f) (all (l.map run)) (all (l.map run')) := by
  induction l with
  | nil => exact .done []
  | cons i l ih =>
    exact .both (h i List.mem_cons_self) (ih fun j hj => h j (List.mem_cons_of_mem i hj))
      fun a as => .done (a :: as)

theorem foldlM {step : α → ι → Activity α} {step' : β → ι → Activity β} {l : List ι}
    (h : ∀ a, ∀ i ∈ l, SeenAs f (step a i) (step' (f a) i)) (a : α) :
    SeenAs f (l.foldlM step a) (l.foldlM step' (f a)) := by
  induction l generalizing a with
  | nil => exact pure rfl
  | cons i l ih =>
    rw [List.foldlM_cons, List.foldlM_cons]
    exact (h a i List.mem_cons_self).bind
      (ih fun a j hj => h a j (List.mem_cons_of_mem i hj))

end SeenAs

end HardwareWatch.Activity
