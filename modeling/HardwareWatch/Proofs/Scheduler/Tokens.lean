import HardwareWatch.Proofs.Scheduler.Orders

/-!
# Tokens of tasks

A task keeps the token of the registration that its host had when the cycle began. The registration
may be replaced or removed since, and then the token is cancelled.

* `Scheduler.TokensValid` says how tokens, registrations and tasks go together.
* `Scheduler.TokensValid.isCancelled_eq_false_iff` says exactly when the token of a task is not
  cancelled.
* `Scheduler.plan_of_isShutDown` says that no tasks are spawned once the scheduler is shut down.
* `runs_cancelled` says that tasks are cancelled with their registrations, and for good when the
  scheduler is shut down.
-/

namespace HardwareWatch

universe u

open Relation (ReflTransGen)

namespace Scheduler

variable {ρ : Type u} {s s' : Scheduler ρ}

/-- How tokens, registrations and tasks go together. -/
structure TokensValid (s : Scheduler ρ) : Prop where
  named : ∀ name slot, s.slots.get? name = some slot → slot.settings.hostname = name
  issued : ∀ name slot, s.slots.get? name = some slot → slot.token < s.nextId
  issuedCancelled : ∀ token ∈ s.cancelledTokens, token < s.nextId
  /-- No two registrations have one token. -/
  distinct : ∀ name name' slot slot', s.slots.get? name = some slot →
    s.slots.get? name' = some slot' → slot.token = slot'.token → name = name'
  /-- The tokens of registrations are not cancelled before the scheduler is shut down. -/
  valid : s.isShutDown = false → ∀ name slot, s.slots.get? name = some slot →
    slot.token ∉ s.cancelledTokens
  /-- A task has the registration of its host, or it is cancelled. -/
  current : ∀ t ∈ s.tasks, s.slots.get? t.slot.settings.hostname = some t.slot ∨
    t.slot.token ∈ s.cancelledTokens
  shutDown : s.isShutDown = true → ∀ t ∈ s.tasks, t.slot.token ∈ s.cancelledTokens

theorem tokensValid_idle (engine : EngineSettings) : (idle engine : Scheduler ρ).TokensValid where
  named _ _ hslot := nomatch hslot
  issued _ _ hslot := nomatch hslot
  issuedCancelled _ htoken := nomatch htoken
  distinct _ _ _ _ hslot := nomatch hslot
  valid _ _ _ hslot := nomatch hslot
  current _ ht := nomatch ht
  shutDown hdown := nomatch hdown

namespace TokensValid

theorem step (hs : s.TokensValid) (h : TaskStep s s') : s'.TokensValid := by
  have hcancelled := h.unchanged.1
  obtain ⟨k, t₀, state, -, -, htasks, -, hslots, hshut, hle⟩ := h.inversion
  have hmem : ∀ t ∈ s'.tasks, ∃ t₁ ∈ s.tasks, t.slot = t₁.slot := fun t ht => by
    obtain ⟨i, hi⟩ := List.mem_iff_getElem?.1 (htasks ▸ ht)
    rcases of_getElem?_setState hi with ⟨-, -, t₁, ht₁, heq⟩ | hi
    · exact ⟨t₁, List.mem_of_getElem? ht₁, heq⟩
    · exact ⟨t, List.mem_of_getElem? hi, rfl⟩
  constructor
  case named => exact hslots ▸ hs.named
  case issued =>
    intro name slot hslot
    exact Nat.lt_of_lt_of_le (hs.issued name slot (hslots ▸ hslot)) hle
  case issuedCancelled =>
    intro token htoken
    exact Nat.lt_of_lt_of_le (hs.issuedCancelled token (hcancelled ▸ htoken)) hle
  case distinct => exact hslots ▸ hs.distinct
  case valid =>
    rw [hshut, hslots, hcancelled]
    exact hs.valid
  case current =>
    intro t ht
    obtain ⟨t₁, ht₁, heq⟩ := hmem t ht
    rw [hslots, hcancelled, heq]
    exact hs.current t₁ ht₁
  case shutDown =>
    intro hdown t ht
    obtain ⟨t₁, ht₁, heq⟩ := hmem t ht
    rw [hcancelled, heq]
    exact hs.shutDown (hshut ▸ hdown) t₁ ht₁

/-- The registration of one host is replaced, or it is removed. -/
theorem replace (hs : s.TokensValid) {hostname : String} (new : Option HostSlot)
    (htasks : s'.tasks = s.tasks) (hshut : s'.isShutDown = s.isShutDown)
    (hle : s.nextId ≤ s'.nextId)
    (hcancelled : s'.cancelledTokens = (s.tokenOf? hostname).toList ++ s.cancelledTokens)
    (hget : ∀ name, s'.slots.get? name = if hostname = name then new else s.slots.get? name)
    (hnew : ∀ slot, new = some slot →
      slot.settings.hostname = hostname ∧ s.nextId ≤ slot.token ∧ slot.token < s'.nextId) :
    s'.TokensValid := by
  have hmem : ∀ token, token ∈ s'.cancelledTokens ↔
      s.tokenOf? hostname = some token ∨ token ∈ s.cancelledTokens := fun token => by
    rw [hcancelled, List.mem_append, Option.mem_toList]
  have hslots : ∀ name slot, s'.slots.get? name = some slot →
      hostname = name ∧ new = some slot ∨ hostname ≠ name ∧ s.slots.get? name = some slot :=
    fun name slot hslot => by
      rw [hget] at hslot
      split at hslot
      · exact .inl ⟨‹_›, hslot⟩
      · exact .inr ⟨‹_›, hslot⟩
  have hold : ∀ token, s.tokenOf? hostname = some token →
      ∃ slot, s.slots.get? hostname = some slot ∧ slot.token = token := fun token h =>
    Option.map_eq_some_iff.1 h
  have hissued : ∀ token ∈ s'.cancelledTokens, token < s.nextId := fun token htoken => by
    rcases (hmem token).1 htoken with htoken | htoken
    · obtain ⟨slot, hslot, rfl⟩ := hold token htoken
      exact hs.issued hostname slot hslot
    · exact hs.issuedCancelled token htoken
  constructor
  case named =>
    intro name slot hslot
    rcases hslots name slot hslot with ⟨rfl, hs'⟩ | ⟨-, hs'⟩
    · exact (hnew slot hs').1
    · exact hs.named name slot hs'
  case issued =>
    intro name slot hslot
    rcases hslots name slot hslot with ⟨-, hs'⟩ | ⟨-, hs'⟩
    · exact (hnew slot hs').2.2
    · exact Nat.lt_of_lt_of_le (hs.issued name slot hs') hle
  case issuedCancelled =>
    intro token htoken
    exact Nat.lt_of_lt_of_le (hissued token htoken) hle
  case distinct =>
    intro name name' slot slot' hslot hslot' heq
    rcases hslots name slot hslot with ⟨rfl, h⟩ | ⟨hne, h⟩ <;>
      rcases hslots name' slot' hslot' with ⟨rfl, h'⟩ | ⟨hne', h'⟩
    · rfl
    · exact absurd (heq ▸ hs.issued name' slot' h') (Nat.not_lt.2 (hnew slot h).2.1)
    · exact absurd (heq ▸ hs.issued name slot h) (Nat.not_lt.2 (hnew slot' h').2.1)
    · exact hs.distinct name name' slot slot' h h' heq
  case valid =>
    intro hdown name slot hslot htoken
    rcases hslots name slot hslot with ⟨rfl, h⟩ | ⟨hne, h⟩
    · exact Nat.not_lt.2 (hnew slot h).2.1 (hissued _ htoken)
    · rcases (hmem _).1 htoken with htoken | htoken
      · -- the token of another host would be the one of this host
        obtain ⟨old, hold, heq⟩ := hold _ htoken
        exact hne (hs.distinct hostname name old slot hold h heq)
      · exact hs.valid (hshut ▸ hdown) name slot h htoken
  case current =>
    intro t ht
    rw [htasks] at ht
    rw [hmem, hget]
    rcases hs.current t ht with hslot | htoken
    · split
      · -- the host of the task is the one whose registration is replaced
        rename_i hname
        exact .inr (.inl (by rw [tokenOf?, hname, hslot, Option.map_some]))
      · exact .inl hslot
    · exact .inr (.inr htoken)
  case shutDown =>
    intro hdown t ht
    rw [htasks] at ht
    exact (hmem _).2 (.inr (hs.shutDown (hshut ▸ hdown) t ht))

theorem addHost (hs : s.TokensValid) (settings : HostSettings) :
    (s.addHost settings).TokensValid := by
  obtain ⟨new, hnew, hget, hle, hlt, hcancelled⟩ := exists_registration settings s
  refine hs.replace (some new) ?_ (isShutDown_apply (.addHost settings) s)
    (Nat.le_of_lt (Nat.lt_of_le_of_lt hle hlt)) hcancelled hget ?_
  · rw [Scheduler.addHost]
    split <;> rfl
  · rintro slot ⟨⟩
    exact ⟨congrArg HostSettings.hostname hnew, hle, hlt⟩

theorem removeHost (hs : s.TokensValid) (hostname : String) :
    (s.removeHost hostname).2.TokensValid := by
  refine hs.replace none ?_ (isShutDown_apply (.removeHost hostname) s)
    (Nat.le_of_eq (nextId_removeHost hostname s).symm) (cancelledTokens_removeHost hostname s)
    (get?_slots_removeHost hostname s) nofun
  rw [Scheduler.removeHost]
  split <;> rfl

/-- The tasks that a cycle begins with have the registrations of their hosts. -/
theorem of_mem_tasks_beginCycle (hs : s.TokensValid) {t : HostTask ρ}
    (ht : t ∈ s.beginCycle.2.tasks) : t ∈ s.tasks ∨
      s.isShutDown = false ∧ s.slots.get? t.slot.settings.hostname = some t.slot := by
  rw [tasks_beginCycle, List.mem_append] at ht
  refine ht.imp_right fun ht => ?_
  split at ht
  · cases ht
  · rename_i hdown
    obtain ⟨slot, hslot, rfl⟩ := List.mem_map.1 ht
    obtain ⟨name, hget⟩ := NameMap.mem_values_iff.1 hslot
    exact ⟨Bool.eq_false_iff.2 hdown, by rwa [← hs.named name slot hget] at hget⟩

theorem beginCycle (hs : s.TokensValid) : s.beginCycle.2.TokensValid where
  named := hs.named
  issued := hs.issued
  issuedCancelled := hs.issuedCancelled
  distinct := hs.distinct
  valid := hs.valid
  current t ht := (hs.of_mem_tasks_beginCycle ht).elim (hs.current t) fun h => .inl h.2
  shutDown hdown t ht := (hs.of_mem_tasks_beginCycle ht).elim (hs.shutDown hdown t) fun h =>
    absurd (hdown.symm.trans h.1) (by decide)

theorem ofShutDown (hs : s.TokensValid) : s.shutDown.TokensValid := by
  have hmem : ∀ token, token ∈ s.shutDown.cancelledTokens ↔
      (∃ name slot, s.slots.get? name = some slot ∧ slot.token = token) ∨
        token ∈ s.cancelledTokens := fun token => by
    rw [shutDown_eq, List.mem_append, List.mem_reverse, List.mem_map]
    simp only [NameMap.mem_values_iff, exists_and_right, exists_comm]
  have htasks : s.shutDown.tasks = s.tasks := by rw [shutDown_eq]
  have hslots : s.shutDown.slots = s.slots := by rw [shutDown_eq]
  have hnext : s.shutDown.nextId = s.nextId := by rw [shutDown_eq]
  have hdown : s.shutDown.isShutDown = true := by rw [shutDown_eq]
  have hall : ∀ t ∈ s.tasks, t.slot.token ∈ s.shutDown.cancelledTokens := fun t ht =>
    (hmem _).2 ((hs.current t ht).imp_left fun h => ⟨_, _, h, rfl⟩)
  constructor
  case named => exact hslots ▸ hs.named
  case issued =>
    intro name slot hslot
    exact hnext ▸ hs.issued name slot (hslots ▸ hslot)
  case issuedCancelled =>
    intro token htoken
    rw [hnext]
    rcases (hmem token).1 htoken with ⟨name, slot, hslot, rfl⟩ | htoken
    · exact hs.issued name slot hslot
    · exact hs.issuedCancelled token htoken
  case distinct => exact hslots ▸ hs.distinct
  case valid => exact fun hup => absurd (hdown.symm.trans hup) (by decide)
  case current => exact fun t ht => .inr (hall t (htasks ▸ ht))
  case shutDown => exact fun _ t ht => hall t (htasks ▸ ht)

theorem apply (hs : s.TokensValid) (o : SchedulerOrder) : (o.apply s).TokensValid := by
  cases o with
  | call c =>
    cases c with
    | addHost settings => exact hs.addHost settings
    | removeHost hostname => exact hs.removeHost hostname
    | runCycle => exact hs.beginCycle
  | shutDown => exact hs.ofShutDown

theorem of_goes (hs : s.TokensValid) (h : ReflTransGen Goes s s') : s'.TokensValid := by
  induction h with
  | refl => exact hs
  | tail _ h ih =>
    cases h with
    | order o => exact ih.apply o
    | step h => exact ih.step h

/-- **When the token of a task is not cancelled**: exactly as long as its host has the registration
that it had when the cycle began, and the scheduler is not shut down. -/
theorem isCancelled_eq_false_iff (hs : s.TokensValid) {t : HostTask ρ} (ht : t ∈ s.tasks) :
    s.isCancelled t.slot.token = false ↔
      s.isShutDown = false ∧ s.slots.get? t.slot.settings.hostname = some t.slot := by
  rw [← Bool.not_eq_true, isCancelled_iff]
  constructor
  · intro hvalid
    exact ⟨Bool.eq_false_iff.2 fun hdown => hvalid (hs.shutDown hdown t ht),
      (hs.current t ht).resolve_right hvalid⟩
  · rintro ⟨hup, hslot⟩
    exact hs.valid hup _ _ hslot

end TokensValid

/-! ## No more tasks -/

/-- Once the scheduler is shut down it stays so whatever it is told, and spawns no more tasks. -/
theorem apply_of_isShutDown (hs : s.isShutDown = true) (o : SchedulerOrder) :
    (o.apply s).isShutDown = true ∧ (o.apply s).tasks = s.tasks := by
  constructor
  · cases o with
    | call c => exact (isShutDown_apply c s).trans hs
    | shutDown => rw [SchedulerOrder.apply, shutDown_eq]
  · rcases apply_cases o s with ⟨htasks, -⟩ | h
    · exact htasks
    · rw [h, tasks_beginCycle, hs, if_pos rfl, List.append_nil]

theorem plan_of_isShutDown (hs : s.isShutDown = true) (h : ReflTransGen Goes s s') :
    s'.isShutDown = true ∧ s'.plan = s.plan := by
  induction h with
  | refl => exact ⟨hs, rfl⟩
  | tail _ h ih =>
    obtain ⟨hdown, hplan⟩ := ih
    cases h with
    | step h =>
      obtain ⟨k, t, state, -, -, -, -, -, hkept, -⟩ := h.inversion
      exact ⟨hkept.trans hdown, h.plan_eq.trans hplan⟩
    | order o =>
      obtain ⟨hkept, htasks⟩ := apply_of_isShutDown hdown o
      exact ⟨hkept, by rw [plan, htasks, ← plan, hplan]⟩

end Scheduler

/-- **Visits are cancelled** with the registrations that their cycles began with, and all of them
when the scheduler is shut down. No cycle after that spawns a task. -/
theorem runs_cancelled {ρ : Type u} {engine : EngineSettings} {s : Scheduler ρ}
    (h : ReflTransGen Scheduler.Goes (.idle engine) s) :
    (∀ t ∈ s.tasks, s.tokenOf? t.slot.settings.hostname = some t.slot.token ∨
      s.isCancelled t.slot.token = true) ∧
    ∀ s', ReflTransGen Scheduler.Goes s.shutDown s' →
      (∀ t ∈ s'.tasks, s'.isCancelled t.slot.token = true) ∧ s'.plan = s.plan := by
  have hvalid : s.TokensValid := (Scheduler.tokensValid_idle engine).of_goes h
  refine ⟨fun t ht => ?_, fun s' h' => ?_⟩
  · rcases hvalid.current t ht with hslot | htoken
    · exact .inl (by rw [Scheduler.tokenOf?, hslot, Option.map_some])
    · exact .inr (Scheduler.isCancelled_iff.2 htoken)
  · have hdown : s.shutDown.isShutDown = true ∧ s.shutDown.plan = s.plan := by
      rw [Scheduler.shutDown_eq]
      exact ⟨rfl, rfl⟩
    obtain ⟨hdown', hplan⟩ := Scheduler.plan_of_isShutDown hdown.1 h'
    have hvalid' : s'.TokensValid := hvalid.ofShutDown.of_goes h'
    exact ⟨fun t ht => Scheduler.isCancelled_iff.2 (hvalid'.shutDown hdown' t ht),
      hplan.trans hdown.2⟩

namespace ReplacedHost

/-- A host. -/
def server : HostSettings := .named "srv" .linux

/-- A cycle has begun with the host, and its task has started. -/
def visited : Scheduler Unit :=
  ((Scheduler.idle .standard).addHost server).beginCycle.2.start 0 ⟨server, 0, 1⟩

/-- The host is registered once more. -/
def replaced : Scheduler Unit := visited.addHost server

theorem reaches_replaced : ReflTransGen Scheduler.Goes (.idle .standard) replaced := by
  have hadded : ReflTransGen Scheduler.Goes (.idle .standard)
      ((Scheduler.idle .standard : Scheduler Unit).addHost server) :=
    .single (.order _ (.call (.addHost server)))
  have hcycle := hadded.tail (.order _ (.call .runCycle))
  have hstart : ReflTransGen Scheduler.Goes (.idle .standard) visited :=
    hcycle.tail (.step (.start (i := 0) (t := ⟨0, ⟨server, 0, 1⟩, .spawned⟩) rfl rfl))
  exact hstart.tail (.order _ (.call (.addHost server)))

/-- The visit to the host that was replaced is cancelled, and the new registration is not. -/
theorem replaced_visit_cancelled :
    (replaced.tasks.map fun t => (t.isActive, replaced.isCancelled t.slot.token)) =
        [(true, true)] ∧
      ((replaced.tokenOf? "srv").map replaced.isCancelled) = some false ∧
      ∀ s', ReflTransGen Scheduler.Goes replaced.shutDown s' →
        (∀ t ∈ s'.tasks, s'.isCancelled t.slot.token = true) ∧ s'.plan = replaced.plan :=
  ⟨by decide, by decide, (runs_cancelled reaches_replaced).2⟩

end ReplacedHost

end HardwareWatch
