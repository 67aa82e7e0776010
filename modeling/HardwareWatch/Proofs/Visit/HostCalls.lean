import HardwareWatch.Proofs.Visit.TurnsKept

/-!
# Calls at one host

Calls of probes go on at one host side by side, in whatever order they are looked at. Some of them
wait for their turn, any may be given up by its caller, and the run may be cancelled at any time.

* `HostCalls` is the state of the calls, `HostCalls.Goes` says what it is next.
* `HostCalls.At` says at which stages the calls are, `HostCalls.At.goes` that there always are such
  stages.
* `probes_take_turns` says that two probes that wait for their turn are never under way at the same
  time, that they begin in time or not at all, and that no turn is left over.
-/

namespace HardwareWatch

open Relation (ReflTransGen)

/-- The time up to which an activity stands in the queue, if it does. -/
def Activity.turnLimit? {α : Type} : Activity α → Option Nat
  | unlessCancelled body _ => body.turnLimit?
  | inTurn (.waiting _) limit _ _ => some limit
  | _ => none

variable {σ ι : Type}

/-- Calls of probes that go on at one host. -/
structure HostCalls (σ : Type) {ι : Type} (calls : ι → ProbeCall) where
  site : Site σ
  /-- What is left of the calls, and nothing of those that their callers gave up. -/
  rest : ∀ i, Option (Activity (calls i).Result)
  /-- When a call was looked at first. -/
  arrival : ι → Option Nat
  /-- What happened to the requests of the calls, the latest first. -/
  journal : CallJournal ι

namespace HostCalls

variable {calls : ι → ProbeCall} [DecidableEq ι]

/-- The calls before any of them was looked at. -/
def start (v : Visit) (calls : ι → ProbeCall) (s : Site σ) : HostCalls σ calls :=
  ⟨{ s with events := [] }, fun i => some (v.call (calls i)), fun _ => none, []⟩

/-- The site as a call finds it, which may not have noticed yet that the run was cancelled. -/
def siteFor (g : HostCalls σ calls) (noticed : Bool) : Site σ :=
  { g.site with cancelled := noticed && g.site.cancelled }

/-- The calls after something was done at the site for one of them. -/
def leaveSite (g : HostCalls σ calls) (i : ι) (left : Option (Activity (calls i).Result))
    (s : Site σ) : HostCalls σ calls :=
  { g with
    site := { s with cancelled := g.site.cancelled, events := [] }
    rest := Function.update g.rest i left
    journal := s.events.map (i, ·) ++ g.journal }

/-- Let a call go on as far as it can. -/
def look (network : Network σ) (noticed : Bool) (g : HostCalls σ calls) (i : ι)
    (p : Activity (calls i).Result) : HostCalls σ calls :=
  let (left, s) := p.poll network (g.siteFor noticed)
  { g.leaveSite i (some left) s with
    arrival := Function.update g.arrival i ((g.arrival i).or (some g.site.clock)) }

/-- Give a call up. -/
def giveUp (g : HostCalls σ calls) (i : ι) (p : Activity (calls i).Result) : HostCalls σ calls :=
  g.leaveSite i none (p.abandon g.site)

/-- What the state of the calls is next. Any call may be looked at, and one that stands in the queue
is looked at when its wait is over or at most some milliseconds later. -/
inductive Goes (network : Network σ) (calls : ι → ProbeCall) (delayMs : Nat) :
    HostCalls σ calls → HostCalls σ calls → Prop
  | look {g : HostCalls σ calls} {i : ι} {p : Activity (calls i).Result} (noticed : Bool)
      (h : g.rest i = some p) : Goes network calls delayMs g (g.look network noticed i p)
  | giveUp {g : HostCalls σ calls} {i : ι} {p : Activity (calls i).Result}
      (h : g.rest i = some p) : Goes network calls delayMs g (g.giveUp i p)
  | cancel (g : HostCalls σ calls) :
    Goes network calls delayMs g { g with site := { g.site with cancelled := true } }
  /-- Others work on the host and ask extensions. -/
  | others (g : HostCalls σ calls) (resource : Resource) (state : σ) :
    Goes network calls delayMs g { g with site := { g.site with resource, network := state } }
  | wait {g : HostCalls σ calls} {time : Nat} (h : g.site.clock ≤ time)
      (hlimits : ∀ i p limit, g.rest i = some p → p.turnLimit? = some limit →
        time ≤ limit + delayMs) :
    Goes network calls delayMs g { g with site := g.site.atTime time }

theorem rest_leaveSite_self (g : HostCalls σ calls) (i : ι)
    (left : Option (Activity (calls i).Result)) (s : Site σ) :
    (g.leaveSite i left s).rest i = left :=
  Function.update_self ..

theorem rest_leaveSite_of_ne (g : HostCalls σ calls) {i j : ι} (h : j ≠ i)
    (left : Option (Activity (calls i).Result)) (s : Site σ) :
    (g.leaveSite i left s).rest j = g.rest j :=
  Function.update_of_ne h ..

end HostCalls

/-! ## Stages -/

namespace ProbeStage.Stands

variable {v : Visit} {c : ProbeCall} {stage : ProbeStage} {p : Activity c.Result}

theorem turnLimit? {ticket limit : Nat} (h : Stands v c (.waiting ticket limit) p) :
    p.turnLimit? = some limit := by
  cases h with
  | underWay h =>
    cases h
    rfl

theorem eq_ended (h : Stands v c stage p) (hp : p.result? ≠ none) : stage = .ended := by
  cases h with
  | underWay => exact absurd rfl hp
  | ended => rfl

end ProbeStage.Stands

namespace HostCalls

variable {calls : ι → ProbeCall} [DecidableEq ι] {v : Visit} {delayMs : Nat}
  {g g' : HostCalls σ calls}

/-- The calls are at these stages, and all is kept that goes with them. -/
structure At (v : Visit) (delayMs : Nat) (g : HostCalls σ calls) (stage : ι → ProbeStage) :
    Prop where
  stands : ∀ i p, g.rest i = some p → (stage i).Stands v (calls i) p
  givenUp : ∀ i, g.rest i = none → stage i = .ended
  fresh : ∀ i, stage i = .fresh → g.arrival i = none
  events : g.site.events = []
  kept : TurnsKept v calls delayMs g.site.clock g.site.turns stage g.arrival g.journal

theorem at_start (v : Visit) (calls : ι → ProbeCall) (delayMs : Nat) {s : Site σ}
    (hfree : s.turns.isFree = true) : (start v calls s).At v delayMs fun _ => .fresh where
  stands := by
    rintro i p ⟨⟩
    rw [Visit.call_eq]
    exact .underWay .fresh nofun
  givenUp i hi := absurd hi (Option.some_ne_none _)
  fresh _ _ := rfl
  events := rfl
  kept := by
    have hempty : s.turns.tickets = [] := List.isEmpty_iff.1 hfree
    have hnobody : ∀ ticket, ticket ∉ s.turns.tickets := fun ticket hticket =>
      absurd (hempty ▸ hticket) List.not_mem_nil
    refine ⟨⟨hempty ▸ List.nodup_nil, fun ticket hticket => absurd hticket (hnobody ticket),
      fun ticket => iff_of_false (hnobody ticket) ?_, ?_, ?_⟩, ⟨fun _ => rfl, ?_, ?_⟩, ⟨?_, ?_⟩⟩
    · rintro ⟨i, ⟨⟩⟩
    · rintro i j ticket ⟨⟩
    · rintro i ticket ⟨⟩
    · rintro i hi ⟨⟩
    · intro earlier hearlier i j hi hj hflight
      rw [List.suffix_nil.1 hearlier] at hflight
      cases hflight
    · rintro i ticket limit ⟨⟩
    · rintro i e ⟨⟩

namespace At

variable {stage : ι → ProbeStage} {i : ι}

/-- One of the calls goes on by moves, or it is given up. -/
theorem go (h : g.At v delayMs stage) {left : Option (Activity (calls i).Result)}
    {stage' : ProbeStage} {s' : Site σ} {arrival : ι → Option Nat}
    (hothers : ∀ j, j ≠ i → arrival j = g.arrival j)
    (harrival : ∀ time, g.arrival i = some time → arrival i = some time)
    (hleft : ∀ p, left = some p → stage'.Stands v (calls i) p)
    (hnone : left = none → stage' = .ended) (hfresh : stage' ≠ .fresh) (noticed : Bool)
    (hpath : ReflTransGen (ProbeMove v (calls i) (arrival i)) (stage i, g.siteFor noticed)
      (stage', s')) :
    { g.leaveSite i left s' with arrival }.At v delayMs (Function.update stage i stage') where
  stands j p hp := by
    by_cases hj : j = i
    · subst hj
      rw [Function.update_self]
      exact hleft p ((g.rest_leaveSite_self j left s').symm.trans hp)
    · rw [Function.update_of_ne hj]
      exact h.stands j p ((g.rest_leaveSite_of_ne hj left s').symm.trans hp)
  givenUp j hp := by
    by_cases hj : j = i
    · subst hj
      rw [Function.update_self]
      exact hnone ((g.rest_leaveSite_self j left s').symm.trans hp)
    · rw [Function.update_of_ne hj]
      exact h.givenUp j ((g.rest_leaveSite_of_ne hj left s').symm.trans hp)
  fresh j hj := by
    by_cases hji : j = i
    · rw [hji, Function.update_self] at hj
      exact absurd hj hfresh
    · rw [Function.update_of_ne hji] at hj
      exact (hothers j hji).trans (h.fresh j hj)
  events := rfl
  kept := by
    have hkept : ∀ j time, g.arrival j = some time → arrival j = some time := fun j time hj =>
      if hji : j = i then hji ▸ harrival time (hji ▸ hj) else (hothers j hji).trans hj
    refine TurnsKept.moves hpath ?_
    rw [Function.update_eq_self, siteFor, h.events]
    exact ⟨h.kept.queue, h.kept.requests, h.kept.times.arrive hkept⟩

theorem look (h : g.At v delayMs stage) (network : Network σ) (noticed : Bool)
    {p : Activity (calls i).Result} (hp : g.rest i = some p) :
    ∃ stage', (g.look network noticed i p).At v delayMs stage' := by
  have hfirst : stage i = .fresh → Function.update g.arrival i
      ((g.arrival i).or (some g.site.clock)) i = some g.site.clock := fun hfresh => by
    rw [Function.update_self, h.fresh i hfresh, Option.none_or]
  obtain ⟨stage', hstands, hfresh, hpath⟩ :=
    exists_moves_poll (h.stands i p hp) network (g.siteFor noticed) hfirst
  refine ⟨_, h.go (fun j hj => Function.update_of_ne hj ..) (fun time htime => ?_) ?_ nofun hfresh
    noticed hpath⟩
  · rw [Function.update_self, htime, Option.some_or]
  · rintro _ ⟨⟩
    exact hstands

theorem giveUp (h : g.At v delayMs stage) {p : Activity (calls i).Result}
    (hp : g.rest i = some p) : ∃ stage', (g.giveUp i p).At v delayMs stage' :=
  ⟨_, h.go (fun _ _ => rfl) (fun _ => id) nofun (fun _ => rfl) nofun true
    (exists_moves_abandon (h.stands i p hp) _ _)⟩

/-- **Whatever is next**, the calls are at some stages. -/
theorem goes {network : Network σ} (h : g.At v delayMs stage)
    (hgoes : Goes network calls delayMs g g') : ∃ stage', g'.At v delayMs stage' := by
  cases hgoes with
  | look noticed hp => exact h.look network noticed hp
  | giveUp hp => exact h.giveUp hp
  | cancel => exact ⟨stage, h.stands, h.givenUp, h.fresh, h.events, h.kept⟩
  | others resource state => exact ⟨stage, h.stands, h.givenUp, h.fresh, h.events, h.kept⟩
  | wait hle hlimits =>
    refine ⟨stage, h.stands, h.givenUp, h.fresh, h.events, h.kept.queue, h.kept.requests,
      h.kept.times.wait fun i ticket limit hi => ?_⟩
    cases hrest : g.rest i with
    | none => cases hi.symm.trans (h.givenUp i hrest)
    | some p => exact hlimits i p limit hrest (hi ▸ h.stands i p hrest).turnLimit?

/-- Where all calls are over, nobody has the turn. -/
theorem isFree (h : g.At v delayMs stage)
    (hfinished : ∀ i p, g.rest i = some p → p.result? ≠ none) : g.site.turns.isFree = true := by
  refine List.isEmpty_iff.2 (List.eq_nil_iff_forall_not_mem.2 fun ticket hticket => ?_)
  obtain ⟨i, hi⟩ := (h.kept.queue.held ticket).1 hticket
  have hended : stage i = .ended := by
    cases hrest : g.rest i with
    | none => exact h.givenUp i hrest
    | some p => exact (h.stands i p hrest).eq_ended (hfinished i p hrest)
  rw [hended] at hi
  cases hi

end At

end HostCalls

/-- **Probes take turns**: no two of those that wait for their turn are ever under way at the same
time. Each of them begins before its wait is over, as far as it is looked at in time, or not at all.
And where all calls are over, whatever their ends, the turn is free. -/
theorem probes_take_turns [DecidableEq ι] {network : Network σ} {v : Visit} {calls : ι → ProbeCall}
    {delayMs : Nat} {s : Site σ} {g : HostCalls σ calls} (hfree : s.turns.isFree = true)
    (h : ReflTransGen (HostCalls.Goes network calls delayMs) (.start v calls s) g) :
    (∀ earlier : CallJournal ι, earlier <:+ g.journal → earlier.IsExclusive calls) ∧
    (∀ i e, (i, e) ∈ g.journal → e.stage = .begun → (calls i).inTurn = true →
      ∃ time, g.arrival i = some time ∧
        e.time ≤ time + Visit.msOfSecs v.engine.serializationTimeoutSecs + delayMs) ∧
    ((∀ i p, g.rest i = some p → p.result? ≠ none) → g.site.turns.isFree = true) := by
  obtain ⟨stage, hat⟩ : ∃ stage, g.At v delayMs stage := by
    induction h with
    | refl => exact ⟨_, HostCalls.at_start v calls delayMs hfree⟩
    | tail _ hgoes ih =>
      obtain ⟨stage, hat⟩ := ih
      exact hat.goes hgoes
  exact ⟨hat.kept.requests.exclusive, hat.kept.times.begun, hat.isFree⟩

namespace TwoProbes

/-- A host. -/
def host : HostSettings := .named "srv" .linux

/-- A visit to the host. -/
def visit : Visit := ⟨⟨[], none⟩, host, .standard, 0⟩

/-- Two calls that wait for their turn. -/
def both (_ : Bool) : ProbeCall := ⟨"probe", true, ⟨"snmp", host, 30, .health⟩⟩

/-- Extensions that fail after five milliseconds. -/
def network : Network Unit := fun _ _ => (⟨5, .error ⟨.other, "refused"⟩⟩, ())

/-- One of the calls goes on. -/
def lookAt (g : HostCalls Unit both) (i : Bool) : HostCalls Unit both :=
  match g.rest i with
  | some p => g.look network true i p
  | none => g

/-- Five milliseconds pass. -/
def later (g : HostCalls Unit both) : HostCalls Unit both :=
  { g with site := g.site.atTime (g.site.clock + 5) }

/-- One of the calls asks, and the other one stands in the queue. -/
def waiting : HostCalls Unit both :=
  lookAt (lookAt (.start visit both (.fresh (.named "srv" .linux) ())) false) true

/-- The one has its answer, and the other one asks. -/
def asking : HostCalls Unit both := lookAt (lookAt (later waiting) false) true

/-- Both have their answers. -/
def finished : HostCalls Unit both := lookAt (later asking) true

theorem reaches_lookAt {g₀ g : HostCalls Unit both} (i : Bool)
    (h : ReflTransGen (HostCalls.Goes network both 0) g₀ g) :
    ReflTransGen (HostCalls.Goes network both 0) g₀ (lookAt g i) := by
  rw [lookAt]
  split
  · rename_i p hp
    exact h.tail (.look true hp)
  · exact h

theorem reaches_later {g₀ g : HostCalls Unit both}
    (h : ReflTransGen (HostCalls.Goes network both 0) g₀ g)
    (hlimits : ∀ i, ∀ limit ∈ (g.rest i).bind Activity.turnLimit?, g.site.clock + 5 ≤ limit) :
    ReflTransGen (HostCalls.Goes network both 0) g₀ (later g) :=
  h.tail (.wait (Nat.le_add_right _ _) fun i p limit hp hlimit =>
    hlimits i limit (by rw [hp]; exact hlimit))

theorem reaches_finished : ReflTransGen (HostCalls.Goes network both 0)
    (.start visit both (.fresh (.named "srv" .linux) ())) finished := by
  have hwaiting := reaches_lookAt true (reaches_lookAt false
    (.refl : ReflTransGen (HostCalls.Goes network both 0)
      (.start visit both (.fresh (.named "srv" .linux) ())) _))
  have hlater := reaches_later hwaiting (by decide +kernel)
  have hasking := reaches_lookAt true (reaches_lookAt false hlater)
  exact reaches_lookAt true (reaches_later hasking (by decide +kernel))

/-- The probes ask one after the other, and in the end the turn is free. -/
theorem probes_asked_in_turn :
    (finished.journal.map fun e => (e.1, e.2.time, e.2.stage)) =
        [(true, 10, .finished), (true, 5, .begun), (false, 5, .finished), (false, 0, .begun)] ∧
      (∀ earlier : CallJournal Bool, earlier <:+ finished.journal → earlier.IsExclusive both) ∧
      finished.site.turns.isFree = true := by
  have hfinished : ∀ i p, finished.rest i = some p → p.result? ≠ none := by
    have hall : ∀ i, ∀ result ∈ (finished.rest i).map fun p => p.result?.isSome, result = true := by
      decide +kernel
    intro i p hp hnone
    have := hall i p.result?.isSome (by rw [hp]; rfl)
    rw [hnone] at this
    cases this
  obtain ⟨hexclusive, -, hfree⟩ := probes_take_turns (v := visit) (by decide) reaches_finished
  exact ⟨by decide +kernel, hexclusive, hfree hfinished⟩

end TwoProbes

end HardwareWatch
