import HardwareWatch.Proofs.Visit.ProbeStages
import Mathlib.Data.List.Nodup
import Mathlib.Logic.Function.Basic

/-!
# Calls that take turns

How the stages of several calls, the queue in which they stand, what happened to their requests and
the times of it go together.

* `CallJournal` is what happened to the requests of the calls, and `CallJournal.IsExclusive` says
  that no two that wait for their turn are under way.
* `QueueKept`, `TimesKept` and `JournalKept` say what is kept, and `TurnsKept` all of it.
* `TurnsKept.moves` says that it is kept when one of the calls goes on.
-/

namespace HardwareWatch

open Function (forall_update_iff update update_idem update_of_ne update_self)
open Relation (ReflTransGen)

variable {σ ι : Type}

/-- What happened to the requests of some calls, the latest first. -/
abbrev CallJournal (ι : Type) := List (ι × CallEvent)

namespace CallJournal

variable [DecidableEq ι]

/-- Whether the request of a call is under way. -/
def inFlight (journal : CallJournal ι) (i : ι) : Bool :=
  (journal.find? (·.1 = i)).any (·.2.stage = .begun)

theorem inFlight_cons (j : ι) (e : CallEvent) (journal : CallJournal ι) (i : ι) :
    inFlight ((j, e) :: journal) i =
      if j = i then decide (e.stage = .begun) else inFlight journal i := by
  rw [inFlight, List.find?_cons]
  by_cases h : j = i <;> simp [h, inFlight]

/-- No two calls that wait for their turn have their requests under way. -/
def IsExclusive (calls : ι → ProbeCall) (journal : CallJournal ι) : Prop :=
  ∀ i j, (calls i).inTurn = true → (calls j).inTurn = true → journal.inFlight i = true →
    journal.inFlight j = true → i = j

end CallJournal

/-! ## The queue -/

theorem TurnQueue.isFirst_iff {q : TurnQueue} {ticket : Nat} :
    q.isFirst ticket = true ↔ q.tickets.head? = some ticket := by
  rw [isFirst, isAmongFirst]
  cases q.tickets with
  | nil => simp
  | cons first rest => simp [eq_comm]

/-- How the queue and the stages of the calls go together. -/
structure QueueKept (q : TurnQueue) (stage : ι → ProbeStage) : Prop where
  nodup : q.tickets.Nodup
  issued : ∀ ticket ∈ q.tickets, ticket < q.nextTicket
  /-- In the queue stand the calls that have a ticket. -/
  held : ∀ ticket, ticket ∈ q.tickets ↔ ∃ i, (stage i).ticket? = some ticket
  distinct : ∀ i j ticket, (stage i).ticket? = some ticket → (stage j).ticket? = some ticket → i = j
  /-- Who asks with a turn has the turn. -/
  first : ∀ i ticket, stage i = .asking (some ticket) → q.isFirst ticket = true

theorem ticket?_update [DecidableEq ι] {stage : ι → ProbeStage} {i : ι} {new : ProbeStage}
    (h : new.ticket? = (stage i).ticket?) (j : ι) :
    (update stage i new j).ticket? = (stage j).ticket? :=
  (forall_update_iff stage fun j new => new.ticket? = (stage j).ticket?).2 ⟨h, fun _ _ => rfl⟩ j

namespace QueueKept

variable [DecidableEq ι] {q : TurnQueue} {stage : ι → ProbeStage} {i : ι} {new : ProbeStage}

/-- A call goes on, and nobody comes or leaves. -/
theorem stay (h : QueueKept q stage) (hticket : new.ticket? = (stage i).ticket?)
    (hfirst : ∀ ticket, new = .asking (some ticket) → q.isFirst ticket = true) :
    QueueKept q (update stage i new) where
  nodup := h.nodup
  issued := h.issued
  held ticket := by simp only [ticket?_update hticket, h.held]
  distinct j k ticket hj hk :=
    h.distinct j k ticket (ticket?_update hticket j ▸ hj) (ticket?_update hticket k ▸ hk)
  first := (forall_update_iff stage fun _ stage => ∀ ticket, stage = .asking (some ticket) →
    q.isFirst ticket = true).2 ⟨hfirst, fun j _ => h.first j⟩

/-- A call stands in the queue. -/
theorem enter (h : QueueKept q stage) (hold : (stage i).ticket? = none)
    (hnew : new.ticket? = some q.nextTicket) (hwaits : new.isAsking = false) :
    QueueKept q.enter (update stage i new) := by
  have hissued : ∀ j ticket, (stage j).ticket? = some ticket → ticket < q.nextTicket :=
    fun j ticket hj => h.issued ticket ((h.held ticket).2 ⟨j, hj⟩)
  have hcases : ∀ j ticket, (update stage i new j).ticket? = some ticket →
      j = i ∧ ticket = q.nextTicket ∨ (stage j).ticket? = some ticket := by
    intro j ticket hj
    by_cases hji : j = i
    · rw [hji, update_self, hnew, Option.some.injEq] at hj
      exact .inl ⟨hji, hj.symm⟩
    · exact .inr (update_of_ne hji new stage ▸ hj)
  constructor
  case nodup =>
    refine List.nodup_append.2 ⟨h.nodup, List.nodup_singleton _, ?_⟩
    rintro a ha b hb rfl
    rw [List.mem_singleton.1 hb] at ha
    exact Nat.lt_irrefl _ (h.issued _ ha)
  case issued =>
    intro ticket hticket
    rcases List.mem_append.1 hticket with hticket | hticket
    · exact Nat.lt_succ_of_lt (h.issued ticket hticket)
    · exact List.mem_singleton.1 hticket ▸ Nat.lt_succ_self _
  case held =>
    intro ticket
    change ticket ∈ q.tickets ++ [q.nextTicket] ↔ _
    rw [List.mem_append, List.mem_singleton, h.held]
    constructor
    · rintro (⟨j, hj⟩ | rfl)
      · have hji : j ≠ i := by
          rintro rfl
          rw [hold] at hj
          cases hj
        exact ⟨j, by rwa [update_of_ne hji]⟩
      · exact ⟨i, by rwa [update_self]⟩
    · rintro ⟨j, hj⟩
      exact (hcases j ticket hj).symm.imp (fun hj => ⟨j, hj⟩) And.right
  case distinct =>
    intro j k ticket hj hk
    rcases hcases j ticket hj with ⟨rfl, rfl⟩ | hj' <;>
      rcases hcases k _ hk with ⟨rfl, heq⟩ | hk'
    · rfl
    · exact absurd (hissued k _ hk') (Nat.lt_irrefl _)
    · exact absurd (hissued j _ hj') (heq ▸ Nat.lt_irrefl _)
    · exact h.distinct j k ticket hj' hk'
  case first =>
    intro j ticket hj
    have hji : j ≠ i := by
      rintro rfl
      rw [update_self] at hj
      rw [hj] at hwaits
      cases hwaits
    rw [update_of_ne hji] at hj
    have hfirst := h.first j ticket hj
    rw [TurnQueue.isFirst_iff] at hfirst ⊢
    change (q.tickets ++ [q.nextTicket]).head? = some ticket
    rw [List.head?_append, hfirst, Option.some_or]

/-- A call gives its ticket back. -/
theorem leave {ticket : Nat} (h : QueueKept q stage) (hold : (stage i).ticket? = some ticket)
    (hnew : new.ticket? = none) : QueueKept (q.leave ticket) (update stage i new) := by
  have hiff : ∀ j ticket', (update stage i new j).ticket? = some ticket' ↔
      ticket' ≠ ticket ∧ (stage j).ticket? = some ticket' := by
    intro j ticket'
    by_cases hji : j = i
    · rw [hji, update_self, hnew, hold, Option.some.injEq]
      exact iff_of_false nofun fun ⟨hne, heq⟩ => hne heq.symm
    · rw [update_of_ne hji]
      have hne : (stage j).ticket? = some ticket' → ticket' ≠ ticket := by
        rintro hj rfl
        exact hji (h.distinct j i ticket' hj hold)
      exact (and_iff_right_of_imp hne).symm
  constructor
  case nodup => exact h.nodup.erase ticket
  case issued =>
    intro ticket' hticket
    exact h.issued ticket' (List.mem_of_mem_erase hticket)
  case held =>
    intro ticket'
    change ticket' ∈ q.tickets.erase ticket ↔ _
    simp only [h.nodup.mem_erase_iff, h.held, hiff, exists_and_left]
  case distinct =>
    intro j k ticket' hj hk
    exact h.distinct j k ticket' ((hiff j ticket').1 hj).2 ((hiff k ticket').1 hk).2
  case first =>
    intro j ticket' hj
    have hne : ticket' ≠ ticket := ((hiff j ticket').1 (by rw [hj]; rfl)).1
    have hji : j ≠ i := by
      rintro rfl
      rw [update_self] at hj
      rw [hj] at hnew
      cases hnew
    rw [update_of_ne hji] at hj
    have hfirst := h.first j ticket' hj
    rw [TurnQueue.isFirst_iff, List.head?_eq_some_iff] at hfirst
    obtain ⟨rest, hrest⟩ := hfirst
    rw [TurnQueue.isFirst_iff]
    change (q.tickets.erase ticket).head? = some ticket'
    rw [hrest, List.erase_cons_tail (by simpa using hne), List.head?_cons]

end QueueKept

/-! ## Times -/

variable {calls : ι → ProbeCall}

/-- How the times and the stages of the calls go together. -/
structure TimesKept (v : Visit) (calls : ι → ProbeCall) (delayMs clock : Nat)
    (stage : ι → ProbeStage) (arrival : ι → Option Nat) (journal : CallJournal ι) : Prop where
  waiting : ∀ i ticket limit, stage i = .waiting ticket limit →
    ∃ time, arrival i = some time ∧ limit = time + v.turnMs ∧ clock ≤ limit + delayMs
  begun : ∀ i e, (i, e) ∈ journal → e.stage = .begun → (calls i).inTurn = true →
    ∃ time, arrival i = some time ∧ e.time ≤ time + v.turnMs + delayMs

namespace TimesKept

variable {v : Visit} {delayMs clock : Nat} {stage : ι → ProbeStage}
  {arrival : ι → Option Nat} {journal : CallJournal ι}

/-- A call goes on, and nothing happens to its request. -/
theorem stay [DecidableEq ι] (h : TimesKept v calls delayMs clock stage arrival journal) (i : ι)
    (new : ProbeStage) (hwaiting : ∀ ticket limit, new = .waiting ticket limit →
      ∃ time, arrival i = some time ∧ limit = time + v.turnMs ∧ clock ≤ limit + delayMs) :
    TimesKept v calls delayMs clock (update stage i new) arrival journal where
  waiting := (forall_update_iff stage fun j stage => ∀ ticket limit, stage = .waiting ticket limit →
    ∃ time, arrival j = some time ∧ limit = time + v.turnMs ∧ clock ≤ limit + delayMs).2
      ⟨hwaiting, fun j _ => h.waiting j⟩
  begun := h.begun

/-- Something happens to the request of a call. -/
theorem record (h : TimesKept v calls delayMs clock stage arrival journal) {i : ι} {e : CallEvent}
    (hbegun : e.stage = .begun → (calls i).inTurn = true →
      ∃ time, arrival i = some time ∧ e.time ≤ time + v.turnMs + delayMs) :
    TimesKept v calls delayMs clock stage arrival ((i, e) :: journal) where
  waiting := h.waiting
  begun j e' he hstage hturn := by
    rcases List.mem_cons.1 he with he | he
    · cases he
      exact hbegun hstage hturn
    · exact h.begun j e' he hstage hturn

/-- Calls are looked at for the first time. -/
theorem arrive {arrival' : ι → Option Nat}
    (h : TimesKept v calls delayMs clock stage arrival journal)
    (harrival : ∀ i time, arrival i = some time → arrival' i = some time) :
    TimesKept v calls delayMs clock stage arrival' journal where
  waiting i ticket limit hi := by
    obtain ⟨time, htime, hlimit⟩ := h.waiting i ticket limit hi
    exact ⟨time, harrival i time htime, hlimit⟩
  begun i e he hstage hturn := by
    obtain ⟨time, htime, hlimit⟩ := h.begun i e he hstage hturn
    exact ⟨time, harrival i time htime, hlimit⟩

/-- Time passes. -/
theorem wait (h : TimesKept v calls delayMs clock stage arrival journal) {clock' : Nat}
    (hlimits : ∀ i ticket limit, stage i = .waiting ticket limit → clock' ≤ limit + delayMs) :
    TimesKept v calls delayMs clock' stage arrival journal where
  waiting i ticket limit hi := by
    obtain ⟨time, htime, hlimit, -⟩ := h.waiting i ticket limit hi
    exact ⟨time, htime, hlimit, hlimits i ticket limit hi⟩
  begun := h.begun

end TimesKept

/-! ## What happened to the requests -/

variable [DecidableEq ι]

/-- How the journal and the stages of the calls go together. -/
structure JournalKept (calls : ι → ProbeCall) (stage : ι → ProbeStage)
    (journal : CallJournal ι) : Prop where
  flight : ∀ i, journal.inFlight i = (stage i).isAsking
  inTurn : ∀ i, (calls i).inTurn = true → stage i ≠ .asking none
  exclusive : ∀ earlier : CallJournal ι, earlier <:+ journal → earlier.IsExclusive calls

namespace JournalKept

variable {stage : ι → ProbeStage} {journal : CallJournal ι} {i : ι} {new : ProbeStage}

theorem turns (h : JournalKept calls stage journal)
    (hturn : (calls i).inTurn = true → new ≠ .asking none) :
    ∀ j, (calls j).inTurn = true → update stage i new j ≠ .asking none :=
  (forall_update_iff stage fun j stage => (calls j).inTurn = true → stage ≠ .asking none).2
    ⟨hturn, fun j _ => h.inTurn j⟩

/-- A call goes on, and nothing happens to its request. -/
theorem stay (h : JournalKept calls stage journal) (hasks : new.isAsking = (stage i).isAsking)
    (hturn : (calls i).inTurn = true → new ≠ .asking none) :
    JournalKept calls (update stage i new) journal where
  flight := (forall_update_iff stage fun j stage => journal.inFlight j = stage.isAsking).2
    ⟨(h.flight i).trans hasks.symm, fun j _ => h.flight j⟩
  inTurn := h.turns hturn
  exclusive := h.exclusive

/-- Something happens to the request of a call. -/
theorem record {q : TurnQueue} (h : JournalKept calls stage journal)
    (hqueue : QueueKept q (update stage i new)) {e : CallEvent}
    (hasks : decide (e.stage = .begun) = new.isAsking)
    (hturn : (calls i).inTurn = true → new ≠ .asking none) :
    JournalKept calls (update stage i new) ((i, e) :: journal) := by
  have hflight : ∀ j, CallJournal.inFlight ((i, e) :: journal) j =
      (update stage i new j).isAsking := by
    refine (forall_update_iff stage fun j stage =>
      CallJournal.inFlight ((i, e) :: journal) j = stage.isAsking).2 ⟨?_, fun j hj => ?_⟩
    · rw [CallJournal.inFlight_cons, if_pos rfl, hasks]
    · rw [CallJournal.inFlight_cons, if_neg (Ne.symm hj), h.flight]
  -- who asks and waits for its turn has the first ticket, which only one call has
  have hfirst : ∀ j, (calls j).inTurn = true → CallJournal.inFlight ((i, e) :: journal) j = true →
      ∃ ticket, (update stage i new j).ticket? = some ticket ∧
        q.tickets.head? = some ticket := by
    intro j hj hasking
    rw [hflight] at hasking
    cases hstage : update stage i new j with
    | asking turn =>
      cases turn with
      | none => exact absurd hstage (h.turns hturn j hj)
      | some ticket => exact ⟨ticket, rfl, TurnQueue.isFirst_iff.1 (hqueue.first j ticket hstage)⟩
    | _ =>
      rw [hstage] at hasking
      cases hasking
  refine ⟨hflight, h.turns hturn, fun earlier hearlier => ?_⟩
  rcases List.suffix_cons_iff.1 hearlier with rfl | hearlier
  · intro j k hj hk hja hka
    obtain ⟨ticket, hticket, hhead⟩ := hfirst j hj hja
    obtain ⟨ticket', hticket', hhead'⟩ := hfirst k hk hka
    obtain rfl : ticket = ticket' := Option.some.inj (hhead.symm.trans hhead')
    exact hqueue.distinct j k ticket hticket hticket'
  · exact h.exclusive earlier hearlier

end JournalKept

/-! ## All of it -/

/-- How all of it goes together. -/
structure TurnsKept (v : Visit) (calls : ι → ProbeCall) (delayMs clock : Nat) (q : TurnQueue)
    (stage : ι → ProbeStage) (arrival : ι → Option Nat) (journal : CallJournal ι) : Prop where
  queue : QueueKept q stage
  requests : JournalKept calls stage journal
  times : TimesKept v calls delayMs clock stage arrival journal

namespace TurnsKept

variable {v : Visit} {delayMs : Nat} {stage : ι → ProbeStage} {arrival : ι → Option Nat}
  {journal : CallJournal ι} {i : ι}

/-- **A move of one call** keeps it all together. -/
theorem move {s s' : Site σ} {new : ProbeStage}
    (h : TurnsKept v calls delayMs s.clock s.turns stage arrival
      (s.events.map (i, ·) ++ journal))
    (hmove : ProbeMove v (calls i) (arrival i) (stage i, s) (new, s')) :
    TurnsKept v calls delayMs s'.clock s'.turns (update stage i new) arrival
      (s'.events.map (i, ·) ++ journal) := by
  obtain ⟨hqueue, hrequests, htimes⟩ := h
  generalize hold : stage i = old at hmove
  cases hmove with
  | forgo =>
    exact ⟨hqueue.stay (by rw [hold]; rfl) nofun, hrequests.stay (by rw [hold]; rfl) nofun,
      htimes.stay i .ended nofun⟩
  | arrive hturn harrival =>
    refine ⟨hqueue.enter (by rw [hold]; rfl) rfl rfl,
      hrequests.stay (by rw [hold]; rfl) nofun, htimes.stay i _ ?_⟩
    rintro _ _ ⟨⟩
    exact ⟨s.clock, harrival, rfl, Nat.le_add_right_of_le (Nat.le_add_right _ _)⟩
  | ask _ network hturn =>
    have hqueue' : QueueKept s.turns (update stage i (.asking none)) :=
      hqueue.stay (by rw [hold]; rfl) nofun
    have hnot : (calls i).inTurn ≠ true := Bool.eq_false_iff.1 hturn
    exact ⟨hqueue', hrequests.record hqueue' rfl fun hi => absurd hi hnot,
      (htimes.stay i (.asking none) nofun).record fun _ hi => absurd hi hnot⟩
  | @enter _ ticket network limit hfirst =>
    have hqueue' : QueueKept s.turns (update stage i (.asking (some ticket))) :=
      hqueue.stay (by rw [hold]; rfl) (by rintro _ ⟨⟩; exact hfirst)
    refine ⟨hqueue', hrequests.record hqueue' rfl nofun,
      (htimes.stay i (.asking (some ticket)) nofun).record fun _ _ => ?_⟩
    obtain ⟨time, htime, rfl, hclock⟩ := htimes.waiting i ticket limit hold
    exact ⟨time, htime, hclock⟩
  | leave _ ticket limit =>
    exact ⟨hqueue.leave (by rw [hold]; rfl) rfl, hrequests.stay (by rw [hold]; rfl) nofun,
      htimes.stay i .ended nofun⟩
  | settle _ turn result hresult =>
    have hasks : decide (result = .begun) = ProbeStage.ended.isAsking := decide_eq_false hresult
    have htimes' := (htimes.stay i .ended nofun).record (i := i)
      (e := ⟨s.clock, result, (calls i).request⟩) fun h => absurd h hresult
    cases turn with
    | none =>
      have hqueue' : QueueKept s.turns (update stage i .ended) :=
        hqueue.stay (by rw [hold]; rfl) nofun
      exact ⟨hqueue', hrequests.record hqueue' hasks nofun, htimes'⟩
    | some ticket =>
      have hqueue' : QueueKept (s.turns.leave ticket) (update stage i .ended) :=
        hqueue.leave (by rw [hold]; rfl) rfl
      exact ⟨hqueue', hrequests.record hqueue' hasks nofun, htimes'⟩

/-- **The moves of one call** keep it all together. -/
theorem moves {first last : ProbeStage × Site σ}
    (hpath : ReflTransGen (ProbeMove v (calls i) (arrival i)) first last)
    (h : TurnsKept v calls delayMs first.2.clock first.2.turns (update stage i first.1) arrival
      (first.2.events.map (i, ·) ++ journal)) :
    TurnsKept v calls delayMs last.2.clock last.2.turns (update stage i last.1) arrival
      (last.2.events.map (i, ·) ++ journal) := by
  induction hpath with
  | refl => exact h
  | @tail middle last _ hmove ih =>
    have hmove' : ProbeMove v (calls i) (arrival i) (update stage i middle.1 i, middle.2) last := by
      rwa [update_self]
    have hnext := ih.move hmove'
    rwa [update_idem] at hnext

end TurnsKept

end HardwareWatch
