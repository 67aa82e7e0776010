import HardwareWatch.Proofs.Activity.Prompt
import HardwareWatch.Proofs.Sources.Failing

/-!
# The course of sources and of the attempts at one

All that a source does on a host is to probe it, one probe after the other, and to wait before it is
tried again. What holds of every probe can be told of every source. When sources run wave by wave,
every source comes to an outcome against the tables of the waves before it, and the outcomes of a
wave are stored when all of them are there.

* `Visit.Probing` says that an activity is made of probes, `SourceRun.probing_obtain` says so of
  sources.
* `Visit.Probing.quiet` and `Visit.Probing.settled` say that such activities do not touch the resource
  of the host, and that they have one result where every request has one answer and nothing is late.
* `SourceRun.quiet_runSources` says that sources do not touch the resource of the host.
* `SourceRun.Gathers` relates waves of sources to the outcomes that they can come to.
* `SourceRun.runs_runSources_iff` and `SourceRun.runs_runSourcesBefore_iff` say that this is what
  running sources does, unless the run is cancelled.
* `SourceRun.Attempts` lists the attempts at a source, with the table that is kept: a source that had
  data in the cycle before is tried twice if the first attempt gives nothing.
* `SourceRun.runs_obtain_iff` says that these are the runs of a source, unless the run is cancelled,
  and `SourceRun.Gathers.exists_attempts` says so of every source of a list that runs wave by wave.
-/

namespace HardwareWatch

open Activity

/-! ## Activities made of probes -/

namespace Visit

/-- An activity that is made of probes and of waits. -/
inductive Probing (v : Visit) : {α : Type} → Activity α → Prop
  | pure {α : Type} (a : α) : Probing v (pure a)
  | probe (what : String) (inTurn : Bool) (r : Request) : Probing v (v.probe what inTurn r)
  | cancelled : Probing v Activity.cancelled
  | pause (ms : Nat) : Probing v (Activity.pause ms)
  | bind {α β : Type} {p : Activity α} {f : α → Activity β} (hp : Probing v p)
      (hf : ∀ a, Probing v (f a)) : Probing v (p >>= f)

end Visit

/-! ## Sources -/

namespace SourceRun

variable (x : SourceRun)

theorem probing_fetch (s : Source) (tables : Namespace) : x.visit.Probing (x.fetch s tables) := by
  rw [fetch]
  split
  · exact .pure _
  · split
    · exact .pure _
    · exact .probe _ _ _

theorem probing_fetchRows (s : Source) (tables : Namespace) (rows : List Row) :
    x.visit.Probing (x.fetchRows s tables rows) := by
  induction rows with
  | nil => exact .pure _
  | cons row rest ih =>
    rw [fetchRows]
    split
    · exact .pure _
    · refine (x.probing_fetch _ tables).bind fun answer => ?_
      split
      · exact ih.bind fun _ => .pure _
      · split
        · exact .pure _
        · exact ih.bind fun _ => .pure _

theorem probing_executeFilled (s : Source) (tables : Namespace) :
    x.visit.Probing (x.executeFilled s tables) := by
  rw [executeFilled]
  split
  · exact (x.probing_fetch s tables).bind fun _ => .pure _
  · split
    · exact .pure _
    · exact (x.probing_fetchRows s tables _).bind fun _ => .pure _

theorem probing_execute (s : Source) (tables : Namespace) (attributes : Option (NameMap String)) :
    x.visit.Probing (x.execute s tables attributes) := by
  cases attributes with
  | none => exact x.probing_executeFilled s tables
  | some attributes =>
    unfold execute
    dsimp only
    split
    · exact .pure _
    · exact x.probing_executeFilled _ tables

/-- **A source is made of probes**, and so is the second attempt at it. -/
theorem probing_obtain (tables : Namespace) (attributes : Option (NameMap String)) (s : Source) :
    x.visit.Probing (x.obtain tables attributes s) := by
  refine (x.probing_execute s tables attributes).bind fun first =>
    Visit.Probing.cancelled.bind fun _ => ?_
  split
  · exact (Visit.Probing.pause _).bind fun _ =>
      (x.probing_execute s tables attributes).bind fun _ => .pure _
  · exact .pure _

end SourceRun

/-! ## What holds of every probe -/

namespace Visit

variable {v : Visit} {α : Type} {p : Activity α}

theorem quiet_timedProbe (v : Visit) (what : String) (r : Request) : Quiet (v.timedProbe what r) :=
  (ChangesOnly.limited (ChangesOnly.ask r)).bind fun _ => ChangesOnly.pure _

theorem quiet_orderedProbe (v : Visit) (what : String) (inTurn : Bool) (r : Request) :
    Quiet (v.orderedProbe what inTurn r) := by
  cases inTurn with
  | false => exact v.quiet_timedProbe what r
  | true =>
    exact (ChangesOnly.serialized (v.quiet_timedProbe what r)).bind fun _ => ChangesOnly.pure _

theorem quiet_probe (v : Visit) (what : String) (inTurn : Bool) (r : Request) :
    Quiet (v.probe what inTurn r) :=
  (ChangesOnly.guarded (v.quiet_orderedProbe what inTurn r)).bind fun _ => ChangesOnly.pure _

/-- What is made of probes does not touch the resource. -/
theorem Probing.quiet (h : v.Probing p) : Quiet p := by
  induction h with
  | pure a => exact ChangesOnly.pure a
  | probe what inTurn r => exact v.quiet_probe what inTurn r
  | cancelled => exact ChangesOnly.cancelled
  | pause ms => exact ChangesOnly.pause ms
  | bind _ _ ihp ihf => exact ihp.bind ihf

variable {answers : (r : Request) → Except EngineError r.Answer}

theorem settled_probe (v : Visit) (what : String) (inTurn : Bool) (r : Request) :
    Settled answers (v.probe what inTurn r) := by
  have htimed : Settled answers (v.timedProbe what r) :=
    ((Settled.ask r).limited _).bind fun _ => .pure _
  have hordered : Settled answers (v.orderedProbe what inTurn r) := by
    cases inTurn with
    | false => exact htimed
    | true => exact (htimed.serialized _).bind fun _ => .pure _
  exact hordered.guarded.bind fun _ => .pure _

/-- What is made of probes comes to one result where every request has one answer. -/
theorem Probing.settled (h : v.Probing p) : Settled answers p := by
  induction h with
  | pure a => exact Settled.pure a
  | probe what inTurn r => exact v.settled_probe what inTurn r
  | cancelled => exact Settled.cancelled
  | pause ms => exact Settled.pause ms
  | bind _ _ ihp ihf => exact ihp.bind ihf

end Visit

/-! ## Sources leave the resource alone -/

namespace SourceRun

variable (x : SourceRun)

theorem quiet_execute (s : Source) (tables : Namespace) (attributes : Option (NameMap String)) :
    Quiet (x.execute s tables attributes) :=
  (x.probing_execute s tables attributes).quiet

theorem quiet_obtain (tables : Namespace) (attributes : Option (NameMap String)) (s : Source) :
    Quiet (x.obtain tables attributes s) :=
  (x.probing_obtain tables attributes s).quiet

theorem quiet_runWave (attributes : Option (NameMap String)) (sources : List Source) (h : Harvest)
    (wave : List Source) : Quiet (x.runWave attributes sources h wave) := by
  refine ChangesOnly.cancelled.bind fun _ => ?_
  split
  · exact ChangesOnly.pure _
  · refine (ChangesOnly.all fun p hp => ?_).bind fun _ => ChangesOnly.pure _
    obtain ⟨s, -, rfl⟩ := List.mem_map.1 hp
    exact x.quiet_obtain h.tables attributes s

theorem quiet_runSources (attributes : Option (NameMap String)) (sources : List Source)
    (tables : Namespace) : Quiet (x.runSources attributes sources tables) :=
  ChangesOnly.foldlM (fun h wave _ => x.quiet_runWave attributes sources h wave) _

theorem quiet_runSourcesBefore (deadline : Nat) (sources : List Source) (tables : Namespace) :
    Quiet (x.runSourcesBefore deadline sources tables) :=
  ChangesOnly.foldBefore (fun h wave _ => x.quiet_runWave none sources h wave) _

/-! ## Waves and their outcomes -/

/-- Sources that run wave by wave, and the outcomes that they come to. -/
inductive Gathers (w : Surroundings) (x : SourceRun) (attributes : Option (NameMap String)) :
    Harvest → List (List Source) → List SourceOutcome → Prop
  | done (h : Harvest) : Gathers w x attributes h [] []
  | wave {h : Harvest} {wave : List Source} {rest : List (List Source)}
      {os more : List SourceOutcome} (hos : os.map Prod.fst = wave)
      (hw : ∀ o ∈ os, Runs w (x.obtain h.tables attributes o.1) 0 (some o.2))
      (hr : Gathers w x attributes (os.foldl store h) rest more) :
    Gathers w x attributes h (wave :: rest) (os ++ more)

variable {x} {w : Surroundings} {attributes : Option (NameMap String)} {sources : List Source}
  {cs : Multiset Change} {h h' : Harvest}

theorem Gathers.map_fst {waves : List (List Source)} {os : List SourceOutcome}
    (hg : Gathers w x attributes h waves os) : os.map Prod.fst = waves.flatten := by
  induction hg with
  | done => rfl
  | wave hos _ _ ih => rw [List.map_append, hos, ih, List.flatten_cons]

theorem exists_forall₂_zip_iff {α β : Type} {R : α → β → Prop} {as : List α}
    {P : List (α × β) → Prop} : (∃ bs, List.Forall₂ R as bs ∧ P (as.zip bs)) ↔
      ∃ os : List (α × β), os.map Prod.fst = as ∧ (∀ o ∈ os, R o.1 o.2) ∧ P os := by
  constructor
  · rintro ⟨bs, hR, hP⟩
    exact ⟨as.zip bs, List.map_fst_zip hR.length_eq.le, fun o ho => List.forall₂_zip hR ho, hP⟩
  · rintro ⟨os, rfl, hR, hP⟩
    refine ⟨os.map Prod.snd, ?_, by rwa [← List.zip_of_prod rfl rfl]⟩
    rw [List.forall₂_map_left_iff, List.forall₂_map_right_iff, List.forall₂_same]
    exact hR

theorem runs_runWave_iff (hw : ¬w.mayBeCancelled) {wave : List Source} :
    Runs w (x.runWave attributes sources h wave) cs (some h') ↔
      cs = 0 ∧ ∃ os : List SourceOutcome, os.map Prod.fst = wave ∧
        (∀ o ∈ os, Runs w (x.obtain h.tables attributes o.1) 0 (some o.2)) ∧
          h' = os.foldl store h := by
  have hquiet : ∀ p ∈ wave.map (x.obtain h.tables attributes), Quiet p := by
    intro p hp
    obtain ⟨s, -, rfl⟩ := List.mem_map.1 hp
    exact x.quiet_obtain h.tables attributes s
  have hzip := @exists_forall₂_zip_iff _ _
    (fun s t => Runs w (x.obtain h.tables attributes s) 0 (some t)) wave
    fun os => h' = os.foldl store h
  rw [← hzip, runWave, runs_bind_some_iff]
  constructor
  · rintro ⟨b, cs₁, cs₂, rfl, hb, hrun⟩
    obtain ⟨rfl, hcancel⟩ := runs_cancelled_some_iff.1 hb
    cases b with
    | true => exact absurd (hcancel rfl) hw
    | false =>
      obtain ⟨tables, cs₃, cs₄, rfl, hall, hend⟩ := runs_bind_some_iff.1 hrun
      obtain ⟨rfl, hends⟩ := (runs_all_iff_of_quiet hquiet).1 hall
      obtain ⟨rfl, rfl⟩ := runs_pure_some_iff.1 hend
      exact ⟨by simp, tables, List.forall₂_map_left_iff.1 hends, rfl⟩
  · rintro ⟨rfl, tables, hall, rfl⟩
    refine ⟨false, 0, 0, (add_zero 0).symm, runs_cancelled_some_iff.2 ⟨rfl, nofun⟩, ?_⟩
    exact runs_bind_some_iff.2 ⟨tables, 0, 0, (add_zero 0).symm,
      (runs_all_iff_of_quiet hquiet).2 ⟨rfl, List.forall₂_map_left_iff.2 hall⟩,
      runs_pure_some_iff.2 ⟨rfl, rfl⟩⟩

theorem gathers_cons_iff {wave : List Source} {rest : List (List Source)}
    {all : List SourceOutcome} :
    Gathers w x attributes h (wave :: rest) all ↔ ∃ os more, all = os ++ more ∧
      os.map Prod.fst = wave ∧
        (∀ o ∈ os, Runs w (x.obtain h.tables attributes o.1) 0 (some o.2)) ∧
          Gathers w x attributes (os.foldl store h) rest more := by
  constructor
  · intro hg
    cases hg with
    | wave hos hw hr => exact ⟨_, _, rfl, hos, hw, hr⟩
  · rintro ⟨os, more, rfl, hos, hw, hr⟩
    exact .wave hos hw hr

/-- A source that runs wave by wave reads the tables of the outcomes before its wave. -/
theorem Gathers.exists_earlier {waves : List (List Source)} {before after : List SourceOutcome}
    {o : SourceOutcome} (hg : Gathers w x attributes h waves (before ++ o :: after)) :
    ∃ earlier, earlier <+: before ∧
      Runs w (x.obtain (earlier.foldl store h).tables attributes o.1) 0 (some o.2) := by
  generalize hall : before ++ o :: after = all at hg
  induction hg generalizing before with
  | done => simp at hall
  | @wave h wave rest os more _ hruns _ ih =>
    -- The outcome is one of this wave or of a later one.
    have hsplit : o ∈ os ∨ ∃ before', before = os ++ before' ∧ before' ++ o :: after = more := by
      rcases List.append_eq_append_iff.1 hall with ⟨os', rfl, hos'⟩ | ⟨before', rfl, hmore⟩
      · cases os' with
        | nil => exact .inr ⟨[], by simp, hos'⟩
        | cons o' os' =>
          cases hos'
          exact .inl (by simp)
      · exact .inr ⟨before', rfl, hmore.symm⟩
    rcases hsplit with ho | ⟨before', rfl, hmore⟩
    · exact ⟨[], List.nil_prefix, hruns o ho⟩
    · obtain ⟨earlier, hearlier, hlast⟩ := ih hmore
      refine ⟨os ++ earlier, (List.prefix_append_right_inj os).2 hearlier, ?_⟩
      rwa [List.foldl_append]

/-- **The runs of waves of sources** in a visit that is not cancelled. -/
theorem runs_foldlM_runWave_iff (hw : ¬w.mayBeCancelled) {waves : List (List Source)} :
    Runs w (waves.foldlM (x.runWave attributes sources) h) cs (some h') ↔
      cs = 0 ∧ ∃ os, Gathers w x attributes h waves os ∧ h' = os.foldl store h := by
  induction waves generalizing h cs with
  | nil =>
    rw [List.foldlM_nil, runs_pure_some_iff]
    refine and_congr_right fun _ => ⟨fun hh => ⟨[], .done h, hh⟩, ?_⟩
    rintro ⟨os, hg, rfl⟩
    cases hg with
    | done => rfl
  | cons wave rest ih =>
    rw [List.foldlM_cons, runs_bind_some_iff]
    constructor
    · rintro ⟨h₁, cs₁, cs₂, rfl, hwave, hrest⟩
      obtain ⟨rfl, os, hos, hruns, rfl⟩ := (runs_runWave_iff hw).1 hwave
      obtain ⟨rfl, more, hg, rfl⟩ := ih.1 hrest
      exact ⟨add_zero 0, os ++ more, .wave hos hruns hg, (List.foldl_append ..).symm⟩
    · rintro ⟨rfl, all, hg, rfl⟩
      obtain ⟨os, more, rfl, hos, hruns, hg⟩ := gathers_cons_iff.1 hg
      exact ⟨_, 0, 0, (add_zero 0).symm, (runs_runWave_iff hw).2 ⟨rfl, os, hos, hruns, rfl⟩,
        ih.2 ⟨rfl, more, hg, List.foldl_append ..⟩⟩

theorem runs_runSources_iff (hw : ¬w.mayBeCancelled) {tables : Namespace} :
    Runs w (x.runSources attributes sources tables) cs (some h') ↔
      cs = 0 ∧ ∃ os, Gathers w x attributes ⟨tables, .empty⟩ (dependencyWaves sources) os ∧
        h' = harvest tables os :=
  runs_foldlM_runWave_iff hw

/-- Running all waves of sources up to a time. -/
theorem runs_foldBefore_runWave_iff (hw : ¬w.mayBeCancelled) {deadline : Nat}
    {waves : List (List Source)} :
    Runs w (foldBefore deadline (x.runWave none sources) waves h) cs (some (h', true)) ↔
      cs = 0 ∧ ∃ os, Gathers w x none h waves os ∧ h' = os.foldl store h :=
  runs_foldBefore_true_iff.trans (runs_foldlM_runWave_iff hw)

theorem runs_runSourcesBefore_iff (hw : ¬w.mayBeCancelled) {deadline : Nat} {tables : Namespace} :
    Runs w (x.runSourcesBefore deadline sources tables) cs (some (h', true)) ↔
      cs = 0 ∧ ∃ os, Gathers w x none ⟨tables, .empty⟩ (dependencyWaves sources) os ∧
        h' = harvest tables os :=
  runs_foldBefore_runWave_iff hw

end SourceRun

end HardwareWatch

/-! ## Attempts at a source -/

namespace HardwareWatch.SourceRun

open Activity

/-- An attempt that failed or came back with an empty table. -/
def GaveNothing (answer : Except EngineError Table) : Prop :=
  ∀ t, answer = .ok t → t.isEmpty = true

theorem gaveNothing_iff {answer : Except EngineError Table} :
    GaveNothing answer ↔ answer.toOption.all Table.isEmpty = true := by
  cases answer <;> simp [GaveNothing, Except.toOption]

/-- The attempts at a source with the table that is kept, if the last one gave one. A second attempt
comes after the delay of the host, exactly where the source had data before and the first one gave
nothing. -/
inductive Attempts (w : Surroundings) (x : SourceRun) (attributes : Option (NameMap String))
    (tables : Namespace) (s : Source) (hadData : Prop) :
    List (Except EngineError Table) → Option Table → Prop
  | once {answer : Except EngineError Table}
      (h : Runs w (x.execute s tables attributes) 0 (some answer))
      (hn : ¬(hadData ∧ GaveNothing answer)) :
    Attempts w x attributes tables s hadData [answer] answer.toOption
  | twice {first second : Except EngineError Table}
      (h : Runs w (x.execute s tables attributes) 0 (some first)) (hd : hadData)
      (hn : GaveNothing first)
      (h' : Runs w (do pause x.visit.host.retryDelayMs; x.execute s tables attributes) 0
        (some second)) :
    Attempts w x attributes tables s hadData [first, second] second.toOption

variable {w : Surroundings} {x : SourceRun} {attributes : Option (NameMap String)}
  {tables : Namespace} {s : Source} {cs : Multiset Change}

theorem Attempts.congr {p q : Prop} (hpq : p ↔ q) {answers : List (Except EngineError Table)}
    {t : Option Table} (h : Attempts w x attributes tables s p answers t) :
    Attempts w x attributes tables s q answers t := by
  cases h with
  | once h hn => exact .once h (by rwa [← hpq])
  | twice h hd hn h' => exact .twice h (hpq.1 hd) hn h'

theorem quiet_retry (ms : Nat) (s : Source) (tables : Namespace)
    (attributes : Option (NameMap String)) :
    Quiet (do pause ms; x.execute s tables attributes) :=
  (ChangesOnly.pause ms).bind fun _ => x.quiet_execute s tables attributes

/-- **The runs of a source** in a visit that is not cancelled. -/
theorem runs_obtain_iff (hw : ¬w.mayBeCancelled) {t : Option Table} :
    Runs w (x.obtain tables attributes s) cs (some t) ↔
      cs = 0 ∧ ∃ answers, Attempts w x attributes tables s (x.hadData s = true) answers t := by
  rw [obtain, runs_bind_some_iff]
  constructor
  · rintro ⟨first, cs₁, _, rfl, hfirst, hrest⟩
    obtain rfl : cs₁ = 0 := (x.quiet_execute s tables attributes).eq_zero hfirst
    obtain ⟨b, _, cs₂, rfl, hb, hend⟩ := runs_bind_some_iff.1 hrest
    obtain ⟨rfl, hcancel⟩ := runs_cancelled_some_iff.1 hb
    obtain rfl : b = false := Bool.eq_false_iff.2 fun hb => hw (hcancel hb)
    rw [zero_add, zero_add]
    rw [Bool.not_false, Bool.and_true] at hend
    split at hend
    · rename_i hretry
      rw [Bool.and_eq_true] at hretry
      rw [← LawfulMonad.bind_assoc] at hend
      obtain ⟨second, cs₃, _, rfl, hsecond, hkept⟩ := runs_bind_some_iff.1 hend
      obtain rfl : cs₃ = 0 := (quiet_retry _ s tables attributes).eq_zero hsecond
      obtain ⟨rfl, rfl⟩ := runs_pure_some_iff.1 hkept
      exact ⟨add_zero 0, _, .twice hfirst hretry.2 (gaveNothing_iff.2 hretry.1) hsecond⟩
    · rename_i hretry
      rw [Bool.and_eq_true] at hretry
      obtain ⟨rfl, rfl⟩ := runs_pure_some_iff.1 hend
      exact ⟨rfl, _, .once hfirst fun hd => hretry ⟨gaveNothing_iff.1 hd.2, hd.1⟩⟩
  · rintro ⟨rfl, answers, h⟩
    have hcancelled : Runs w cancelled 0 (some false) := runs_cancelled_some_iff.2 ⟨rfl, nofun⟩
    cases h with
    | @once answer h hn =>
      refine ⟨answer, 0, 0, (add_zero 0).symm, h, runs_bind_some_iff.2 ⟨false, 0, 0,
        (add_zero 0).symm, hcancelled, ?_⟩⟩
      rw [Bool.not_false, Bool.and_true, if_neg]
      · exact runs_pure_some_iff.2 ⟨rfl, rfl⟩
      · rw [Bool.and_eq_true]
        exact fun hretry => hn ⟨hretry.2, gaveNothing_iff.2 hretry.1⟩
    | @twice first second h hd hn h' =>
      refine ⟨first, 0, 0, (add_zero 0).symm, h, runs_bind_some_iff.2 ⟨false, 0, 0,
        (add_zero 0).symm, hcancelled, ?_⟩⟩
      rw [Bool.not_false, Bool.and_true, if_pos, ← LawfulMonad.bind_assoc, runs_bind_some_iff]
      · exact ⟨second, 0, 0, (add_zero 0).symm, h', runs_pure_some_iff.2 ⟨rfl, rfl⟩⟩
      · rw [Bool.and_eq_true]
        exact ⟨gaveNothing_iff.1 hn, hd⟩

/-- The attempts at every source of a list that runs wave by wave. -/
theorem Gathers.exists_attempts (hw : ¬w.mayBeCancelled) {h : Harvest}
    {waves : List (List Source)} {os : List SourceOutcome} (hg : Gathers w x attributes h waves os)
    {o : SourceOutcome} (ho : o ∈ os) :
    ∃ tables answers, Attempts w x attributes tables o.1 (x.hadData o.1 = true) answers o.2 := by
  obtain ⟨before, after, rfl⟩ := List.append_of_mem ho
  obtain ⟨earlier, -, hruns⟩ := hg.exists_earlier
  exact ⟨_, ((runs_obtain_iff hw).1 hruns).2⟩

end HardwareWatch.SourceRun
