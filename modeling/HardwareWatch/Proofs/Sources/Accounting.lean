import HardwareWatch.Proofs.Activity.InTime
import HardwareWatch.Proofs.Sources.InOrder
import HardwareWatch.Proofs.Sources.Course
import Mathlib.Data.Set.List
import Mathlib.Order.Bounds.Basic

/-!
# Accounting for sources

When sources have run, none of them is forgotten: each one has left a table or counts as failed. If
the run was not cancelled, what it leaves is told by the last attempt at each source.

* `Trial` is a source with the attempts at it.
* `AccountedBy` says which tables there are after some trials, and which sources failed: those whose
  last attempt ended in an error, and all that is built on them.
* `Harvest.AccountsFor` says that a key has a table or counts as failed.
* `runSources_accounted` says that every run of sources is accounted for, whatever the extensions do
  and whenever it is cancelled.
-/

namespace HardwareWatch

open Activity SourceRun

/-! ## Trials -/

/-- A source with the tables that it could read, and the answers of the attempts at it. -/
structure Trial where
  source : Source
  seen : Namespace
  answers : List (Except EngineError Table)

namespace Trial

/-- The table of the last attempt, if it gave one. -/
def table? (t : Trial) : Option Table := t.answers.getLast?.bind Except.toOption

/-- The last attempt ended in an error. -/
def EndedInError (t : Trial) : Prop := ∃ e, t.answers.getLast? = some (.error e)

/-- The source with the table of its last attempt. -/
def outcome (t : Trial) : SourceOutcome := (t.source, t.table?)

theorem table?_eq_some_iff {t : Trial} {table : Table} :
    t.table? = some table ↔ t.answers.getLast? = some (.ok table) := by
  rw [table?, Option.bind_eq_some_iff]
  constructor
  · rintro ⟨answer, hlast, htable⟩
    cases answer with
    | error e => cases htable
    | ok table => rwa [← Option.some.inj htable]
  · exact fun hlast => ⟨_, hlast, rfl⟩

end Trial

/-- A set of keys that holds each source whose last attempt ended in an error and each source that
refers to the set. -/
def HoldsFailures (trials : List Trial) (keys : Set String) : Prop :=
  ∀ t ∈ trials, (t.EndedInError ∨ ∃ k ∈ t.source.references, k ∈ keys) → t.source.key ∈ keys

/-- A trial that was made, where the tables are those that there are in the end. -/
structure Trial.Made (w : Surroundings) (x : SourceRun) (attributes : Option (NameMap String))
    (tables : Namespace) (t : Trial) : Prop where
  seen : ∀ k ∈ t.source.references, t.seen.get? k = tables.get? k
  tried : Attempts w x attributes t.seen t.source (x.hadData t.source = true) t.answers t.table?

/-- What sources leave that were tried, given the tables that there were before. -/
structure AccountedBy (w : Surroundings) (x : SourceRun) (attributes : Option (NameMap String))
    (sources : List Source) (tables : Namespace) (trials : List Trial) (h : Harvest) : Prop where
  each : (trials.map (·.source)).Perm sources
  made : ∀ t ∈ trials, t.Made w x attributes h.tables
  /-- There is one more table for each source. -/
  keys : h.tables.keys.Perm (tables.keys ++ sources.map (·.key))
  kept : ∀ k ∉ sources.map (·.key), h.tables.get? k = tables.get? k
  answered : ∀ t ∈ trials, ∀ table, t.answers.getLast? = some (.ok table) →
    h.tables.get? t.source.key = some table
  unanswered : ∀ t ∈ trials, t.EndedInError → h.tables.get? t.source.key = some .empty
  failed : IsLeast {keys | HoldsFailures trials keys} {k | h.failed.has k = true}

/-- What sources leave: all of them have a table or count as failed, and they were tried if the run
cannot have been cancelled. -/
structure Accounted (w : Surroundings) (x : SourceRun) (attributes : Option (NameMap String))
    (sources : List Source) (tables : Namespace) (h : Harvest) : Prop where
  unstored : ∀ s ∈ sources, h.tables.contains s.key = false → h.failed.has s.key = true
  complete : ¬w.mayBeCancelled → ∃ trials, AccountedBy w x attributes sources tables trials h

/-! ## The last attempt -/

section Attempts

variable {w : Surroundings} {x : SourceRun} {attributes : Option (NameMap String)}
  {tables : Namespace} {s : Source} {hadData : Prop} {t : Trial}

theorem SourceRun.Attempts.getLast?_bind {answers : List (Except EngineError Table)}
    {table : Option Table} (h : Attempts w x attributes tables s hadData answers table) :
    answers.getLast?.bind Except.toOption = table := by
  cases h with
  | once => rfl
  | twice => rfl

theorem exists_getLast?_eq_error_iff (before : List (Except EngineError Table))
    {answer : Except EngineError Table} :
    (∃ e, (before ++ [answer]).getLast? = some (.error e)) ↔ answer.toOption = none := by
  rw [List.getLast?_concat]
  cases answer <;> simp [Except.toOption]

/-- The last attempt ended in an error if it gave no table. -/
theorem SourceRun.Attempts.endedInError_iff
    (h : Attempts w x attributes tables s hadData t.answers t.table?) :
    t.EndedInError ↔ t.table? = none := by
  rw [Trial.EndedInError]
  generalize t.answers = answers, t.table? = table at h ⊢
  cases h with
  | once => exact exists_getLast?_eq_error_iff []
  | @twice first => exact exists_getLast?_eq_error_iff [first]

end Attempts

/-! ## Failures -/

/-- The sources that failed and all that is built on them are the least set that holds the failures.
-/
theorem isLeast_tainted {trials : List Trial}
    (h : ∀ t ∈ trials, t.EndedInError ↔ t.table? = none) :
    IsLeast {keys | HoldsFailures trials keys} {k | Tainted (trials.map Trial.outcome) k} := by
  constructor
  · rintro t ht (herror | ⟨k, hk, htainted⟩)
    · have hmem : (t.source, none) ∈ trials.map Trial.outcome :=
        List.mem_map.2 ⟨t, ht, by rw [Trial.outcome, (h t ht).1 herror]⟩
      exact .own hmem
    · exact .built (List.mem_map_of_mem ht) hk htainted
  · intro keys hkeys k htainted
    induction htainted with
    | own hmem =>
      obtain ⟨t, ht, houtcome⟩ := List.mem_map.1 hmem
      obtain ⟨rfl, hnone⟩ := Prod.mk.inj houtcome
      exact hkeys t ht (.inl ((h t ht).2 hnone))
    | built hmem hk _ ih =>
      obtain ⟨t, ht, houtcome⟩ := List.mem_map.1 hmem
      obtain ⟨rfl, -⟩ := Prod.mk.inj houtcome
      exact hkeys t ht (.inr ⟨_, hk, ih⟩)

/-! ## Runs that are not cancelled -/

section Complete

variable {w : Surroundings} {x : SourceRun} {attributes : Option (NameMap String)}
  {sources : List Source} {tables : Namespace} {h : Harvest} {waves : List (List Source)}
  {os : List SourceOutcome} {trials : List Trial} {cs : Multiset Change}

/-- The outcomes of sources that run wave by wave are those of trials of them. -/
theorem SourceRun.Gathers.exists_trials (hw : ¬w.mayBeCancelled)
    (hg : Gathers w x attributes h waves os) (hi : Independent waves) :
    ∃ trials : List Trial, trials.map Trial.outcome = os ∧
      ∀ t ∈ trials, t.Made w x attributes (os.foldl store h).tables := by
  have hmade : ∀ o ∈ os, ∃ t : Trial,
      t.outcome = o ∧ t.Made w x attributes (os.foldl store h).tables := by
    intro o ho
    obtain ⟨seen, hseen, hruns⟩ := hg.exists_seen hi o ho
    obtain ⟨-, answers, hattempts⟩ := (runs_obtain_iff hw).1 hruns
    have htable : (⟨o.1, seen, answers⟩ : Trial).table? = o.2 := hattempts.getLast?_bind
    exact ⟨⟨o.1, seen, answers⟩, Prod.ext rfl htable, hseen, htable ▸ hattempts⟩
  have hrange : os ∈ Set.range (List.map fun t :
      {t : Trial // t.Made w x attributes (os.foldl store h).tables} => t.1.outcome) := by
    rw [Set.range_list_map]
    intro o ho
    obtain ⟨t, htrial, hmade⟩ := hmade o ho
    exact ⟨⟨t, hmade⟩, htrial⟩
  obtain ⟨l, hl⟩ := hrange
  refine ⟨l.map Subtype.val, List.map_map.trans hl, fun t ht => ?_⟩
  obtain ⟨t, -, rfl⟩ := List.mem_map.1 ht
  exact t.2

/-- There is one more table for each source. -/
theorem keys_harvest_perm (hd : DeclaredInOrder sources)
    (hfree : ∀ s ∈ sources, tables.contains s.key = false)
    (hos : (os.map Prod.fst).Perm sources) :
    (harvest tables os).tables.keys.Perm (tables.keys ++ sources.map (·.key)) := by
  refine (List.perm_ext_iff_of_nodup (NameMap.nodup_keys _) ?_).2 fun k => ?_
  · refine (NameMap.nodup_keys tables).append hd.nodup fun k hk hs => ?_
    obtain ⟨s, hmem, rfl⟩ := List.mem_map.1 hs
    exact Bool.false_ne_true ((hfree s hmem).symm.trans (NameMap.mem_keys_iff.1 hk))
  · rw [NameMap.mem_keys_iff, contains_harvest, List.mem_append, NameMap.mem_keys_iff]
    refine or_congr_right ?_
    rw [← (hos.map (·.key)).mem_iff, List.map_map]
    exact List.mem_map.symm

theorem SourceRun.accountedBy_harvest (hd : DeclaredInOrder sources)
    (hfree : ∀ s ∈ sources, tables.contains s.key = false)
    (hsources : (trials.map (·.source)).Perm sources)
    (hprecede : ReferencesPrecede (trials.map Trial.outcome))
    (hmade : ∀ t ∈ trials,
      t.Made w x attributes (harvest tables (trials.map Trial.outcome)).tables) :
    AccountedBy w x attributes sources tables trials
      (harvest tables (trials.map Trial.outcome)) := by
  have hos : ((trials.map Trial.outcome).map Prod.fst).Perm sources := by
    rwa [List.map_map]
  have htable : ∀ t ∈ trials, (harvest tables (trials.map Trial.outcome)).tables.get?
      t.source.key = some (t.table?.getD .empty) := fun t ht =>
    get?_foldl_store_of_mem (nodup_key_of_perm hd hos) (List.mem_map_of_mem ht)
  have herror : ∀ t ∈ trials, t.EndedInError ↔ t.table? = none := fun t ht =>
    (hmade t ht).tried.endedInError_iff
  refine ⟨hsources, hmade, keys_harvest_perm hd hfree hos, fun k hk => ?_,
    fun t ht table hlast => ?_, fun t ht hlast => ?_, ?_⟩
  · refine get?_foldl_store_of_forall_ne fun o ho he => hk (List.mem_map.2 ⟨o.1, ?_, he⟩)
    exact hos.mem_iff.1 (List.mem_map_of_mem ho)
  · rw [htable t ht, Trial.table?_eq_some_iff.2 hlast, Option.getD_some]
  · rw [htable t ht, (herror t ht).1 hlast, Option.getD_none]
  · have hfailed : {k | (harvest tables (trials.map Trial.outcome)).failed.has k = true} =
        {k | Tainted (trials.map Trial.outcome) k} := by
      ext k
      exact (has_failed_harvest tables _ k).trans (failing_iff_tainted hprecede)
    rw [hfailed]
    exact isLeast_tainted herror

/-- Sources that ran to their end were tried. -/
theorem SourceRun.exists_accountedBy_of_runs (hw : ¬w.mayBeCancelled) (hd : DeclaredInOrder sources)
    (hfree : ∀ s ∈ sources, tables.contains s.key = false)
    (hruns : Runs w (x.runSources attributes sources tables) cs (some h)) :
    ∃ trials, AccountedBy w x attributes sources tables trials h := by
  obtain ⟨-, os, hg, rfl⟩ := (runs_runSources_iff hw).1 hruns
  have hi := independent_dependencyWaves hd
  have hprecede := hg.referencesPrecede hi
  have hsources : (os.map Prod.fst).Perm sources := by
    rw [hg.map_fst]
    exact perm_flatten_dependencyWaves sources
  obtain ⟨trials, rfl, hmade⟩ := hg.exists_trials hw hi
  rw [List.map_map] at hsources
  exact ⟨trials, accountedBy_harvest hd hfree hsources hprecede hmade⟩

end Complete

/-! ## Runs that may be cancelled -/

/-- There is a table for the key, or it counts as failed. -/
def Harvest.AccountsFor (h : Harvest) (k : String) : Prop :=
  h.tables.contains k = true ∨ h.failed.has k = true

section Cancelled

variable {w : Surroundings} {x : SourceRun} {attributes : Option (NameMap String)}
  {sources : List Source} {tables : Namespace} {h h' : Harvest} {k : String}
  {cs : Multiset Change}

theorem accountsFor_store (o : SourceOutcome) (hk : h.AccountsFor k ∨ o.key = k) :
    (store h o).AccountsFor k := by
  by_cases hkey : o.key = k
  · refine .inl ?_
    rw [NameMap.contains, ← hkey, get?_store_self]
    rfl
  · refine (hk.resolve_right hkey).imp (fun htable => ?_) fun hfailed =>
      (has_store o k).2 (.inl hfailed)
    rwa [NameMap.contains, get?_store_of_ne hkey]

theorem accountsFor_foldl_store {os : List SourceOutcome}
    (hk : h.AccountsFor k ∨ ∃ o ∈ os, o.key = k) : (os.foldl store h).AccountsFor k := by
  induction os generalizing h with
  | nil => simpa using hk
  | cons o os ih =>
    rw [List.foldl_cons]
    refine ih ?_
    rcases hk with hk | ⟨o', ho', hkey⟩
    · exact .inl (accountsFor_store o (.inl hk))
    · rcases List.mem_cons.1 ho' with rfl | ho'
      · exact .inl (accountsFor_store o' (.inr hkey))
      · exact .inr ⟨o', ho', hkey⟩

theorem accountsFor_giveUp (hk : h.AccountsFor k ∨ ∃ s ∈ sources, s.key = k) :
    (giveUp sources h).AccountsFor k := by
  cases htable : h.tables.contains k with
  | true => exact .inl htable
  | false =>
    refine .inr ?_
    rw [giveUp, NameSet.has_addAll, Bool.or_eq_true, decide_eq_true_iff, List.mem_filter]
    rcases hk with (hk | hk) | ⟨s, hs, rfl⟩
    · exact absurd (htable.symm.trans hk) Bool.false_ne_true
    · exact .inr hk
    · exact .inl ⟨List.mem_map_of_mem hs, by rw [htable, Bool.not_false]⟩

/-- A wave accounts for its sources, be it that they run or that they are given up. -/
theorem accountsFor_of_runs_runWave {wave : List Source} (hwave : wave ⊆ sources)
    (hruns : Runs w (x.runWave attributes sources h wave) cs (some h'))
    (hk : h.AccountsFor k ∨ ∃ s ∈ wave, s.key = k) : h'.AccountsFor k := by
  obtain ⟨cancelled, _, _, -, -, hruns⟩ := runs_bind_some_iff.1 hruns
  cases cancelled with
  | true =>
    obtain ⟨-, rfl⟩ := runs_pure_some_iff.1 hruns
    exact accountsFor_giveUp (hk.imp_right fun ⟨s, hs, hkey⟩ => ⟨s, hwave hs, hkey⟩)
  | false =>
    obtain ⟨outcomes, _, _, -, houtcomes, hend⟩ := runs_bind_some_iff.1 hruns
    obtain ⟨-, rfl⟩ := runs_pure_some_iff.1 hend
    have hlength : wave.length = outcomes.length := by
      rw [← (runs_all houtcomes).length_eq, List.length_map]
    refine accountsFor_foldl_store (hk.imp_right ?_)
    rintro ⟨s, hs, hkey⟩
    rw [← List.map_fst_zip hlength.le] at hs
    obtain ⟨o, ho, rfl⟩ := List.mem_map.1 hs
    exact ⟨o, ho, hkey⟩

/-- Waves account for their sources. -/
theorem accountsFor_of_runs_foldlM_runWave {waves : List (List Source)}
    (hwaves : ∀ wave ∈ waves, wave ⊆ sources)
    (hruns : Runs w (waves.foldlM (x.runWave attributes sources) h) cs (some h'))
    (hk : h.AccountsFor k ∨ ∃ s ∈ waves.flatten, s.key = k) : h'.AccountsFor k := by
  induction waves generalizing h cs with
  | nil =>
    obtain ⟨-, rfl⟩ := runs_pure_some_iff.1 hruns
    simpa using hk
  | cons wave rest ih =>
    rw [List.foldlM_cons] at hruns
    obtain ⟨h₁, _, _, -, hfirst, hrest⟩ := runs_bind_some_iff.1 hruns
    refine ih (fun wave' hwave' => hwaves wave' (List.mem_cons_of_mem _ hwave')) hrest ?_
    have hstep {k : String} := accountsFor_of_runs_runWave (k := k)
      (hwaves wave List.mem_cons_self) hfirst
    rcases hk with hk | ⟨s, hs, hkey⟩
    · exact .inl (hstep (.inl hk))
    · rw [List.flatten_cons, List.mem_append] at hs
      rcases hs with hs | hs
      · exact .inl (hstep (.inr ⟨s, hs, hkey⟩))
      · exact .inr ⟨s, hs, hkey⟩

/-- **Every source is accounted for**, whatever becomes of the run. -/
theorem accountsFor_of_runs_runSources
    (hruns : Runs w (x.runSources attributes sources tables) cs (some h)) {s : Source}
    (hs : s ∈ sources) : h.AccountsFor s.key := by
  have hperm := perm_flatten_dependencyWaves sources
  refine accountsFor_of_runs_foldlM_runWave (fun wave hwave s hs => ?_) hruns
    (.inr ⟨s, hperm.mem_iff.2 hs, rfl⟩)
  exact hperm.subset (List.mem_flatten_of_mem hwave hs)

end Cancelled

/-! ## All runs -/

theorem SourceRun.accounted_of_runs {w : Surroundings} {x : SourceRun}
    {attributes : Option (NameMap String)} {sources : List Source} {tables : Namespace}
    {h : Harvest} {cs : Multiset Change} (hd : DeclaredInOrder sources)
    (hfree : ∀ s ∈ sources, tables.contains s.key = false)
    (hruns : Runs w (x.runSources attributes sources tables) cs (some h)) :
    Accounted w x attributes sources tables h := by
  refine ⟨fun s hs hnone => ?_, fun hw => exists_accountedBy_of_runs hw hd hfree hruns⟩
  exact (accountsFor_of_runs_runSources hruns hs).resolve_left (by rw [hnone]; exact nofun)

/-- **Sources are accounted for.** Take sources with distinct keys of which there are no tables yet
and none of which refers to a later one. Whatever the extensions answer, in time or not, every run of
them that is not cancelled adds one table for each source and changes no other one. A source whose
last attempt ended in an error has the empty table. The sources that count as failed are the least
set with those whose last attempt ended in an error and those that refer to the set. Whenever a run
is cancelled, every source without a table counts as failed. -/
theorem runSources_accounted (x : SourceRun) (attributes : Option (NameMap String))
    {sources : List Source} {tables : Namespace} (hd : DeclaredInOrder sources)
    (hfree : ∀ s ∈ sources, tables.contains s.key = false) :
    (∀ w cs h, Runs w (x.runSources attributes sources tables) cs (some h) →
      Accounted w x attributes sources tables h) ∧
    ∀ {σ : Type} (network : Network σ) (cancelAt : Option Nat) (s : Site σ),
      let left := (x.runSources attributes sources tables).run network cancelAt s
      Accounted (.around network (left.2.cancelled = true)) x attributes sources tables left.1 := by
  refine ⟨fun w cs h => accounted_of_runs hd hfree, fun network cancelAt s => ?_⟩
  obtain ⟨cs, hruns⟩ := exists_runs_run network cancelAt (x.runSources attributes sources tables) s
  exact accounted_of_runs hd hfree hruns

/-! ## A source that no extension runs -/

namespace UnsupportedAndCopy

/-- A source that no extension runs. -/
def asked : Source := ⟨"a", 0, false, [], none, .snmpGet "1.1"⟩

/-- A copy of its table. -/
def copied : Source := ⟨"b", 1, false, [], none, .copy "$\x7bsource::a\x7d"⟩

/-- A visit without extensions. -/
def run : SourceRun :=
  ⟨⟨⟨[], none⟩, .named "srv" .linux, .standard, 0⟩,
    ⟨1, "C", none, none, [], ⟨[], false, [], []⟩, .empty, .empty, [asked, copied], .empty⟩, .empty⟩

theorem declaredInOrder : DeclaredInOrder [asked, copied] :=
  ⟨by decide, by decide +kernel⟩

/-- The source and its copy are accounted for in every run. -/
theorem accounted_asked_and_copied :
    DeclaredInOrder [asked, copied] ∧
    (∀ s ∈ [asked, copied], (NameMap.empty : Namespace).contains s.key = false) ∧
    (∀ w cs h, Runs w (run.runSources none [asked, copied] .empty) cs (some h) →
      Accounted w run none [asked, copied] .empty h) ∧
    ∀ {σ : Type} (network : Network σ) (cancelAt : Option Nat) (s : Site σ),
      let left := (run.runSources none [asked, copied] .empty).run network cancelAt s
      Accounted (.around network (left.2.cancelled = true)) run none [asked, copied] .empty
        left.1 :=
  have hfree : ∀ s ∈ [asked, copied], (NameMap.empty : Namespace).contains s.key = false :=
    fun _ _ => rfl
  ⟨declaredInOrder, hfree, runSources_accounted run none declaredInOrder hfree⟩

end UnsupportedAndCopy

end HardwareWatch
