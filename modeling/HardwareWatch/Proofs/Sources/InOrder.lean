import HardwareWatch.Proofs.Sources.Course
import HardwareWatch.Proofs.Sources.Waves

/-!
# Waves of sources and sources in order

Sources that run wave by wave, each with the tables of the waves before it, leave the same tables and
the same failed sources as sources that run one by one in the order in which they are declared.

* `SourceRun.runInOrder` runs sources one by one.
* `SourceRun.ReadsOnlyReferences` says that a source reads no table but those it refers to.
* `Consistent` says that the outcomes of sources are those against the tables at the end. All
  independent waves come to consistent outcomes (`SourceRun.Gathers.obtain_foldl`), and there is only
  one way to be consistent (`Consistent.agree`).
* `runs_runSources_iff_runs_runInOrder` compares the two ways to run sources.
-/

namespace HardwareWatch

open Activity SourceRun

variable {answers : (r : Request) → Except EngineError r.Answer}

/-! ## Sources one by one -/

namespace SourceRun

variable (x : SourceRun)

/-- Run sources one by one in order, each with the tables of all sources before it. -/
def runInOrder (attributes : Option (NameMap String)) (sources : List Source)
    (tables : Namespace) : Activity Harvest :=
  sources.foldlM (fun h s => return store h (s, ← x.obtain h.tables attributes s)) ⟨tables, .empty⟩

/-- What the source comes to depends on no other tables than those it refers to. -/
def ReadsOnlyReferences (attributes : Option (NameMap String)) (s : Source) : Prop :=
  ∀ tables tables' : Namespace, (∀ k ∈ s.references, tables.get? k = tables'.get? k) →
    x.execute s tables attributes = x.execute s tables' attributes

variable {x} {w : Surroundings} {attributes : Option (NameMap String)} {sources : List Source}
  {tables : Namespace} {cs : Multiset Change} {h h' : Harvest}

theorem ReadsOnlyReferences.obtain_eq {s : Source} (hs : x.ReadsOnlyReferences attributes s)
    {tables tables' : Namespace} (ht : ∀ k ∈ s.references, tables.get? k = tables'.get? k) :
    x.obtain tables attributes s = x.obtain tables' attributes s := by
  rw [obtain, obtain, hs tables tables' ht]

theorem runs_foldlM_obtain_iff :
    Runs w (sources.foldlM (fun h s => return store h (s, ← x.obtain h.tables attributes s)) h) cs
        (some h') ↔
      cs = 0 ∧ ∃ os, Gathers w x attributes h (sources.map ([·])) os ∧ h' = os.foldl store h := by
  induction sources generalizing h cs with
  | nil =>
    rw [List.foldlM_nil, runs_pure_some_iff]
    refine and_congr_right fun _ => ⟨fun hh => ⟨[], .done h, hh⟩, ?_⟩
    rintro ⟨os, hg, rfl⟩
    cases hg with
    | done => rfl
  | cons s rest ih =>
    rw [List.foldlM_cons, runs_bind_some_iff]
    constructor
    · rintro ⟨h₁, cs₁, cs₂, rfl, hs, hrest⟩
      obtain ⟨t, cs₃, _, rfl, ht, hend⟩ := runs_bind_some_iff.1 hs
      obtain ⟨rfl, rfl⟩ := runs_pure_some_iff.1 hend
      obtain ⟨rfl, more, hg, rfl⟩ := ih.1 hrest
      have hcs₃ := Quiet.eq_zero (x.quiet_obtain _ _ _) ht
      subst hcs₃
      refine ⟨rfl, (s, t) :: more, gathers_cons_iff.2 ⟨[(s, t)], more, rfl, rfl, ?_, hg⟩, rfl⟩
      intro o ho
      rw [List.mem_singleton.1 ho]
      exact ht
    · rintro ⟨rfl, all, hg, rfl⟩
      obtain ⟨os, more, rfl, hos, hruns, hmore⟩ := gathers_cons_iff.1 hg
      obtain ⟨⟨s', t⟩, rfl, rfl⟩ := List.map_eq_singleton_iff.1 hos
      exact ⟨_, 0, 0, (add_zero 0).symm, runs_bind_some_iff.2 ⟨t, 0, 0, (add_zero 0).symm,
        hruns _ List.mem_cons_self, runs_pure_some_iff.2 ⟨rfl, rfl⟩⟩,
        ih.2 ⟨rfl, more, hmore, rfl⟩⟩

end SourceRun

/-! ## Outcomes against the tables at the end -/

/-- All outcomes of the sources are those against the tables at the end. -/
def Consistent (w : Surroundings) (x : SourceRun) (attributes : Option (NameMap String))
    (tables : Namespace) (os : List SourceOutcome) : Prop :=
  ∀ o ∈ os, Runs w (x.obtain (harvest tables os).tables attributes o.1) 0 (some o.2)

variable {x : SourceRun} {w : Surroundings} {attributes : Option (NameMap String)}
  {sources : List Source} {tables : Namespace} {os os' : List SourceOutcome}

/-- No source of independent waves refers to a later one. -/
theorem SourceRun.Gathers.referencesPrecede {h : Harvest} {waves : List (List Source)}
    (hg : Gathers w x attributes h waves os) (hi : Independent waves) : ReferencesPrecede os := by
  have hwaves := hi.pairwise_flatten
  rwa [← hg.map_fst, List.pairwise_map] at hwaves

/-- Independent waves: no source refers to one whose table comes with its own wave or later, so the
tables that it reads are still there at the end. -/
theorem SourceRun.Gathers.exists_seen {h : Harvest} {waves : List (List Source)}
    (hg : Gathers w x attributes h waves os) (hi : Independent waves) :
    ∀ o ∈ os, ∃ seen : Namespace,
      (∀ k ∈ o.1.references, seen.get? k = (os.foldl store h).tables.get? k) ∧
        Runs w (x.obtain seen attributes o.1) 0 (some o.2) := by
  induction hg with
  | done => simp
  | @wave h wave rest os more hos hruns hr ih =>
    obtain ⟨hwave, hrest⟩ := hi
    intro o ho
    rcases List.mem_append.1 ho with ho | ho
    · have hmem : o.1 ∈ wave := hos ▸ List.mem_map_of_mem ho
      refine ⟨h.tables, fun k hk => ?_, hruns o ho⟩
      refine (get?_foldl_store_of_forall_ne fun o' ho' he => ?_).symm
      subst he
      have hmem' : o'.1 ∈ wave ++ rest.flatten := by
        rw [← hos, ← hr.map_fst, ← List.map_append]
        exact List.mem_map_of_mem ho'
      exact hwave o.1 hmem o'.1 hmem' hk
    · rw [List.foldl_append]
      exact ih hrest o ho

theorem SourceRun.Gathers.obtain_foldl {h : Harvest} {waves : List (List Source)}
    (hg : Gathers w x attributes h waves os) (hi : Independent waves)
    (hreads : ∀ s ∈ waves.flatten, x.ReadsOnlyReferences attributes s) :
    ∀ o ∈ os, Runs w (x.obtain (os.foldl store h).tables attributes o.1) 0 (some o.2) := by
  intro o ho
  obtain ⟨seen, hseen, hrun⟩ := hg.exists_seen hi o ho
  have hread := hreads o.1 (hg.map_fst ▸ List.mem_map_of_mem ho)
  rwa [← hread.obtain_eq hseen]

/-- What has settled comes to one outcome. -/
theorem outcome_eq {tables : Namespace} {s : Source} {t t' : Option Table}
    (h : Runs (.prompt answers) (x.obtain tables attributes s) 0 (some t))
    (h' : Runs (.prompt answers) (x.obtain tables attributes s) 0 (some t')) : t = t' := by
  obtain ⟨a, ha⟩ : Settled answers (x.obtain tables attributes s) :=
    (x.probing_obtain ..).settled
  rw [((ha _ _).1 h).2, ((ha _ _).1 h').2]

theorem nodup_key_of_perm (hd : DeclaredInOrder sources) (hos : (os.map Prod.fst).Perm sources) :
    (os.map SourceOutcome.key).Nodup := by
  have hmap : os.map SourceOutcome.key = (os.map Prod.fst).map (·.key) := by
    rw [List.map_map]
    rfl
  rw [hmap]
  exact (hos.map _).nodup_iff.2 hd.nodup

/-- The tables at the end give what is referred to by a source, if the outcomes of the sources before
it are the same. -/
theorem get?_harvest_eq (hd : DeclaredInOrder sources) (hos : (os.map Prod.fst).Perm sources)
    (hos' : (os'.map Prod.fst).Perm sources) {k : String}
    (hk : ∀ s ∈ sources, s.key = k → ∀ t t', (s, t) ∈ os → (s, t') ∈ os' → t = t') :
    (harvest tables os).tables.get? k = (harvest tables os').tables.get? k := by
  by_cases hs : ∃ s ∈ sources, s.key = k
  · obtain ⟨s, hs, rfl⟩ := hs
    obtain ⟨⟨s₁, t⟩, ho, hs₁⟩ := List.mem_map.1 (hos.mem_iff.2 hs)
    obtain ⟨⟨s₂, t'⟩, ho', hs₂⟩ := List.mem_map.1 (hos'.mem_iff.2 hs)
    cases hs₁
    cases hs₂
    have hget := get?_foldl_store_of_mem (h := ⟨tables, .empty⟩) (nodup_key_of_perm hd hos) ho
    have hget' := get?_foldl_store_of_mem (h := ⟨tables, .empty⟩) (nodup_key_of_perm hd hos') ho'
    rw [hk _ hs rfl t t' ho ho', ← hget'] at hget
    exact hget
  · have hne : ∀ {os : List SourceOutcome}, (os.map Prod.fst).Perm sources →
        ∀ o ∈ os, o.key ≠ k := fun hos o ho he =>
      hs ⟨o.1, hos.mem_iff.1 (List.mem_map_of_mem ho), he⟩
    rw [harvest, harvest, get?_foldl_store_of_forall_ne (hne hos),
      get?_foldl_store_of_forall_ne (hne hos')]

/-- **There is only one way** for the outcomes of sources that are declared in order to be
consistent. -/
theorem Consistent.agree (hd : DeclaredInOrder sources)
    (hreads : ∀ s ∈ sources, x.ReadsOnlyReferences attributes s)
    (hos : (os.map Prod.fst).Perm sources) (hos' : (os'.map Prod.fst).Perm sources)
    (hc : Consistent (.prompt answers) x attributes tables os)
    (hc' : Consistent (.prompt answers) x attributes tables os') {s : Source} (hs : s ∈ sources)
    {t t' : Option Table} (ht : (s, t) ∈ os) (ht' : (s, t') ∈ os') : t = t' := by
  -- The induction is on the sources up to this one in the order of declaration.
  have hprefix : ∀ before after, sources = before ++ after → ∀ s ∈ before, ∀ t t',
      (s, t) ∈ os → (s, t') ∈ os' → t = t' := by
    intro before
    induction before using List.reverseRecOn with
    | nil => simp
    | append_singleton before s ih =>
      intro after hsources s' hs' t t' ht ht'
      rcases List.mem_append.1 hs' with hs' | hs'
      · exact ih (s :: after) (by simp [hsources]) s' hs' t t' ht ht'
      · cases List.mem_singleton.1 hs'
        have hsplit : sources = before ++ s :: after := by simp [hsources]
        have hlater : ∀ s' ∈ after, s'.key ∉ s.references := by
          have hp := hsplit ▸ hd.references
          exact (List.pairwise_cons.1 (List.pairwise_append.1 hp).2.1).1
        have hread := hreads s (by simp [hsplit])
        have htables : ∀ k ∈ s.references,
            (harvest tables os).tables.get? k = (harvest tables os').tables.get? k := by
          intro k hk
          refine get?_harvest_eq hd hos hos' fun s' hs' he => ?_
          subst he
          rw [hsplit, List.mem_append, List.mem_cons] at hs'
          rcases hs' with hs' | rfl | hs'
          · exact ih (s :: after) hsplit s' hs'
          · exact absurd rfl (Source.ne_key_of_mem_references hk)
          · exact absurd hk (hlater s' hs')
        have hrun := hc _ ht
        rw [hread.obtain_eq htables] at hrun
        exact outcome_eq hrun (hc' _ ht')
  exact hprefix sources [] (by simp) s hs t t' ht ht'

theorem mem_of_agree (hos : (os.map Prod.fst).Perm sources) (hos' : (os'.map Prod.fst).Perm sources)
    (hagree : ∀ s ∈ sources, ∀ t t', (s, t) ∈ os → (s, t') ∈ os' → t = t') {o : SourceOutcome}
    (ho : o ∈ os) : o ∈ os' := by
  have hs : o.1 ∈ sources := hos.mem_iff.1 (List.mem_map_of_mem ho)
  obtain ⟨⟨s, t'⟩, ho', hs'⟩ := List.mem_map.1 (hos'.mem_iff.2 hs)
  cases hs'
  rwa [show o = (o.1, t') from Prod.ext rfl (hagree o.1 hs o.2 t' ho ho')]

/-- Consistent outcomes in whatever order leave the same tables and the same failed sources. -/
theorem Consistent.harvest_eq (hd : DeclaredInOrder sources)
    (hreads : ∀ s ∈ sources, x.ReadsOnlyReferences attributes s)
    (hos : (os.map Prod.fst).Perm sources) (hos' : (os'.map Prod.fst).Perm sources)
    (hp : ReferencesPrecede os) (hp' : ReferencesPrecede os')
    (hc : Consistent (.prompt answers) x attributes tables os)
    (hc' : Consistent (.prompt answers) x attributes tables os') :
    harvest tables os = harvest tables os' := by
  have hagree : ∀ s ∈ sources, ∀ t t', (s, t) ∈ os → (s, t') ∈ os' → t = t' :=
    fun s hs t t' => agree hd hreads hos hos' hc hc' hs
  have hmem : ∀ o, o ∈ os ↔ o ∈ os' := fun o =>
    ⟨mem_of_agree hos hos' hagree,
      mem_of_agree hos' hos fun s hs t t' ht ht' => (hagree s hs t' t ht' ht).symm⟩
  have htables : (harvest tables os).tables = (harvest tables os').tables :=
    NameMap.ext fun k => get?_harvest_eq hd hos hos' fun s hs _ => hagree s hs
  have hfailed : (harvest tables os).failed = (harvest tables os').failed := by
    refine NameSet.ext fun k => Bool.eq_iff_iff.2 ?_
    rw [has_failed_harvest, has_failed_harvest, failing_iff_tainted hp, failing_iff_tainted hp']
    exact ⟨.mono fun o => (hmem o).1, .mono fun o => (hmem o).2⟩
  calc harvest tables os = ⟨(harvest tables os).tables, (harvest tables os).failed⟩ := rfl
    _ = ⟨(harvest tables os').tables, (harvest tables os').failed⟩ := by rw [htables, hfailed]
    _ = harvest tables os' := rfl

/-! ## Waves and single sources -/

/-- Sources that have settled come to outcomes, wave by wave. -/
theorem exists_gathers (answers : (r : Request) → Except EngineError r.Answer) (x : SourceRun)
    (attributes : Option (NameMap String)) (h : Harvest) (waves : List (List Source)) :
    ∃ os, Gathers (.prompt answers) x attributes h waves os := by
  induction waves generalizing h with
  | nil => exact ⟨[], .done h⟩
  | cons wave rest ih =>
    have hwave : ∃ os : List SourceOutcome, os.map Prod.fst = wave ∧ ∀ o ∈ os,
        Runs (.prompt answers) (x.obtain h.tables attributes o.1) 0 (some o.2) := by
      induction wave with
      | nil => exact ⟨[], rfl, by simp⟩
      | cons s wave ihw =>
        obtain ⟨t, ht⟩ : Settled answers (x.obtain h.tables attributes s) :=
          (x.probing_obtain ..).settled
        obtain ⟨os, rfl, hos⟩ := ihw
        refine ⟨(s, t) :: os, rfl, fun o ho => ?_⟩
        rcases List.mem_cons.1 ho with rfl | ho
        · exact (ht 0 t).2 ⟨rfl, rfl⟩
        · exact hos o ho
    obtain ⟨os, hos, hruns⟩ := hwave
    obtain ⟨more, hmore⟩ := ih (os.foldl store h)
    exact ⟨os ++ more, .wave hos hruns hmore⟩

/-- Independent waves of the same sources leave the same. -/
theorem harvest_eq_of_gathers (hd : DeclaredInOrder sources)
    (hreads : ∀ s ∈ sources, x.ReadsOnlyReferences attributes s) {waves waves' : List (List Source)}
    (hw : waves.flatten.Perm sources) (hw' : waves'.flatten.Perm sources) (hi : Independent waves)
    (hi' : Independent waves')
    (hg : Gathers (.prompt answers) x attributes ⟨tables, .empty⟩ waves os)
    (hg' : Gathers (.prompt answers) x attributes ⟨tables, .empty⟩ waves' os') :
    harvest tables os = harvest tables os' :=
  Consistent.harvest_eq hd hreads (hg.map_fst ▸ hw) (hg'.map_fst ▸ hw')
    (hg.referencesPrecede hi) (hg'.referencesPrecede hi')
    (hg.obtain_foldl hi fun s hs => hreads s (hw.mem_iff.1 hs))
    (hg'.obtain_foldl hi' fun s hs => hreads s (hw'.mem_iff.1 hs))

/-- **Waves of sources do what sources in order do.** Both ways to run sources have one result, the
same for both, where nothing is late or cancelled and every request has one answer. -/
theorem runs_runSources_iff_runs_runInOrder (hd : DeclaredInOrder sources)
    (hreads : ∀ s ∈ sources, x.ReadsOnlyReferences attributes s) :
    ∃ h, (∀ cs h', Runs (.prompt answers) (x.runSources attributes sources tables) cs (some h') ↔
        cs = 0 ∧ h' = h) ∧
      ∀ cs h', Runs (.prompt answers) (x.runInOrder attributes sources tables) cs (some h') ↔
        cs = 0 ∧ h' = h := by
  have hperm : (sources.map ([·])).flatten.Perm sources := by
    rw [← List.flatMap_def, List.flatMap_singleton']
  have hwaves := perm_flatten_dependencyWaves sources
  have hi := independent_dependencyWaves hd
  have hi' := independent_singletons hd
  obtain ⟨os, hg⟩ := exists_gathers answers x attributes ⟨tables, .empty⟩ (sources.map ([·]))
  refine ⟨harvest tables os, fun cs h' => ?_, fun cs h' => ?_⟩
  · rw [runs_runSources_iff not_false]
    refine and_congr_right fun _ => ⟨?_, ?_⟩
    · rintro ⟨os', hg', rfl⟩
      exact harvest_eq_of_gathers hd hreads hwaves hperm hi hi' hg' hg
    · rintro rfl
      obtain ⟨os', hg'⟩ := exists_gathers answers x attributes ⟨tables, .empty⟩
        (dependencyWaves sources)
      exact ⟨os', hg', harvest_eq_of_gathers hd hreads hperm hwaves hi' hi hg hg'⟩
  · rw [runInOrder, runs_foldlM_obtain_iff]
    refine and_congr_right fun _ => ⟨?_, ?_⟩
    · rintro ⟨os', hg', rfl⟩
      exact harvest_eq_of_gathers hd hreads hperm hperm hi' hi' hg' hg
    · rintro rfl
      exact ⟨os, hg, rfl⟩

/-! ## A text and its copy -/

namespace TextAndCopy

/-- A source that is a text. -/
def text : Source := ⟨"a", 0, false, [], none, .static "x"⟩

/-- A copy of it. -/
def copied : Source := ⟨"b", 1, false, [], none, .copy "$\x7bsource::a\x7d"⟩

/-- A visit without extensions. -/
def run : SourceRun :=
  ⟨⟨⟨[], none⟩, .named "srv" .linux, .standard, 0⟩,
    ⟨1, "C", none, none, [], ⟨[], false, [], []⟩, .empty, .empty, [text, copied], .empty⟩, .empty⟩

theorem declaredInOrder : DeclaredInOrder [text, copied] :=
  ⟨by decide, by decide +kernel⟩

theorem readsOnlyReferences_text : run.ReadsOnlyReferences none text := by
  intro tables tables' _
  have hkey : Reference.key? "x" = none := by decide +kernel
  have hexecute (tables : Namespace) : run.execute text tables none =
      pure (.ok ((Table.lookup "x" tables).getD .empty)) := rfl
  rw [hexecute, hexecute, Table.lookup, Table.lookup, hkey]

theorem readsOnlyReferences_copied : run.ReadsOnlyReferences none copied := by
  intro tables tables' ht
  have hkey : Reference.key? "$\x7bsource::a\x7d" = some "a" := by decide +kernel
  have hreferences : "a" ∈ copied.references := by decide +kernel
  have hexecute (tables : Namespace) : run.execute copied tables none =
      pure (.ok ((Table.lookup "$\x7bsource::a\x7d" tables).getD .empty)) := rfl
  rw [hexecute, hexecute, Table.lookup, Table.lookup, hkey]
  dsimp only
  rw [ht "a" hreferences]

/-- The text and its copy can be run in waves or in order. -/
theorem runs_text_and_copy : ∃ h,
    (∀ cs h', Runs (.prompt fun _ => .error ⟨.probeFailure, "no answer"⟩)
      (run.runSources none [text, copied] .empty) cs (some h') ↔ cs = 0 ∧ h' = h) ∧
    ∀ cs h', Runs (.prompt fun _ => .error ⟨.probeFailure, "no answer"⟩)
      (run.runInOrder none [text, copied] .empty) cs (some h') ↔ cs = 0 ∧ h' = h := by
  refine runs_runSources_iff_runs_runInOrder declaredInOrder fun s hs => ?_
  rcases List.mem_cons.1 hs with rfl | hs
  · exact readsOnlyReferences_text
  · rw [List.mem_singleton.1 hs]
    exact readsOnlyReferences_copied

end TextAndCopy

end HardwareWatch
