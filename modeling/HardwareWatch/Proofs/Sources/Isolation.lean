import HardwareWatch.Proofs.Activity.InTime
import HardwareWatch.Proofs.Activity.Respondents
import HardwareWatch.Proofs.Sources.InOrder
import Mathlib.Logic.Relation

/-!
# Failures are isolated

Sources share waves and tables, and each one has a respondent of its own that says what comes back on
its requests: rows or none, an error, or nothing in time. If another respondent takes the place of
that of one source, the change reaches those that are built on this source, and no others.

* `SourceRun.harvestBy` is what sources leave if each of them has a respondent.
  `SourceRun.runs_runSources_iff_exists_harvestBy` says that all runs come about in this way.
* `BuiltOn` says that a source is another one or refers to one that is built on it.
* `Harvest.AgreesOn` says that two runs left the same under some keys.
* `SourceRun.failures_isolated` compares what is left with two respondents of one source.
-/

namespace HardwareWatch

open Activity Relation

/-! ## Sources with respondents -/

namespace Visit

variable {v : Visit} {w : Surroundings} {α : Type} {p : Activity α}

theorem finishes_probe (v : Visit) (what : String) (inTurn : Bool) (r : Request) :
    Respondent.Finishes (v.probe what inTurn r) := by
  have htimed : Respondent.Finishes (v.timedProbe what r) :=
    (Respondent.Finishes.limited _ _).bind fun _ => .pure _
  have hordered : Respondent.Finishes (v.orderedProbe what inTurn r) := by
    cases inTurn with
    | false => exact htimed
    | true => exact (htimed.serialized _).bind fun _ => .pure _
  exact hordered.guarded.bind fun _ => .pure _

/-- What is made of probes comes to its end whatever it is told. -/
theorem Probing.finishes (h : v.Probing p) : Respondent.Finishes p := by
  induction h with
  | pure a => exact .pure a
  | probe what inTurn r => exact v.finishes_probe what inTurn r
  | cancelled => exact .cancelled
  | pause ms => exact .pause ms
  | bind _ _ ihp ihf => exact ihp.bind ihf

theorem followed_probe (hw : ¬w.mayBeCancelled) (v : Visit) (what : String) (inTurn : Bool)
    (r : Request) : Followed w (v.probe what inTurn r) := by
  have htimed : Followed w (v.timedProbe what r) :=
    (Followed.limited_ask _ r).bind fun _ => .pure _
  have hordered : Followed w (v.orderedProbe what inTurn r) := by
    cases inTurn with
    | false => exact htimed
    | true => exact (htimed.serialized _).bind fun _ => .pure _
  exact (hordered.guarded hw).bind fun _ => .pure _

/-- All runs of what is made of probes are the doings of respondents. -/
theorem Probing.followed (hw : ¬w.mayBeCancelled) (h : v.Probing p) : Followed w p := by
  induction h with
  | pure a => exact .pure a
  | probe what inTurn r => exact followed_probe hw v what inTurn r
  | cancelled => exact .cancelled hw
  | pause ms => exact .pause ms
  | bind _ _ ihp ihf => exact ihp.bind ihf

end Visit

namespace SourceRun

variable {x : SourceRun} {attributes : Option (NameMap String)} {sources : List Source}
  {tables : Namespace} {h : Harvest} {cs : Multiset Change} {B B' : Source → Respondent}

/-- The table that a source comes to with a respondent, or nothing if it fails. -/
def outcomeBy (x : SourceRun) (b : Respondent) (attributes : Option (NameMap String))
    (tables : Namespace) (s : Source) : Option Table :=
  (b.follow (x.obtain tables attributes s) []).1.join

/-- What a wave of sources leaves if each of them has a respondent. -/
def waveBy (x : SourceRun) (B : Source → Respondent) (attributes : Option (NameMap String))
    (h : Harvest) (wave : List Source) : Harvest :=
  (wave.map fun s => (s, x.outcomeBy (B s) attributes h.tables s)).foldl store h

/-- What sources leave if each of them has a respondent. -/
def harvestBy (x : SourceRun) (B : Source → Respondent) (attributes : Option (NameMap String))
    (sources : List Source) (tables : Namespace) : Harvest :=
  (dependencyWaves sources).foldl (x.waveBy B attributes) ⟨tables, .empty⟩

theorem runs_outcomeBy (b : Respondent) (s : Source) (tables : Namespace) :
    Runs .uncancelled (x.obtain tables attributes s) 0
      (some (x.outcomeBy b attributes tables s)) := by
  obtain ⟨t, l, hfollow⟩ := (x.probing_obtain tables attributes s).finishes b []
  have ht : (b.follow (x.obtain tables attributes s) []).1 = some t := congrArg Prod.fst hfollow
  rw [outcomeBy, ht]
  exact b.runs_follow ht

/-- What a source can come to it comes to with a respondent. -/
theorem exists_outcomeBy_eq {s : Source} {t : Option Table}
    (hruns : Runs .uncancelled (x.obtain tables attributes s) cs (some t)) :
    ∃ b, x.outcomeBy b attributes tables s = t := by
  obtain ⟨b, l, -, hb⟩ := (x.probing_obtain tables attributes s).followed not_false _ _ hruns []
  refine ⟨b, ?_⟩
  rw [outcomeBy, hb b fun _ _ _ => ⟨rfl, rfl⟩]
  rfl

theorem waveBy_eq {wave : List Source} {os : List SourceOutcome} (hos : os.map Prod.fst = wave)
    (hB : ∀ o ∈ os, x.outcomeBy (B o.1) attributes h.tables o.1 = o.2) :
    x.waveBy B attributes h wave = os.foldl store h := by
  have hall : os.map (fun o => (o.1, x.outcomeBy (B o.1) attributes h.tables o.1)) = os.map id :=
    List.map_congr_left fun o ho => Prod.ext rfl (hB o ho)
  rw [waveBy, ← hos, List.map_map]
  exact congrArg (List.foldl store h) (hall.trans (List.map_id os))

theorem waveBy_congr {wave : List Source} (hB : ∀ s ∈ wave, B s = B' s) :
    x.waveBy B attributes h wave = x.waveBy B' attributes h wave := by
  rw [waveBy, waveBy, List.map_congr_left fun s hs => by rw [hB s hs]]

theorem foldl_waveBy_congr {waves : List (List Source)} (hB : ∀ s ∈ waves.flatten, B s = B' s) :
    waves.foldl (x.waveBy B attributes) h = waves.foldl (x.waveBy B' attributes) h := by
  induction waves generalizing h with
  | nil => rfl
  | cons wave rest ih =>
    rw [List.foldl_cons, List.foldl_cons,
      waveBy_congr fun s hs => hB s (List.mem_append_left _ hs),
      ih fun s hs => hB s (List.mem_append_right _ hs)]

theorem gathers_by (B : Source → Respondent) (h : Harvest) (waves : List (List Source)) :
    ∃ os, Gathers .uncancelled x attributes h waves os ∧
      waves.foldl (x.waveBy B attributes) h = os.foldl store h := by
  induction waves generalizing h with
  | nil => exact ⟨[], .done h, rfl⟩
  | cons wave rest ih =>
    obtain ⟨more, hmore, hrest⟩ := ih (x.waveBy B attributes h wave)
    refine ⟨_, .wave (by rw [List.map_map]; exact List.map_id _) (fun o ho => ?_) hmore, ?_⟩
    · obtain ⟨s, -, rfl⟩ := List.mem_map.1 ho
      exact runs_outcomeBy (B s) s h.tables
    · rw [List.foldl_cons, hrest, List.foldl_append]
      rfl

/-- Each source of a wave can be given a respondent by which it comes to its outcome. -/
theorem exists_respondents_of_runs {os : List SourceOutcome} (hos : (os.map Prod.fst).Nodup)
    (hruns : ∀ o ∈ os, Runs .uncancelled (x.obtain tables attributes o.1) 0 (some o.2)) :
    ∃ B : Source → Respondent, ∀ o ∈ os, x.outcomeBy (B o.1) attributes tables o.1 = o.2 := by
  have hone : ∀ s, ∃ b, ∀ o ∈ os, o.1 = s → x.outcomeBy b attributes tables o.1 = o.2 := by
    intro s
    by_cases hs : ∃ o ∈ os, o.1 = s
    · obtain ⟨o, ho, rfl⟩ := hs
      obtain ⟨b, hb⟩ := exists_outcomeBy_eq (hruns o ho)
      refine ⟨b, fun o' ho' he => ?_⟩
      rwa [List.inj_on_of_nodup_map hos ho' ho he]
    · exact ⟨.silent, fun o ho he => absurd ⟨o, ho, he⟩ hs⟩
  choose B hB using hone
  exact ⟨B, fun o ho => hB o.1 o ho rfl⟩

theorem Gathers.exists_respondents {waves : List (List Source)} {os : List SourceOutcome}
    (hg : Gathers .uncancelled x attributes h waves os) (hnodup : waves.flatten.Nodup) :
    ∃ B : Source → Respondent, waves.foldl (x.waveBy B attributes) h = os.foldl store h := by
  induction hg with
  | done => exact ⟨fun _ => .silent, rfl⟩
  | @wave h wave rest os more hos hruns _ ih =>
    rw [List.flatten_cons, List.nodup_append] at hnodup
    obtain ⟨hwave, hrest, hdisjoint⟩ := hnodup
    obtain ⟨B₁, hB₁⟩ := exists_respondents_of_runs (hos ▸ hwave) hruns
    obtain ⟨B₂, hB₂⟩ := ih hrest
    classical
    let B : Source → Respondent := fun s => if s ∈ wave then B₁ s else B₂ s
    have hfirst : x.waveBy B attributes h wave = os.foldl store h :=
      waveBy_eq hos fun o ho => by
        rw [show B o.1 = B₁ o.1 from if_pos (hos ▸ List.mem_map_of_mem ho), hB₁ o ho]
    have hlater : ∀ s ∈ rest.flatten, B s = B₂ s := fun s hs =>
      if_neg fun hmem => hdisjoint s hmem s hs rfl
    exact ⟨B, by rw [List.foldl_cons, hfirst, foldl_waveBy_congr hlater, hB₂, List.foldl_append]⟩

/-- **All runs of sources come about with respondents**, one for each source, unless the run is
cancelled. -/
theorem runs_runSources_iff_exists_harvestBy (hd : DeclaredInOrder sources) :
    Runs .uncancelled (x.runSources attributes sources tables) cs (some h) ↔
      cs = 0 ∧ ∃ B, h = x.harvestBy B attributes sources tables := by
  rw [runs_runSources_iff not_false]
  refine and_congr_right fun _ => ⟨?_, ?_⟩
  · rintro ⟨os, hg, rfl⟩
    have hnodup : (dependencyWaves sources).flatten.Nodup :=
      (perm_flatten_dependencyWaves sources).nodup_iff.2 hd.nodup.of_map
    obtain ⟨B, hB⟩ := hg.exists_respondents hnodup
    exact ⟨B, hB.symm⟩
  · rintro ⟨B, rfl⟩
    exact gathers_by B _ _

end SourceRun

/-! ## What is built on a source -/

/-- A source is another one, or it refers to a source that is built on the other one. -/
def BuiltOn (sources : List Source) (u s : Source) : Prop :=
  ReflTransGen (fun u v => v ∈ sources ∧ v.key ∈ u.references) u s

/-- No source with the key is built on the other one. -/
def Apart (sources : List Source) (s : Source) (k : String) : Prop :=
  ∀ v ∈ sources, v.key = k → ¬BuiltOn sources v s

/-- Under some keys there are the same tables, and the same ones of these keys count as failed. -/
def Harvest.AgreesOn (keys : String → Prop) (h h' : Harvest) : Prop :=
  ∀ k, keys k → h.tables.get? k = h'.tables.get? k ∧ h.failed.has k = h'.failed.has k

section Apart

variable {sources : List Source} {s u : Source} {k : String}

theorem Apart.of_mem_references (hu : u ∈ sources) (h : Apart sources s u.key)
    (hk : k ∈ u.references) : Apart sources s k := by
  rintro v hv rfl hbuilt
  exact h u hu rfl (.head ⟨hv, hk⟩ hbuilt)

theorem apart_of_not_builtOn (hd : DeclaredInOrder sources) (hu : u ∈ sources)
    (h : ¬BuiltOn sources u s) : Apart sources s u.key := by
  intro v hv hkey
  rwa [List.inj_on_of_nodup_map hd.nodup hv hu hkey]

end Apart

namespace SourceRun

variable {x : SourceRun} {attributes : Option (NameMap String)} {sources : List Source}
  {tables : Namespace} {h h' : Harvest} {B B' : Source → Respondent} {s : Source}
  {keys : String → Prop}

theorem agreesOn_store {u : Source} {t t' : Option Table} (h₀ : h.AgreesOn keys h')
    (ht : keys u.key → t = t') (hreferences : keys u.key → ∀ k ∈ u.references, keys k) :
    (store h (u, t)).AgreesOn keys (store h' (u, t')) := by
  intro k hk
  by_cases hkey : u.key = k
  · subst hkey
    cases ht hk
    refine ⟨?_, Bool.eq_iff_iff.2 ?_⟩
    · exact (get?_store_self h (u, t)).trans (get?_store_self h' (u, t)).symm
    · rw [has_store, has_store, (h₀ _ hk).2]
      refine or_congr_right (and_congr_right fun _ => or_congr_right ?_)
      exact exists_congr fun k' => and_congr_right fun hk' => by
        rw [(h₀ k' (hreferences hk k' hk')).2]
  · have hne : ∀ t : Option Table, SourceOutcome.key (u, t) ≠ k := fun _ => hkey
    refine ⟨?_, Bool.eq_iff_iff.2 ?_⟩
    · rw [get?_store_of_ne (hne t), get?_store_of_ne (hne t'), (h₀ k hk).1]
    · rw [has_store, has_store, (h₀ k hk).2]
      simp only [hne, false_and]

/-- **A step**: a wave keeps the agreement about what is apart from a source. -/
theorem agreesOn_waveBy {wave : List Source} (hwave : wave ⊆ sources)
    (hreads : ∀ u ∈ sources, x.ReadsOnlyReferences attributes u)
    (hB : ∀ u ∈ sources, u ≠ s → B u = B' u) (h₀ : h.AgreesOn (Apart sources s) h') :
    (x.waveBy B attributes h wave).AgreesOn (Apart sources s) (x.waveBy B' attributes h' wave) := by
  have houtcome : ∀ u ∈ wave, Apart sources s u.key →
      x.outcomeBy (B u) attributes h.tables u = x.outcomeBy (B' u) attributes h'.tables u := by
    intro u hu hapart
    have hne : u ≠ s := fun he => hapart u (hwave hu) rfl (he ▸ .refl)
    have hread : x.obtain h.tables attributes u = x.obtain h'.tables attributes u :=
      (hreads u (hwave hu)).obtain_eq fun k hk =>
        (h₀ k (hapart.of_mem_references (hwave hu) hk)).1
    rw [outcomeBy, outcomeBy, hB u (hwave hu) hne, hread]
  -- The outcomes are stored one by one; the tables that they were read from stay.
  rw [waveBy, waveBy]
  generalize h.tables = seen, h'.tables = seen' at houtcome
  induction wave generalizing h h' with
  | nil => exact h₀
  | cons u rest ih =>
    rw [List.map_cons, List.map_cons, List.foldl_cons, List.foldl_cons]
    refine ih (fun v hv => hwave (List.mem_cons_of_mem _ hv)) ?_
      fun v hv => houtcome v (List.mem_cons_of_mem _ hv)
    exact agreesOn_store h₀ (houtcome u List.mem_cons_self) fun hapart k hk =>
      hapart.of_mem_references (hwave List.mem_cons_self) hk

/-- **A run** keeps the agreement about what is apart from a source. -/
theorem agreesOn_foldl_waveBy {waves : List (List Source)} (hwaves : ∀ wave ∈ waves, wave ⊆ sources)
    (hreads : ∀ u ∈ sources, x.ReadsOnlyReferences attributes u)
    (hB : ∀ u ∈ sources, u ≠ s → B u = B' u) (h₀ : h.AgreesOn (Apart sources s) h') :
    (waves.foldl (x.waveBy B attributes) h).AgreesOn (Apart sources s)
      (waves.foldl (x.waveBy B' attributes) h') := by
  induction waves generalizing h h' with
  | nil => exact h₀
  | cons wave rest ih =>
    exact ih (fun wave' hwave' => hwaves wave' (List.mem_cons_of_mem _ hwave'))
      (agreesOn_waveBy (hwaves wave List.mem_cons_self) hreads hB h₀)

end SourceRun

/-! ## A source, its copy and a text -/

namespace AskedAndText

open SourceRun

/-- A source that an extension is asked for. -/
def asked : Source := ⟨"a", 0, false, [], none, .snmpGet "1.1"⟩

/-- A copy of its table. -/
def copied : Source := ⟨"b", 1, false, [], none, .copy "$\x7bsource::a\x7d"⟩

/-- A source that is a text. -/
def text : Source := ⟨"c", 2, false, [], none, .static "x"⟩

/-- The extension that is asked. -/
def snmp : Extension := ⟨"snmp", [.snmpGet], [], fun _ => true⟩

/-- A visit with the extension. -/
def run : SourceRun :=
  ⟨⟨⟨[snmp], none⟩, .named "srv" .linux, .standard, 0⟩,
    ⟨1, "C", none, none, [], ⟨[], false, [], []⟩, .empty, .empty, [asked, copied, text], .empty⟩,
    .empty⟩

/-- The answer to a probe. -/
def answer : (p : Probe) → p.Answer
  | .source _ => ⟨[["d0"]], none⟩
  | .criterion _ => .success "1"
  | .health => true

/-- The extension answers what it is asked. -/
def answering : Respondent := ⟨fun _ => true, fun _ r => some (.ok (answer r.probe))⟩

theorem references_asked : asked.references = [] := by
  rw [Source.references_eq]
  decide +kernel

theorem references_copied : copied.references = ["a"] := by
  rw [Source.references_eq]
  decide +kernel

theorem references_text : text.references = [] := by
  rw [Source.references_eq]
  decide +kernel

theorem declaredInOrder : DeclaredInOrder [asked, copied, text] := by
  refine ⟨by decide, ?_⟩
  simp [references_asked, references_copied, text]

theorem readsOnlyReferences : ∀ u ∈ [asked, copied, text], run.ReadsOnlyReferences none u := by
  rw [List.forall_mem_cons, List.forall_mem_cons, List.forall_mem_singleton]
  refine ⟨fun tables tables' _ => rfl, fun tables tables' h => ?_, fun tables tables' _ => ?_⟩
  · have hkey : Reference.key? "$\x7bsource::a\x7d" = some "a" := by decide +kernel
    have hexecute (tables : Namespace) : run.execute copied tables none =
        pure (.ok ((Table.lookup "$\x7bsource::a\x7d" tables).getD .empty)) := rfl
    rw [hexecute, hexecute, Table.lookup, Table.lookup, hkey]
    dsimp only
    rw [h "a" (references_copied ▸ List.mem_singleton_self "a")]
  · have hkey : Reference.key? "x" = none := by decide +kernel
    have hexecute (tables : Namespace) : run.execute text tables none =
        pure (.ok ((Table.lookup "x" tables).getD .empty)) := rfl
    rw [hexecute, hexecute, Table.lookup, Table.lookup, hkey]

theorem not_builtOn : ¬BuiltOn [asked, copied, text] text asked := by
  intro h
  rcases ReflTransGen.cases_head h with he | ⟨v, ⟨-, hv⟩, -⟩
  · exact absurd he (by decide)
  · rw [references_text] at hv
    exact List.not_mem_nil hv

end AskedAndText

end HardwareWatch
