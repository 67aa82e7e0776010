import HardwareWatch.Proofs.Connector.Places
import HardwareWatch.Proofs.Documents.Connectors

/-!
# Usable connectors

A document is read as a connector if it has the form of one and the connector can be used. The
sources stand in the lists of several places, and what is asked of their keys is asked across all of
them. Each list is numbered on its own.

* `Connector.Declares` says that a source stands somewhere in the list of a place.
* `Connector.IsUsable` says what is asked of a connector, `Connector.fault?_eq_none_iff` that this is
  what is looked for.
* `Connector.decodes_iff` says which documents are read, and which positions the criteria and the
  sources have then.
-/

namespace HardwareWatch

/-- The sources of the collection of a job. -/
def JobTasks.collectionSources : JobTasks → List Source
  | standard _ (some collect) => collect.task.sources
  | _ => []

theorem JobTasks.sources_eq (tasks : JobTasks) :
    tasks.sources = (SourceRun.discoveryTask tasks).sources ++ tasks.collectionSources := by
  rcases tasks with ⟨discovery, _ | collect⟩ | task
  · rfl
  · rfl
  · exact (List.append_nil _).symm

namespace Connector

/-- The list of the sources that are declared at a place. -/
def declaredAt (c : Connector) : Place → List Source
  | .pre => c.pre
  | .discovery type =>
    ((c.monitors.get? type).map fun job => (SourceRun.discoveryTask job.tasks).sources).getD []
  | .collection type => ((c.monitors.get? type).map fun job => job.tasks.collectionSources).getD []

/-- A source is declared at a place, with some sources before it in the list there. -/
def Declares (c : Connector) (place : Place) (i : Nat) (s : Source) : Prop :=
  (c.declaredAt place)[i]? = some s

/-- What is asked of a connector. -/
structure IsUsable (c : Connector) : Prop where
  version : c.formatVersion = 1
  id : Text.isBlank c.id = false
  /-- No key is declared twice, neither in one list nor in two. -/
  keys {place place' : Place} {i i' : Nat} {s s' : Source} (hs : c.Declares place i s)
    (hs' : c.Declares place' i' s') (h : s.key = s'.key) : place = place' ∧ i = i'
  jobs {type : String} {job : MonitorJob} (h : c.monitors.get? type = some job) : job.keys ≠ []

/-- A document has the form of a connector. -/
def IsReadFrom (c : Connector) (document : String) : Prop :=
  ∃ v, Json.read? document = some v ∧ ofJson? v = some c

variable {c : Connector}

/-! ## The places -/

/-- The places where sources may be declared, in order of declaration. -/
def places (c : Connector) : List Place :=
  .pre :: c.monitors.toList.flatMap fun e => [.discovery e.1, .collection e.1]

theorem allSources_eq (c : Connector) : c.allSources = c.places.flatMap c.declaredAt := by
  rw [allSources, places, List.flatMap_cons, NameMap.values, List.flatMap_map, List.flatMap_assoc]
  refine congrArg (c.pre ++ ·) (List.flatMap_congr fun e he => ?_)
  have hjob : c.monitors.get? e.1 = some e.2 := NameMap.get?_eq_some_iff.2 he
  simp [declaredAt, hjob, JobTasks.sources_eq]

theorem nodup_places (c : Connector) : c.places.Nodup := by
  refine List.nodup_cons.2 ⟨by simp, List.nodup_flatMap.2 ⟨fun e _ => by simp, ?_⟩⟩
  refine c.monitors.ascending.imp fun {a b} hlt place ha hb => ?_
  have hne : a.1 ≠ b.1 := fun he => String.lt_irrefl b.1 (he ▸ hlt)
  rcases List.mem_pair.1 ha with rfl | rfl <;> simp [hne] at hb

theorem Declares.mem_places {place : Place} {i : Nat} {s : Source} (h : c.Declares place i s) :
    place ∈ c.places := by
  have hsome {type : String} {f : MonitorJob → List Source}
      (h : (((c.monitors.get? type).map f).getD [])[i]? = some s) :
      ∃ job, (type, job) ∈ c.monitors.toList := by
    cases hjob : c.monitors.get? type with
    | none => simp [hjob] at h
    | some job => exact ⟨job, NameMap.get?_eq_some_iff.1 hjob⟩
  cases place with
  | pre => exact List.mem_cons_self
  | discovery type =>
    obtain ⟨job, hjob⟩ := hsome h
    exact List.mem_cons_of_mem _ (List.mem_flatMap.2 ⟨_, hjob, by simp⟩)
  | collection type =>
    obtain ⟨job, hjob⟩ := hsome h
    exact List.mem_cons_of_mem _ (List.mem_flatMap.2 ⟨_, hjob, by simp⟩)

/-! ## Keys -/

/-- Lists hold nothing twice, neither one of them nor two, if all of them together do not. -/
theorem nodup_map_flatMap_iff {ι α β : Type} {ps : List ι} (hps : ps.Nodup) {f : ι → List α}
    {key : α → β} : ((ps.flatMap f).map key).Nodup ↔ ∀ p ∈ ps, ∀ p' ∈ ps, ∀ (i i' : Nat) (a a' : α),
      (f p)[i]? = some a → (f p')[i']? = some a' → key a = key a' → p = p' ∧ i = i' := by
  rw [List.map_flatMap, List.nodup_flatMap]
  constructor
  · rintro ⟨hown, hothers⟩ p hp p' hp' i i' a a' ha ha' hkey
    by_cases hne : p = p'
    · subst hne
      have hi : ((f p).map key)[i]? = some (key a) := by rw [List.getElem?_map, ha]; rfl
      have hi' : ((f p).map key)[i']? = some (key a) := by
        rw [List.getElem?_map, ha', hkey]
        rfl
      obtain ⟨hlt, -⟩ := List.getElem?_eq_some_iff.1 hi
      exact ⟨rfl, (List.getElem?_inj hlt (hown p hp)).1 (hi.trans hi'.symm)⟩
    · have hsymm : Std.Symm (Function.onFun List.Disjoint fun p => (f p).map key) :=
        ⟨fun _ _ h _ ha hb => h hb ha⟩
      have hmem := List.mem_map_of_mem (f := key) (List.mem_of_getElem? ha)
      have hmem' := List.mem_map_of_mem (f := key) (List.mem_of_getElem? ha')
      exact (hothers.forall hp hp' hne hmem (hkey ▸ hmem')).elim
  · refine fun h => ⟨fun p hp => List.pairwise_map.2 (List.pairwise_iff_getElem.2 ?_),
      hps.pairwise_of_forall_ne ?_⟩
    · intro i j hi hj hlt hkey
      have hij := (h p hp p hp i j _ _ (List.getElem?_eq_getElem hi) (List.getElem?_eq_getElem hj)
        hkey).2
      exact Nat.ne_of_lt hlt hij
    · intro p hp p' hp' hne k hk hk'
      obtain ⟨a, ha, rfl⟩ := List.mem_map.1 hk
      obtain ⟨a', ha', hkey⟩ := List.mem_map.1 hk'
      obtain ⟨i, hi⟩ := List.mem_iff_getElem?.1 ha
      obtain ⟨i', hi'⟩ := List.mem_iff_getElem?.1 ha'
      exact hne (h p hp p' hp' i i' a a' hi hi' hkey.symm).1

theorem keysDistinct_iff : c.KeysDistinct ↔ ∀ {place place' : Place} {i i' : Nat} {s s' : Source},
    c.Declares place i s → c.Declares place' i' s' → s.key = s'.key → place = place' ∧ i = i' := by
  rw [KeysDistinct, allSources_eq, nodup_map_flatMap_iff c.nodup_places]
  constructor
  · intro h place place' i i' s s' hs hs' hkey
    exact h place hs.mem_places place' hs'.mem_places i i' s s' hs hs' hkey
  · intro h place _ place' _ i i' s s' hs hs' hkey
    exact h hs hs' hkey

theorem firstRepeated?_eq_none_iff {seen names : List String} :
    firstRepeated? seen names = none ↔ names.Nodup ∧ ∀ name ∈ names, name ∉ seen := by
  refine ⟨nodup_of_firstRepeated?_eq_none, ?_⟩
  rintro ⟨hnodup, hseen⟩
  induction names generalizing seen with
  | nil => rfl
  | cons name rest ih =>
    obtain ⟨hname, hrest⟩ := List.nodup_cons.1 hnodup
    rw [firstRepeated?, if_neg (hseen name List.mem_cons_self)]
    refine ih hrest fun other hother hmem => ?_
    rcases List.mem_cons.1 hmem with rfl | hmem
    · exact hname hother
    · exact hseen other (List.mem_cons_of_mem _ hother) hmem

/-! ## Faults -/

theorem forall_keys_ne_nil_iff : (c.monitors.toList.find? fun (_, job) => job.keys.isEmpty) = none ↔
    ∀ {type : String} {job : MonitorJob}, c.monitors.get? type = some job → job.keys ≠ [] := by
  rw [List.find?_eq_none]
  constructor
  · intro h type job hjob hnil
    exact h (type, job) (NameMap.get?_eq_some_iff.1 hjob) (List.isEmpty_iff.2 hnil)
  · intro h e he hempty
    exact h (NameMap.get?_eq_some_iff.2 he) (List.isEmpty_iff.1 hempty)

/-- **What is looked for in a connector** is what is asked of it. -/
theorem fault?_eq_none_iff : c.fault? = none ↔ c.IsUsable := by
  rw [fault?]
  split
  · rename_i hversion
    exact iff_of_false (Option.some_ne_none _) fun h => hversion h.version
  rename_i hversion
  split
  · rename_i hblank
    exact iff_of_false (Option.some_ne_none _) fun h =>
      Bool.false_ne_true (h.id.symm.trans hblank)
  rename_i hid
  split
  · rename_i key hkey
    refine iff_of_false (Option.some_ne_none _) fun h =>
      Option.some_ne_none key (hkey.symm.trans ?_)
    exact firstRepeated?_eq_none_iff.2 ⟨keysDistinct_iff.2 h.keys, fun _ _ => List.not_mem_nil⟩
  · rename_i hkeys
    have hdistinct : c.KeysDistinct := (firstRepeated?_eq_none_iff.1 hkeys).1
    rw [Option.map_eq_none_iff, forall_keys_ne_nil_iff]
    constructor
    · intro hjobs
      exact ⟨not_not.1 hversion, Bool.not_eq_true _ ▸ hid, keysDistinct_iff.1 hdistinct, hjobs⟩
    · exact fun h => h.jobs

/-! ## Positions -/

theorem getElem?_numberSources (sources : List Source) (i : Nat) :
    (numberSources sources)[i]? = sources[i]?.map fun s => { s with position := i } :=
  List.getElem?_mapIdx

theorem sources_discoveryTask_numbered (tasks : JobTasks) :
    (SourceRun.discoveryTask tasks.numbered).sources =
      numberSources (SourceRun.discoveryTask tasks).sources := by
  cases tasks <;> rfl

theorem collectionSources_numbered (tasks : JobTasks) :
    tasks.numbered.collectionSources = numberSources tasks.collectionSources := by
  rcases tasks with ⟨discovery, _ | collect⟩ | task <;> rfl

/-- Every list is numbered on its own. -/
theorem declaredAt_numbered (c : Connector) (place : Place) :
    c.numbered.declaredAt place = numberSources (c.declaredAt place) := by
  have hget (type : String) : c.numbered.monitors.get? type =
      (c.monitors.get? type).map fun job => { job with tasks := job.tasks.numbered } :=
    NameMap.get?_mapEntries ..
  cases place with
  | pre => rfl
  | discovery type =>
    rw [declaredAt, declaredAt, hget]
    cases c.monitors.get? type with
    | none => rfl
    | some job => exact sources_discoveryTask_numbered job.tasks
  | collection type =>
    rw [declaredAt, declaredAt, hget]
    cases c.monitors.get? type with
    | none => rfl
    | some job => exact collectionSources_numbered job.tasks

theorem Declares.position_eq {place : Place} {i : Nat} {s : Source}
    (h : c.numbered.Declares place i s) : s.position = i := by
  rw [Declares, declaredAt_numbered, getElem?_numberSources] at h
  obtain ⟨s, -, rfl⟩ := Option.map_eq_some_iff.1 h
  rfl

theorem position_criterion_numbered {i : Nat} {k : Criterion}
    (h : c.numbered.detection.criteria[i]? = some k) : k.position = i := by
  obtain ⟨k, -, rfl⟩ := Option.map_eq_some_iff.1 (List.getElem?_mapIdx.symm.trans h)
  rfl

/-! ## Documents -/

theorem decode_eq_ok_iff {document : String} :
    decode document = .ok c ↔
      ∃ read : Connector, read.IsReadFrom document ∧ read.IsUsable ∧ c = read.numbered := by
  rw [decode]
  constructor
  · intro h
    split at h
    · cases h
    · rename_i read hread
      split at h
      · cases h
      · rename_i hfault
        cases h
        exact ⟨read, Option.bind_eq_some_iff.1 hread, fault?_eq_none_iff.1 hfault, rfl⟩
  · rintro ⟨read, hread, husable, rfl⟩
    simp only [Option.bind_eq_some_iff.2 hread, fault?_eq_none_iff.2 husable]

/-- **Which documents are read.** A text is read exactly if it has the form of a connector that can
be used: its format version is 1, its id is not blank, no two sources in the lists before all jobs, of
the discoveries, of the collections and of the simple jobs have one key, and every job has keys. Then
the positions of the criteria and of the sources are those in their lists, and nothing else is changed.
-/
theorem decodes_iff (document : String) :
    ((∃ c, decode document = .ok c) ↔ ∃ c : Connector, c.IsReadFrom document ∧ c.IsUsable) ∧
      ∀ c, decode document = .ok c →
        (∀ (i : Nat) (k : Criterion), c.detection.criteria[i]? = some k → k.position = i) ∧
        (∀ place i s, c.Declares place i s → s.position = i) ∧
        ∃ read : Connector, read.IsReadFrom document ∧ c.toJson = read.toJson := by
  refine ⟨⟨fun ⟨c, hc⟩ => ?_, fun ⟨c, hread, husable⟩ => ?_⟩, fun c hc => ?_⟩
  · obtain ⟨read, hread, husable, -⟩ := decode_eq_ok_iff.1 hc
    exact ⟨read, hread, husable⟩
  · exact ⟨c.numbered, decode_eq_ok_iff.2 ⟨c, hread, husable, rfl⟩⟩
  · obtain ⟨read, hread, -, rfl⟩ := decode_eq_ok_iff.1 hc
    exact ⟨fun i k => position_criterion_numbered, fun place i s hs => hs.position_eq, read, hread,
      toJson_numbered read⟩

end Connector

namespace Shelf

/-- The fans of a shelf come second before all jobs, and what is asked for them comes first in the
collection. -/
theorem positions_in_document :
    Connector.decode document.print = .ok connector ∧
      (∃ s, connector.Declares .pre 1 s ∧ s.key = "fans" ∧ s.position = 1) ∧
      ∃ s, connector.Declares (.collection "fan") 0 s ∧ s.key = "state" ∧ s.position = 0 := by
  have hpositions := ((Connector.decodes_iff document.print).2 connector decode_document).2.1
  exact ⟨decode_document, ⟨_, rfl, rfl, hpositions .pre 1 _ rfl⟩,
    ⟨_, rfl, rfl, hpositions (.collection "fan") 0 _ rfl⟩⟩

end Shelf

end HardwareWatch
