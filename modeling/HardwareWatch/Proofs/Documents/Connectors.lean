import HardwareWatch.Connector.Validity
import HardwareWatch.Proofs.Documents.Criteria
import HardwareWatch.Proofs.Documents.Sources
import HardwareWatch.Proofs.Json.Scanning

/-!
# Connectors are read back

The document of a usable connector is the document of a usable connector, and of the same one. The
positions of criteria and sources are not written: reading the document counts them again.

* `Connector.AsRead` says what holds of every connector that was read and not numbered yet.
* `Connector.decode_print_toJson` is the main statement.
-/

namespace HardwareWatch

open Json FieldReader

variable {P : Nat → Prop} {room : Nat}

/-! ## Mappings -/

namespace Mapping

theorem ofJson?_toJson (m : Mapping) : ofJson? m.toJson = some m :=
  have texts (m : NameMap String) : Json.texts? (ofMap .text m) = some m :=
    map?_ofMap fun _ _ => rfl
  Takes.record? <| .bind (takes_required rfl rfl) <|
    .bind (takes_withDefault rfl (texts m.attributes)) <|
      .bind (takes_withDefault rfl (texts m.metrics)) <|
        .bind (takes_withDefault rfl (texts m.legacyTextParameters)) takes_pure

theorem plain_toJson (m : Mapping) : Plain P (room + 2) m.toJson :=
  have texts (m : NameMap String) : Plain P (room + 1) (ofMap .text m) :=
    plain_ofMap fun _ _ => trivial
  plain_object (by simp [Plain, texts])

end Mapping

/-! ## Tasks -/

/-- The source is the first of its job as far as its document says, and its numbers fit in 64-bit
words. -/
structure Source.AsRead (s : Source) : Prop where
  position : s.position = 0
  inWords : s.InWords

theorem Source.AsRead.ofJson?_toJson {s : Source} (h : s.AsRead) (standing : Standing) :
    Source.ofJson? standing s.toJson = some s := by
  have hsame : { s with position := 0 } = s := by rw [← h.position]
  rw [Source.ofJson?_toJson standing h.inWords, hsame]

theorem Source.asRead_of_ofJson? {standing : Standing} {v : Json} {s : Source}
    (h : Source.ofJson? standing v = some s) : s.AsRead :=
  have ⟨hposition, hwords⟩ := inWords_of_ofJson? h
  ⟨hposition, hwords⟩

theorem list?_sources {l : List Source} (h : ∀ s ∈ l, s.AsRead) (standing : Standing) :
    list? (Source.ofJson? standing) (.array (l.map Source.toJson)) = some l :=
  list?_map fun s hs => (h s hs).ofJson?_toJson standing

theorem plain_sources {l : List Source} (h : ∀ s ∈ l, s.AsRead) :
    Plain (· < word64) (room + 5) (.array (l.map Source.toJson)) :=
  plain_map fun s hs => Source.plain_toJson (h s hs).inWords

namespace Task

/-- All sources of the task are as they are read. -/
def AsRead (t : Task) : Prop := ∀ s ∈ t.sources, s.AsRead

theorem takes_content {t : Task} (h : t.AsRead) (standing : Standing) :
    Takes t.content (fields standing) t :=
  .bind (takes_withDefault rfl (list?_sources h standing)) <|
    .bind (takes_withDefault rfl
      (nullable?_ofOption (fun _ => nofun) fun m _ => m.ofJson?_toJson)) takes_pure

theorem plain_content {t : Task} (h : t.AsRead) :
    ∀ f ∈ t.content, Plain (· < word64) (room + 5) f.2 := by
  have hmapping : Plain (· < word64) (room + 5) (ofOption Mapping.toJson t.mapping) :=
    plain_ofOption fun m _ => m.plain_toJson
  simp [content, plain_sources h, hmapping]

theorem yields_fields (standing : Standing) : Yields AsRead (fields standing) := by
  have hsources : Yields (fun sources : List Source => ∀ s ∈ sources, s.AsRead)
      (withDefault "sources" [] (list? (Source.ofJson? standing))) :=
    yields_withDefault (List.forall_mem_nil _) fun _ _ =>
      forall_of_list? fun _ _ => Source.asRead_of_ofJson?
  exact hsources.bind fun _ h => yields_step fun _ => yields_pure h

theorem ofJson?_toJson {t : Task} (h : t.AsRead) : ofJson? t.toJson = some t :=
  (takes_content h .heldBack).record?

theorem plain_toJson {t : Task} (h : t.AsRead) : Plain (· < word64) (room + 6) t.toJson :=
  plain_object (plain_content h)

theorem asRead_of_ofJson? {v : Json} {t : Task} (h : ofJson? v = some t) : t.AsRead :=
  (yields_fields .heldBack).of_record? h

end Task

namespace CollectTask

theorem ofJson?_toJson {c : CollectTask} (h : c.task.AsRead) : ofJson? c.toJson = some c := by
  have hword : word? CollectMode.words false (.text c.mode.word) = some c.mode := by
    cases c.mode <;> rfl
  have hmode : Takes (("type", .text c.mode.word) :: c.task.content)
      (withDefault "type" .multiInstance (word? CollectMode.words false)) c.mode :=
    takes_withDefault rfl hword
  have hheld : heldBack? ["type"] (("type", .text c.mode.word) :: c.task.content) =
      some c.task.content :=
    heldBack?_append [("type", .text c.mode.word)] (by simp) (by simp)
      (areFieldsReadable_of_plain 5 (Task.plain_content h))
  rw [toJson, ofJson?, object?]
  simp [hmode.read?, hheld, (Task.takes_content h .heldTwice).read?]

theorem plain_toJson {c : CollectTask} (h : c.task.AsRead) :
    Plain (· < word64) (room + 6) c.toJson := by
  refine plain_object fun f hf => ?_
  rcases List.mem_cons.1 hf with rfl | hf
  · trivial
  · exact Task.plain_content h f hf

theorem asRead_of_ofJson? {v : Json} {c : CollectTask} (h : ofJson? v = some c) :
    c.task.AsRead := by
  cases v with
  | object fields =>
    obtain ⟨mode, -, h⟩ := Option.bind_eq_some_iff.1 h
    obtain ⟨rest, -, h⟩ := Option.bind_eq_some_iff.1 h
    obtain ⟨task, htask, rfl⟩ := Option.map_eq_some_iff.1 h
    exact (Task.yields_fields .heldTwice).of_read? htask
  | _ => cases h

end CollectTask

/-! ## Jobs -/

/-- All sources of the tasks are as they are read. -/
def JobTasks.AsRead : JobTasks → Prop
  | standard discovery collect => discovery.AsRead ∧ ∀ c ∈ collect, c.task.AsRead
  | simple task => task.AsRead

namespace MonitorJob

/-- The tasks of a job as they are written. -/
def tasksContent : JobTasks → List (String × Json)
  | .standard discovery collect =>
    [("discovery", discovery.toJson), ("collect", ofOption CollectTask.toJson collect)]
  | .simple task => [("simple", task.toJson)]

theorem toJson_eq (j : MonitorJob) :
    j.toJson = .object (("keys", ofTexts j.keys) :: tasksContent j.tasks) := by
  obtain ⟨keys, tasks⟩ := j
  cases tasks <;> rfl

/-- Tasks are read in the first form that fits, which is the one they were written in. -/
theorem read?_tasksContent {tasks : JobTasks} (h : tasks.AsRead) :
    (Record.read? standardFields (.named (tasksContent tasks))).or
      (Record.read? simpleFields (.named (tasksContent tasks))) = some tasks := by
  cases tasks with
  | standard discovery collect =>
    have hcollect : nullable? CollectTask.ofJson? (ofOption CollectTask.toJson collect) =
        some collect :=
      nullable?_ofOption (fun _ => nofun) fun c hc => CollectTask.ofJson?_toJson (h.2 c hc)
    have hfields : Takes (tasksContent (.standard discovery collect)) standardFields
        (.standard discovery collect) :=
      .bind (takes_required rfl (Task.ofJson?_toJson h.1)) <|
        .bind (takes_withDefault rfl hcollect) takes_pure
    rw [hfields.read?]
    rfl
  | simple task =>
    have hnone : Record.read? standardFields (.named (tasksContent (.simple task))) = none := rfl
    have hfields : Takes (tasksContent (.simple task)) simpleFields (.simple task) :=
      .bind (takes_required rfl (Task.ofJson?_toJson h)) takes_pure
    rw [hnone, hfields.read?]
    rfl

theorem plain_tasksContent {tasks : JobTasks} (h : tasks.AsRead) :
    ∀ f ∈ tasksContent tasks, Plain (· < word64) (room + 6) f.2 := by
  cases tasks with
  | standard discovery collect =>
    have hcollect : Plain (· < word64) (room + 6) (ofOption CollectTask.toJson collect) :=
      plain_ofOption fun c hc => CollectTask.plain_toJson (h.2 c hc)
    simp [tasksContent, Task.plain_toJson h.1, hcollect]
  | simple task => simp [tasksContent, Task.plain_toJson (t := task) h]

theorem ofJson?_toJson {j : MonitorJob} (h : j.tasks.AsRead) : ofJson? j.toJson = some j := by
  have hkeys : Takes (("keys", ofTexts j.keys) :: tasksContent j.tasks)
      (withDefault "keys" standardKeys (list? text?)) j.keys := by
    refine takes_withDefault ?_ (list?_ofTexts j.keys)
    cases j.tasks <;> rfl
  have hheld : heldBack? ["keys"] (("keys", ofTexts j.keys) :: tasksContent j.tasks) =
      some (tasksContent j.tasks) := by
    refine heldBack?_append [("keys", ofTexts j.keys)] (by simp) ?_
      (areFieldsReadable_of_plain 6 (plain_tasksContent h))
    cases j.tasks <;> simp
  rw [toJson_eq, ofJson?, object?]
  simp [hkeys.read?, hheld, read?_tasksContent h]

theorem plain_toJson {j : MonitorJob} (h : j.tasks.AsRead) :
    Plain (· < word64) (room + 7) j.toJson := by
  rw [toJson_eq]
  refine plain_object fun f hf => ?_
  rcases List.mem_cons.1 hf with rfl | hf
  · exact plain_ofTexts j.keys
  · exact plain_tasksContent h f hf

theorem yields_standardFields : Yields JobTasks.AsRead standardFields := by
  have hcollect : Yields (fun collect : Option CollectTask => ∀ c ∈ collect, c.task.AsRead)
      (withDefault "collect" none (nullable? CollectTask.ofJson?)) :=
    yields_withDefault nofun fun _ _ =>
      forall_of_nullable? fun _ _ => CollectTask.asRead_of_ofJson?
  exact .bind (yields_required fun _ _ => Task.asRead_of_ofJson?) fun _ hdiscovery =>
    hcollect.bind fun _ hcollect => yields_pure ⟨hdiscovery, hcollect⟩

theorem yields_simpleFields : Yields JobTasks.AsRead simpleFields :=
  .bind (yields_required fun _ _ => Task.asRead_of_ofJson?) fun _ h => yields_pure h

theorem asRead_of_ofJson? {v : Json} {j : MonitorJob} (h : ofJson? v = some j) :
    j.tasks.AsRead := by
  cases v with
  | object fields =>
    obtain ⟨keys, -, h⟩ := Option.bind_eq_some_iff.1 h
    obtain ⟨rest, -, h⟩ := Option.bind_eq_some_iff.1 h
    obtain ⟨tasks, htasks, h⟩ := Option.bind_eq_some_iff.1 h
    cases h
    cases hstandard : Record.read? standardFields (.named rest) with
    | some found =>
      rw [hstandard] at htasks
      cases htasks
      exact yields_standardFields.of_read? hstandard
    | none =>
      rw [hstandard] at htasks
      exact yields_simpleFields.of_read? htasks
  | _ => cases h

end MonitorJob

/-! ## Metrics and detection -/

namespace MetricDefinition

theorem type_ofJson?_toJson (t : MetricType) : MetricType.ofJson? t.toJson = some t := by
  cases t with
  | gauge | counter => rfl
  | stateSet states =>
    have hstates : list? text? (ofTexts states) = some states := list?_ofTexts states
    exact congrArg (Option.map MetricType.stateSet) hstates

theorem ofJson?_toJson (d : MetricDefinition) : ofJson? d.toJson = some d :=
  Takes.record? <| .bind (takes_withDefault rfl (nullable?_ofText? d.unit)) <|
    .bind (takes_withDefault rfl (nullable?_ofText? d.description)) <|
      .bind (takes_withDefault rfl (type_ofJson?_toJson d.type)) takes_pure

theorem plain_toJson (d : MetricDefinition) : Plain P (room + 3) d.toJson := by
  have htype : Plain P (room + 2) d.type.toJson := by
    cases d.type with
    | gauge | counter => trivial
    | stateSet states => exact plain_object (by simp [plain_ofTexts])
  exact plain_object (by simp [plain_ofText?, htype])

end MetricDefinition

/-- The criterion is the first of its connector as far as its document says, and its numbers fit in
64-bit words. -/
structure Criterion.AsRead (c : Criterion) : Prop where
  position : c.position = 0
  inWords : c.InWords

theorem Criterion.AsRead.ofJson?_toJson {c : Criterion} (h : c.AsRead) :
    Criterion.ofJson? c.toJson = some c := by
  have hsame : { c with position := 0 } = c := by rw [← h.position]
  rw [Criterion.ofJson?_toJson h.inWords, hsame]

theorem Criterion.asRead_of_ofJson? {v : Json} {c : Criterion} (h : Criterion.ofJson? v = some c) :
    c.AsRead :=
  have ⟨hposition, hwords⟩ := inWords_of_ofJson? h
  ⟨hposition, hwords⟩

namespace Detection

/-- All criteria are as they are read. -/
def AsRead (d : Detection) : Prop := ∀ c ∈ d.criteria, c.AsRead

theorem ofJson?_toJson {d : Detection} (h : d.AsRead) : ofJson? d.toJson = some d := by
  have hkinds : list? (DeviceKind.ofJson? false) (.array (d.appliesTo.map DeviceKind.toJson)) =
      some d.appliesTo :=
    list?_map fun kind _ => kind.ofJson?_toJson false
  have hcriteria : list? Criterion.ofJson? (.array (d.criteria.map Criterion.toJson)) =
      some d.criteria :=
    list?_map fun c hc => (h c hc).ofJson?_toJson
  exact Takes.record? <| .bind (takes_withDefault rfl hkinds) <|
    .bind (takes_withDefault rfl rfl) <|
      .bind (takes_withDefault rfl (list?_ofTexts d.supersedes)) <|
        .bind (takes_withDefault rfl hcriteria) takes_pure

theorem plain_toJson {d : Detection} (h : d.AsRead) : Plain (· < word64) (room + 4) d.toJson := by
  have hcriteria : Plain (· < word64) (room + 3) (.array (d.criteria.map Criterion.toJson)) :=
    plain_map fun c hc => Criterion.plain_toJson (h c hc).inWords
  have hkinds : Plain (· < word64) (room + 3) (.array (d.appliesTo.map DeviceKind.toJson)) :=
    CriterionKind.plain_kinds d.appliesTo
  refine plain_object fun f hf => ?_
  simp only [List.mem_cons, List.not_mem_nil, or_false] at hf
  rcases hf with rfl | rfl | rfl | rfl
  · exact hkinds
  · trivial
  · exact plain_ofTexts d.supersedes
  · exact hcriteria

theorem asRead_of_ofJson? {v : Json} {d : Detection} (h : ofJson? v = some d) : d.AsRead := by
  have hcriteria : Yields (fun criteria : List Criterion => ∀ c ∈ criteria, c.AsRead)
      (withDefault "criteria" [] (list? Criterion.ofJson?)) :=
    yields_withDefault (List.forall_mem_nil _) fun _ _ =>
      forall_of_list? fun _ _ => Criterion.asRead_of_ofJson?
  refine Yields.of_record? ?_ h
  exact yields_step fun _ => yields_step fun _ => yields_step fun _ =>
    hcriteria.bind fun _ h => yields_pure h

end Detection

/-! ## Connectors -/

namespace Connector

/-- What holds of every connector that was read and not numbered yet. -/
structure AsRead (c : Connector) : Prop where
  formatVersion : c.formatVersion < word32
  detection : c.detection.AsRead
  pre : ∀ s ∈ c.pre, s.AsRead
  monitors : ∀ e ∈ c.monitors.toList, e.2.tasks.AsRead

theorem ofJson?_toJson {c : Connector} (h : c.AsRead) : ofJson? c.toJson = some c := by
  have htranslations : map? Json.texts? (ofMap (ofMap .text) c.translations) =
      some c.translations :=
    map?_ofMap fun _ _ => map?_ofMap fun _ _ => rfl
  have hmetrics : map? MetricDefinition.ofJson? (ofMap MetricDefinition.toJson c.metrics) =
      some c.metrics :=
    map?_ofMap fun e _ => e.2.ofJson?_toJson
  have hmonitors : map? MonitorJob.ofJson? (ofMap MonitorJob.toJson c.monitors) =
      some c.monitors :=
    map?_ofMap fun e he => MonitorJob.ofJson?_toJson (h.monitors e he)
  exact Takes.record? <| .bind (takes_required rfl (nat?_ofNat h.formatVersion)) <|
    .bind (takes_required rfl rfl) <|
      .bind (takes_withDefault rfl (nullable?_ofText? c.displayName)) <|
        .bind (takes_withDefault rfl (nullable?_ofText? c.version)) <|
          .bind (takes_withDefault rfl (list?_ofTexts c.tags)) <|
            .bind (takes_withDefault rfl (Detection.ofJson?_toJson h.detection)) <|
              .bind (takes_withDefault rfl htranslations) <|
                .bind (takes_withDefault rfl hmetrics) <|
                  .bind (takes_withDefault rfl (list?_sources h.pre .inText)) <|
                    .bind (takes_withDefault rfl hmonitors) takes_pure

theorem plain_toJson {c : Connector} (h : c.AsRead) : Plain (· < word64) (room + 9) c.toJson := by
  have hversion : c.formatVersion < word64 := Nat.lt_trans h.formatVersion (by decide)
  refine plain_object fun f hf => ?_
  simp only [List.mem_cons, List.not_mem_nil, or_false] at hf
  rcases hf with rfl | rfl | rfl | rfl | rfl | rfl | rfl | rfl | rfl | rfl
  · exact plain_ofNat hversion
  · trivial
  · exact plain_ofText? c.displayName
  · exact plain_ofText? c.version
  · exact plain_ofTexts c.tags
  · exact Detection.plain_toJson h.detection
  · exact plain_ofMap fun _ _ => plain_ofMap fun _ _ => trivial
  · exact plain_ofMap fun e _ => e.2.plain_toJson
  · exact plain_sources h.pre
  · exact plain_ofMap fun e he => MonitorJob.plain_toJson (h.monitors e he)

theorem asRead_of_ofJson? {v : Json} {c : Connector} (h : ofJson? v = some c) : c.AsRead := by
  have hdetection : Yields Detection.AsRead
      (withDefault "detection" .unspecified Detection.ofJson?) :=
    yields_withDefault (List.forall_mem_nil _) fun _ _ => Detection.asRead_of_ofJson?
  have hpre : Yields (fun pre : List Source => ∀ s ∈ pre, s.AsRead)
      (withDefault "pre" [] (list? (Source.ofJson? .inText))) :=
    yields_withDefault (List.forall_mem_nil _) fun _ _ =>
      forall_of_list? fun _ _ => Source.asRead_of_ofJson?
  have hmonitors : Yields (fun monitors : NameMap MonitorJob =>
      ∀ e ∈ monitors.toList, e.2.tasks.AsRead)
      (withDefault "monitors" .empty (map? MonitorJob.ofJson?)) :=
    yields_withDefault (List.forall_mem_nil _) fun _ _ =>
      forall_of_map? fun _ _ => MonitorJob.asRead_of_ofJson?
  refine Yields.of_record? ?_ h
  exact .bind (yields_required fun _ _ => lt_of_nat?) fun _ hversion => yields_step fun _ =>
    yields_step fun _ => yields_step fun _ => yields_step fun _ =>
      hdetection.bind fun _ hdetection => yields_step fun _ => yields_step fun _ =>
        hpre.bind fun _ hpre => hmonitors.bind fun _ hmonitors =>
          yields_pure ⟨hversion, hdetection, hpre, hmonitors⟩

/-! ## Positions are not written -/

theorem map_mapIdx_of_eq {α β : Type} {number : Nat → α → α} {write : α → β}
    (h : ∀ i a, write (number i a) = write a) (l : List α) :
    (l.mapIdx number).map write = l.map write := by
  refine List.ext_getElem (by simp) fun i hi hi' => ?_
  simp [h]

theorem map_toJson_numberSources (sources : List Source) :
    (numberSources sources).map Source.toJson = sources.map Source.toJson :=
  map_mapIdx_of_eq (fun _ _ => by rfl) sources

theorem tasksContent_numbered (tasks : JobTasks) :
    MonitorJob.tasksContent tasks.numbered = MonitorJob.tasksContent tasks := by
  have written (t : Task) :
      Task.toJson { t with sources := numberSources t.sources } = t.toJson := by
    simp only [Task.toJson, Task.content, map_toJson_numberSources]
  cases tasks with
  | standard discovery collect =>
    cases collect with
    | none => simp only [JobTasks.numbered, MonitorJob.tasksContent, written, Option.map_none]
    | some c =>
      simp only [JobTasks.numbered, MonitorJob.tasksContent, written, Option.map_some, ofOption,
        CollectTask.toJson, Task.content, map_toJson_numberSources]
  | simple task => simp only [JobTasks.numbered, MonitorJob.tasksContent, written]

theorem toJson_numbered (c : Connector) : c.numbered.toJson = c.toJson := by
  have hcriteria : (c.detection.criteria.mapIdx fun i k => { k with position := i }).map
      Criterion.toJson = c.detection.criteria.map Criterion.toJson :=
    map_mapIdx_of_eq (fun _ _ => by rfl) c.detection.criteria
  have hmonitors : ofMap MonitorJob.toJson c.numbered.monitors =
      ofMap MonitorJob.toJson c.monitors := by
    simp only [ofMap, numbered, NameMap.mapEntries, List.map_map]
    refine congrArg Json.object (List.map_congr_left fun e _ => ?_)
    simp only [Function.comp, MonitorJob.toJson_eq, tasksContent_numbered]
  rw [toJson, hmonitors]
  simp only [numbered, toJson, Detection.toJson, hcriteria, map_toJson_numberSources]

/-- A usable connector is read back from its document, all positions included. -/
theorem decode_print_toJson {document : String} {c : Connector} (h : decode document = .ok c) :
    decode c.toJson.print = .ok c := by
  unfold decode at h
  split at h
  · cases h
  · rename_i read hread
    split at h
    · cases h
    · rename_i hfault
      cases h
      obtain ⟨v, -, hv⟩ := Option.bind_eq_some_iff.1 hread
      have hplain : Plain (· < word64) depthLimit read.toJson :=
        plain_toJson (asRead_of_ofJson? hv)
      rw [toJson_numbered, decode, read?_print hplain, Option.bind_some,
        ofJson?_toJson (asRead_of_ofJson? hv)]
      simp only [hfault]

end Connector

/-! ## A connector whose document is not the one it was read from -/

namespace Shelf

/-- The fans of a shelf. Operators and sources have their second names, fields stand in another
order than they are written in, and most are left out. -/
def document : Json :=
  .object [("formatVersion", ofNat 1), ("id", .text "Shelf"),
    ("detection", .object [("criteria", .array [
      .object [("type", .text "process"), ("commandLine", .text "shelfd")],
      .object [("type", .text "commandLine"), ("timeout", ofNat 30),
        ("commandLine", .text "shelf \"-v\"")]])]),
    ("translations", .object [("states", .object [("1", .text "ok"), ("0", .text "failed")])]),
    ("pre", .array [
      .object [("type", .text "static"), ("key", .text "names"), ("value", .text "a\nb")],
      .object [("key", .text "fans"), ("type", .text "reference"),
        ("from", .text "$\x7bsource::names\x7d"), ("computes", .array [
          .object [("column", ofNat 1), ("type", .text "substract"), ("value", .text "1")]])]]),
    ("monitors", .object [("fan", .object [
      ("discovery", .object []),
      ("collect", .object [("type", .text "monoInstance"), ("sources", .array [
        .object [("key", .text "state"), ("type", .text "snmpGet"), ("oid", .text "1.3.$1"),
          ("executeForEachEntryOf", .object [("source", .text "$\x7bsource::fans\x7d"),
            ("concatMethod", .object [("custom", .object [("concatEnd", .text ";"),
              ("concatStart", .text "")])])])]])])])])]

/-- The connector in the document. -/
def connector : Connector :=
  { formatVersion := 1
    id := "Shelf"
    displayName := none
    version := none
    tags := []
    detection :=
      { Detection.unspecified with
        criteria := [⟨0, false, .process "shelfd"⟩,
          ⟨1, false, .commandLine ⟨"shelf \"-v\"", false, none, none, some 30⟩⟩] }
    translations := .ofList [("states", .ofList [("0", "failed"), ("1", "ok")])]
    metrics := .empty
    pre := [⟨"names", 0, false, [], none, .static "a\nb"⟩,
      ⟨"fans", 1, false, [.arithmetic .subtract 1 "1"], none, .copy "$\x7bsource::names\x7d"⟩]
    monitors := .ofList [("fan", ⟨["id"], .standard ⟨[], none⟩ (some ⟨.monoInstance,
      ⟨[⟨"state", 0, false, [], some ⟨"$\x7bsource::fans\x7d", .custom "" ";"⟩,
        .snmpGet "1.3.$1"⟩], none⟩⟩)⟩)] }

theorem plain_document : Plain (· < word64) depthLimit document := by
  have small {n room : Nat} (h : n < 100) : Plain (· < word64) room (ofNat n) :=
    plain_ofNat (Nat.lt_trans h (by decide))
  simp [document, Plain, PlainFields, PlainItems, depthLimit, small]

theorem decode_document : Connector.decode document.print = .ok connector := by
  have hread : (Connector.ofJson? document).map Connector.numbered = some connector := by
    decide +kernel
  have hfault : (Connector.ofJson? document).bind Connector.fault? = none := by decide +kernel
  rw [Connector.decode, read?_print plain_document, Option.bind_some]
  obtain ⟨read, he, hnumbered⟩ := Option.map_eq_some_iff.1 hread
  rw [he, Option.bind_some] at hfault
  simp only [he, hfault, hnumbered]

theorem decode_print_toJson_connector :
    Connector.decode document.print = .ok connector ∧
      Connector.decode connector.toJson.print = .ok connector :=
  ⟨decode_document, Connector.decode_print_toJson decode_document⟩

end Shelf

end HardwareWatch
