import HardwareWatch.Proofs.Activity.Agreement
import HardwareWatch.Proofs.Sources.Course
import Mathlib.Data.List.Find

/-!
# Sources in either mode

A host can want its monitor jobs to run one after the other. This is for the jobs only: a source has
the same outcome in either mode, if the extensions ignore the mode and answer by the source alone.

* `Visit.inMode` and `SourceRun.inMode` choose a mode, `Registry.IgnoresMode` says that the mode
  makes no difference to which extensions support a host.
* `Surroundings.replying` are the surroundings where the answer depends on the source that is asked
  for, nothing is late and nothing is cancelled.
* `SourceRun.sameResult_runSources` and `SourceRun.sameResult_runSourcesBefore` say that the
  outcomes are the same.
-/

namespace HardwareWatch

open Activity

/-! ## Modes -/

/-- The settings with the jobs one after the other, or not. -/
def HostSettings.inMode (host : HostSettings) (sequential : Bool) : HostSettings :=
  { host with sequential }

/-- The visit with the jobs one after the other, or not. -/
def Visit.inMode (v : Visit) (sequential : Bool) : Visit :=
  { v with host := v.host.inMode sequential }

/-- The same for what a connector is run with. -/
def SourceRun.inMode (x : SourceRun) (sequential : Bool) : SourceRun :=
  { x with visit := x.visit.inMode sequential }

/-- Extensions support a host in one mode if they do in the other. -/
def Registry.IgnoresMode (registry : Registry) (host : HostSettings) : Prop :=
  ∀ e ∈ registry.extensions, ∀ sequential, e.supports (host.inMode sequential) = e.supports host

theorem Registry.IgnoresMode.forSource?_eq {registry : Registry} {host : HostSettings}
    (h : registry.IgnoresMode host) (type : SourceType) (sequential : Bool) :
    registry.forSource? type (host.inMode sequential) = registry.forSource? type host := by
  rw [forSource?, forSource?]
  refine List.find?_congr fun e he => ?_
  rw [h e he]

/-! ## Answers -/

/-- The answer is the one that an extension gives for the source, if a source is asked for. -/
def Request.AnsweredBy (reply : String → Source → Except EngineError Table) :
    (r : Request) → Except EngineError r.Answer → Prop
  | ⟨extension, _, _, .source s⟩, answer => answer = reply extension s
  | _, _ => True

/-- The answers depend on the extension and on the source that is asked for, nothing is late and
nothing is cancelled. -/
def Surroundings.replying (reply : String → Source → Except EngineError Table) : Surroundings :=
  ⟨Request.AnsweredBy reply, False, False⟩

variable {reply : String → Source → Except EngineError Table}

theorem Visit.sameResult_probe (v : Visit) (sequential : Bool) (what : String) (inTurn : Bool)
    (e : Extension) (limitSecs : Nat) (s : Source) :
    SameResult (.replying reply) (v.probe what inTurn (v.request e limitSecs (.source s)))
      ((v.inMode sequential).probe what inTurn
        ((v.inMode sequential).request e limitSecs (.source s))) := by
  have hask (host : HostSettings) {cs : Multiset Change} {answer : Except EngineError Table}
      (h : Runs (.replying reply) (.ask ⟨e.id, host, limitSecs, .source s⟩) cs (some answer)) :
      answer = reply e.id s := by
    cases h with
    | call answer ha h =>
      cases h with
      | done => exact ha
  have hasked : SameResult (.replying reply) (.ask (v.request e limitSecs (.source s)))
      (.ask ((v.inMode sequential).request e limitSecs (.source s))) :=
    fun _ _ _ _ h h' => (hask _ h).trans (hask _ h').symm
  have htimed : SameResult (.replying reply) (v.timedProbe what (v.request e limitSecs (.source s)))
      ((v.inMode sequential).timedProbe what
        ((v.inMode sequential).request e limitSecs (.source s))) :=
    (SameResult.limited id hasked).bind fun _ => .pure _
  have hordered : SameResult (.replying reply)
      (v.orderedProbe what inTurn (v.request e limitSecs (.source s)))
      ((v.inMode sequential).orderedProbe what inTurn
        ((v.inMode sequential).request e limitSecs (.source s))) := by
    cases inTurn with
    | false => exact htimed
    | true => exact (SameResult.serialized id htimed).bind fun _ => .pure _
  exact (SameResult.guarded id hordered).bind fun _ => .pure _

/-! ## Sources -/

namespace SourceRun

variable {x : SourceRun} (hx : x.visit.registry.IgnoresMode x.visit.host) (sequential : Bool)

include hx

theorem sameResult_fetch (s : Source) (tables : Namespace) :
    SameResult (.replying reply) (x.fetch s tables) ((x.inMode sequential).fetch s tables) := by
  rw [fetch, fetch]
  split
  · exact .pure _
  · have hsource : (x.inMode sequential).visit.registry.forSource? s.type
        (x.inMode sequential).visit.host = x.visit.registry.forSource? s.type x.visit.host :=
      hx.forSource?_eq s.type sequential
    rw [hsource]
    cases x.visit.registry.forSource? s.type x.visit.host with
    | none => exact .pure _
    | some e => exact x.visit.sameResult_probe sequential _ _ e _ s

theorem sameResult_fetchRows (s : Source) (tables : Namespace) (rows : List Row) :
    SameResult (.replying reply) (x.fetchRows s tables rows)
      ((x.inMode sequential).fetchRows s tables rows) := by
  induction rows with
  | nil => exact .pure _
  | cons row rest ih =>
    rw [fetchRows, fetchRows]
    split
    · exact .pure _
    · refine (sameResult_fetch hx sequential _ tables).bind fun answer => ?_
      split
      · exact ih.bind fun _ => .pure _
      · split
        · exact .pure _
        · exact ih.bind fun _ => .pure _

theorem sameResult_executeFilled (s : Source) (tables : Namespace) :
    SameResult (.replying reply) (x.executeFilled s tables)
      ((x.inMode sequential).executeFilled s tables) := by
  rw [executeFilled, executeFilled]
  split
  · exact (sameResult_fetch hx sequential s tables).bind fun _ => .pure _
  · split
    · exact .pure _
    · exact (sameResult_fetchRows hx sequential s tables _).bind fun _ => .pure _

theorem sameResult_execute (s : Source) (tables : Namespace)
    (attributes : Option (NameMap String)) :
    SameResult (.replying reply) (x.execute s tables attributes)
      ((x.inMode sequential).execute s tables attributes) := by
  cases attributes with
  | none => exact sameResult_executeFilled hx sequential s tables
  | some attributes =>
    unfold execute
    dsimp only
    split
    · exact .pure _
    · exact sameResult_executeFilled hx sequential _ tables

theorem sameResult_obtain (tables : Namespace) (attributes : Option (NameMap String)) (s : Source) :
    SameResult (.replying reply) (x.obtain tables attributes s)
      ((x.inMode sequential).obtain tables attributes s) := by
  refine (sameResult_execute hx sequential s tables attributes).bind fun first =>
    (SameResult.cancelled id).bind fun _ => ?_
  change SameResult _ _ (if (first.toOption.all Table.isEmpty && x.hadData s && !_) = true then _
    else _)
  split
  · exact (SameResult.unit _ _).bind fun _ =>
      (sameResult_execute hx sequential s tables attributes).bind fun _ => .pure _
  · exact .pure _

theorem sameResult_runWave (attributes : Option (NameMap String)) (sources : List Source)
    (h : Harvest) (wave : List Source) :
    SameResult (.replying reply) (x.runWave attributes sources h wave)
      ((x.inMode sequential).runWave attributes sources h wave) := by
  refine (SameResult.cancelled id).bind fun _ => ?_
  split
  · exact .pure _
  · exact (SameResult.all fun s => sameResult_obtain hx sequential h.tables attributes s).bind
      fun _ => .pure _

theorem sameResult_runSources (attributes : Option (NameMap String)) (sources : List Source)
    (tables : Namespace) :
    SameResult (.replying reply) (x.runSources attributes sources tables)
      ((x.inMode sequential).runSources attributes sources tables) :=
  SameResult.foldlM (fun h wave => sameResult_runWave hx sequential attributes sources h wave) _

theorem sameResult_runSourcesBefore (deadline deadline' : Nat) (sources : List Source)
    (tables : Namespace) :
    SameResult (.replying reply) (x.runSourcesBefore deadline sources tables)
      ((x.inMode sequential).runSourcesBefore deadline' sources tables) :=
  SameResult.foldBefore id (fun h wave => sameResult_runWave hx sequential none sources h wave) _

end SourceRun

end HardwareWatch
