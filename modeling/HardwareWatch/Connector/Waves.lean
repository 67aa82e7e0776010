import HardwareWatch.Connector.SourceDocument
import HardwareWatch.NameMap

/-!
# Waves of sources

Sources that do not read each other can run at the same time. A source belongs to the wave after the
latest one with a source it refers to; only sources declared before it count.

* `levels` gives every source the number of its wave.
* `dependencyWaves` lists the waves.
-/

namespace HardwareWatch

/-- The number of the wave of a source, given those of the sources before it by key. -/
def levelOf (known : NameMap Nat) (s : Source) : Nat :=
  (s.references.filterMap known.get?).foldl (fun n level => max n (level + 1)) 0

/-- The numbers of the waves of sources, given those of the sources before them. -/
def levels (known : NameMap Nat) : List Source → List (Nat × Source)
  | [] => []
  | s :: rest =>
    let level := levelOf known s
    (level, s) :: levels (known.insert s.key level) rest

/-- The waves in which the sources run, each in order of declaration. -/
def dependencyWaves (sources : List Source) : List (List Source) :=
  let placed := levels .empty sources
  let count := placed.foldl (fun n p => max n (p.1 + 1)) 0
  (List.range count).map fun n => (placed.filter (·.1 = n)).map Prod.snd

end HardwareWatch
