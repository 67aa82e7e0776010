import HardwareWatch.Connector.Store
import HardwareWatch.Settings.Host

/-!
# Staging

The directives of a host choose the connectors that are tried on it. `id` and `#tag` include
connectors, `!id` and `!#tag` exclude them, and `+id` forces one. Ids and tags count without regard
to case.

* `Directive.parse?` reads a directive.
* `stage` lists the connectors to try, in the order of the store.
-/

namespace HardwareWatch

/-- What a host wants of a connector, ids and tags in lower case. -/
inductive Directive
  | force (id : String)
  | includeId (id : String)
  | includeTag (tag : String)
  | excludeId (id : String)
  | excludeTag (tag : String)
  deriving DecidableEq

namespace Directive

/-- An id or a tag as it counts. -/
def bare (s : Chars) : String := Text.lowercase (.ofList (Chars.trim s))

/-- Read a directive. A blank one says nothing. -/
def parse? (directive : String) : Option Directive :=
  match Chars.trim directive.toList with
  | '+' :: id => some (force (bare id))
  | '!' :: rest =>
    match Chars.trim rest with
    | '#' :: tag => some (excludeTag (bare tag))
    | id => some (excludeId (bare id))
  | '#' :: tag => some (includeTag (bare tag))
  | [] => none
  | id => some (includeId (bare id))

/-- Whether the directive includes connectors. -/
def isInclusion : Directive → Bool
  | includeId _ | includeTag _ => true
  | _ => false

end Directive

/-- A connector to try, and whether it is kept whatever its detection says. -/
structure StagedConnector where
  connector : Connector
  forced : Bool
  deriving DecidableEq

namespace HostSettings

/-- What the host wants. -/
def wishes (host : HostSettings) : List Directive := host.directives.keys.filterMap Directive.parse?

end HostSettings

/-- Whether one of the directives excludes the connector. -/
def isExcluded (wishes : List Directive) (key : String) (c : Connector) : Bool :=
  wishes.any fun
    | .excludeId id => id == key
    | .excludeTag tag => c.hasTag tag
    | _ => false

/-- Whether the directives let the connector in: none includes any, or one includes it. -/
def isIncluded (wishes : List Directive) (key : String) (c : Connector) : Bool :=
  !wishes.any Directive.isInclusion || wishes.any fun
    | .includeId id => id == key
    | .includeTag tag => c.hasTag tag
    | _ => false

/-- Whether the connector may be tried on the host without being forced. -/
def isEligible (host : HostSettings) (key : String) (c : Connector) : Bool :=
  let wishes := host.wishes
  !isExcluded wishes key c && isIncluded wishes key c
    && (!c.detection.disableAutoDetection || wishes.contains (.includeId key))
    && (c.detection.appliesTo.isEmpty || c.detection.appliesTo.contains host.kind)

/-- How a connector of the store is staged, if it is. -/
def stageOne? (host : HostSettings) (id : String) (c : Connector) : Option StagedConnector :=
  let key := Text.lowercase id
  if host.wishes.contains (.force key) then some ⟨c, true⟩
  else if isEligible host key c then some ⟨c, false⟩
  else none

/-- The connectors to try on a host. -/
def stage (store : ConnectorStore) (host : HostSettings) : List StagedConnector :=
  store.toList.filterMap fun (id, c) => stageOne? host id c

end HardwareWatch
