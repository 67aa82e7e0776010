import HardwareWatch.Json.Shape

/-!
# Settings of a host

What a host is, how it is reached and which connectors are wanted for it. Every setting but the name
has a default.

* `DeviceKind` is what a host is, `DeviceKind.word` the word for it in documents.
* `HostSettings.ofJson?` reads settings, `HostSettings.toJson` writes them with every setting.
* `HostSettings.timeoutFor` is the time limit of a probe: the protocol's own or the host's.
-/

namespace HardwareWatch

/-! ## Kinds of devices -/

/-- What a host is. -/
inductive DeviceKind
  | linux | windows | network | storage
  /-- A management board. -/
  | outOfBand
  | vms | tru64 | hpux | aix | solaris | other
  deriving DecidableEq, Repr, Inhabited

namespace DeviceKind

/-- The kinds with their words. -/
def words : List (String × DeviceKind) :=
  [("linux", linux), ("windows", windows), ("network", network), ("storage", storage),
    ("oob", outOfBand), ("vms", vms), ("tru64", tru64), ("hpux", hpux), ("aix", aix),
    ("solaris", solaris), ("other", other)]

/-- The word for a kind. -/
def word : DeviceKind → String
  | linux => "linux"
  | windows => "windows"
  | network => "network"
  | storage => "storage"
  | outOfBand => "oob"
  | vms => "vms"
  | tru64 => "tru64"
  | hpux => "hpux"
  | aix => "aix"
  | solaris => "solaris"
  | other => "other"

/-- The name of a kind in messages. -/
def name : DeviceKind → String
  | linux => "Linux"
  | windows => "Windows"
  | network => "Network"
  | storage => "Storage"
  | outOfBand => "Oob"
  | vms => "Vms"
  | tru64 => "Tru64"
  | hpux => "Hpux"
  | aix => "Aix"
  | solaris => "Solaris"
  | other => "Other"

theorem lookup_word (kind : DeviceKind) : words.lookup kind.word = some kind := by
  cases kind <;> rfl

/-- Read a kind; `held` says that it stands in a part that is held back. -/
def ofJson? (held : Bool) : Json → Option DeviceKind := Json.word? words held

/-- The document of a kind. -/
def toJson (kind : DeviceKind) : Json := .text kind.word

end DeviceKind

/-! ## Settings -/

open Json FieldReader

/-- The credentials and limits for one protocol. -/
structure ProtocolSettings where
  username : Option String
  password : Option String
  authToken : Option String
  port : Option Nat
  timeoutSecs : Option Nat
  deriving DecidableEq

/-- The settings of a host. -/
structure HostSettings where
  hostname : String
  kind : DeviceKind
  /-- The settings of the protocols that may be used. -/
  protocols : NameMap ProtocolSettings
  /-- The directives that choose connectors. -/
  directives : NameSet
  /-- Whether monitor jobs run one after the other. -/
  sequential : Bool
  retryDelayMs : Nat
  defaultTimeoutSecs : Nat
  deriving DecidableEq

namespace ProtocolSettings

/-- Read the settings of a protocol. -/
def ofJson? : Json → Option ProtocolSettings := Json.record? do
  let username ← withDefault "username" none (nullable? text?)
  let password ← withDefault "password" none (nullable? text?)
  let authToken ← withDefault "auth_token" none (nullable? text?)
  let port ← withDefault "port" none (nullable? (nat? 65536))
  let timeoutSecs ← withDefault "timeout_secs" none (nullable? (nat? word64))
  return ⟨username, password, authToken, port, timeoutSecs⟩

/-- The document of the settings of a protocol. -/
def toJson (p : ProtocolSettings) : Json :=
  .object [("username", ofText? p.username), ("password", ofText? p.password),
    ("auth_token", ofText? p.authToken), ("port", ofNat? p.port),
    ("timeout_secs", ofNat? p.timeoutSecs)]

end ProtocolSettings

namespace HostSettings

/-- A host of which only the name and the kind are known. -/
def named (hostname : String) (kind : DeviceKind) : HostSettings :=
  ⟨hostname, kind, .empty, .empty, false, 30, 30⟩

/-- The machine itself. -/
def localHost : HostSettings := named "localhost" .linux

/-- Read the settings of a host. -/
def ofJson? : Json → Option HostSettings := Json.record? do
  let hostname ← required "hostname" text?
  let default := named hostname .linux
  let kind ← withDefault "host_type" default.kind (DeviceKind.ofJson? false)
  let protocols ← withDefault "protocols" default.protocols (map? ProtocolSettings.ofJson?)
  let directives ← withDefault "connectors" default.directives names?
  let sequential ← withDefault "sequential" default.sequential bool?
  let retryDelayMs ← withDefault "retry_delay_ms" default.retryDelayMs (nat? word64)
  let defaultTimeoutSecs ←
    withDefault "default_timeout_secs" default.defaultTimeoutSecs (nat? word64)
  return ⟨hostname, kind, protocols, directives, sequential, retryDelayMs, defaultTimeoutSecs⟩

/-- The document of the settings. -/
def toJson (h : HostSettings) : Json :=
  .object [("hostname", .text h.hostname), ("host_type", h.kind.toJson),
    ("protocols", ofMap ProtocolSettings.toJson h.protocols),
    ("connectors", ofTexts h.directives.keys), ("sequential", .bool h.sequential),
    ("retry_delay_ms", ofNat h.retryDelayMs),
    ("default_timeout_secs", ofNat h.defaultTimeoutSecs)]

/-- The settings with a protocol. -/
def withProtocol (h : HostSettings) (name : String) (settings : ProtocolSettings) : HostSettings :=
  { h with protocols := h.protocols.insert name settings }

/-- The time limit of a probe in seconds. -/
def timeoutFor (h : HostSettings) (protocol : Option String) : Nat :=
  ((protocol.bind h.protocols.get?).bind (·.timeoutSecs)).getD h.defaultTimeoutSecs

end HostSettings

end HardwareWatch
