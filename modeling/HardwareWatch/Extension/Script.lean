import HardwareWatch.Connector.SourceDocument
import HardwareWatch.Activity.Request
import HardwareWatch.Table.Reference

/-!
# Scripted extensions

Extensions whose replies are written down beforehand, by what is asked: an object id, a query, a
command line, a path. Several replies to one thing are used up one after the other, and the last one
stays.

* `SourceKind.target` and `CriterionKind.target` are the things that are asked.
* `Script.network` is the behaviour of scripted extensions.
-/

namespace HardwareWatch

/-- What is asked of the host by a source. -/
def SourceKind.target : SourceKind → String
  | http r => (r.path.orElse fun _ => r.url).getD ""
  | snmpGet oid => oid
  | snmpTable oid _ => oid
  | wmi q => q.query
  | wbem q => q.query
  | commandLine c => c.commandLine
  | ipmi => "ipmi"
  | sql query => query
  | copy _ | static _ | tableUnion _ | tableJoin _ => ""

/-- What is asked of the host by a criterion. -/
def CriterionKind.target : CriterionKind → String
  | http r => (r.path.orElse fun _ => r.url).getD ""
  | snmpGet v => v.oid
  | snmpGetNext v => v.oid
  | wmi q => q.query
  | wbem q => q.query
  | commandLine c => c.commandLine
  | ipmi => "ipmi"
  | sql query _ => query
  | process line => line
  | service name => name
  | deviceType .. | productRequirements .. => ""

/-- What is asked of the host by a probe. -/
def Probe.target : Probe → String
  | source s => s.kind.target
  | criterion c => c.kind.target
  | health => ""

/-- A reply, and how long it takes. -/
structure ScriptedReply (α : Type) where
  delayMs : Nat
  content : α

/-- What a scripted extension answers to a source. -/
inductive SourceAnswer
  | table (t : Table)
  | failure (e : EngineError)
  /-- The document of the source that is asked. -/
  | echo

/-- The table of the answer to a source. -/
def SourceAnswer.resolve (s : Source) : SourceAnswer → Except EngineError Table
  | table t => .ok t
  | failure e => .error e
  | echo => .ok (.ofRaw s.toJson.canonical.print)

/-- The replies of an extension by what is asked. -/
structure ScriptedExtension where
  sources : NameMap (List (ScriptedReply SourceAnswer))
  criteria : NameMap (List (ScriptedReply (Except EngineError CriterionResult)))
  health : ScriptedReply (Except EngineError Bool)

/-- The replies of all extensions by their ids. -/
abbrev Script := NameMap ScriptedExtension

namespace ScriptedReply

variable {α : Type}

/-- The replies after one was used up. The last one stays. -/
def useUp : List (ScriptedReply α) → List (ScriptedReply α)
  | _ :: next :: rest => next :: rest
  | replies => replies

/-- The reply to a thing, and the replies after it. -/
def draw (fallback : α) (target : String) (replies : NameMap (List (ScriptedReply α))) :
    ScriptedReply α × NameMap (List (ScriptedReply α)) :=
  let known := (replies.get? target).getD []
  (known.head?.getD ⟨0, fallback⟩, replies.modify target useUp)

/-- The reply as it reaches whoever asked. It takes no less than a millisecond. -/
def toReply {r : Request} (f : α → Except EngineError r.Answer) (reply : ScriptedReply α) :
    Reply r :=
  ⟨max 1 reply.delayMs, f reply.content⟩

end ScriptedReply

namespace ScriptedExtension

/-- An extension without replies, whose protocol works. -/
def silent : ScriptedExtension := ⟨.empty, .empty, ⟨0, .ok true⟩⟩

/-- The answer to a criterion for which there is no reply. -/
def unknownTarget (target : String) : CriterionResult :=
  ⟨.error, target ++ " not found", none⟩

/-- The reply to a probe, and the extension after it. -/
def reply (e : ScriptedExtension) : (r : Request) → Reply r × ScriptedExtension
  | ⟨id, host, limit, .source s⟩ =>
    let (reply, sources) := ScriptedReply.draw (.table .empty) s.kind.target e.sources
    (reply.toReply (r := ⟨id, host, limit, .source s⟩) (·.resolve s), { e with sources })
  | ⟨id, host, limit, .criterion c⟩ =>
    let target := c.kind.target
    let (reply, criteria) := ScriptedReply.draw (.ok (unknownTarget target)) target e.criteria
    (reply.toReply (r := ⟨id, host, limit, .criterion c⟩) (fun answer => answer),
      { e with criteria })
  | ⟨id, host, limit, .health⟩ =>
    (e.health.toReply (r := ⟨id, host, limit, .health⟩) (fun answer => answer), e)

end ScriptedExtension

namespace Script

/-- The behaviour of scripted extensions. One that is not in the script has no replies. -/
def network : Network Script := fun r script =>
  let (reply, e) := ((script.get? r.extension).getD .silent).reply r
  (reply, script.modify r.extension fun _ => e)

end Script

end HardwareWatch
