import HardwareWatch.Octets.Sha256
import HardwareWatch.Placeholder.Escape
import HardwareWatch.Settings.Host
import HardwareWatch.Text.Pieces

/-!
# Placeholders

A text for a protocol may hold placeholders for the name of the host and for credentials: a name in
braces behind `$` or `%`, possibly with the kind of escaping in front, as in `esc(json)::PASSWORD`.
Placeholders with other names stay, and so do references to tables.

* `Placeholder.at?` finds a placeholder at the start of a text.
* `Placeholder.expand` replaces the placeholders of a text in one pass.
-/

namespace HardwareWatch

/-- A placeholder: the name of the kind of escaping, and the name of the value. -/
structure Placeholder where
  escaping : Option String
  name : String
  deriving DecidableEq

/-- What placeholders stand for. -/
structure Credentials where
  hostname : String
  username : String
  password : String
  token : String

namespace Credentials

/-- The credentials for a protocol on a host, missing ones empty. -/
def of (host : HostSettings) (protocol : Option String) : Credentials :=
  let settings := protocol.bind host.protocols.get?
  ⟨host.hostname, (settings.bind (·.username)).getD "", (settings.bind (·.password)).getD "",
    (settings.bind (·.authToken)).getD ""⟩

/-- A text in Base64. -/
def base64 (s : String) : String := .ofList (Octets.base64 (Octets.ofChars s.toList))

/-- The digest of a text in hexadecimal digits. -/
def digest (s : String) : String :=
  .ofList (Octets.hexadecimal (Sha256.digest (Octets.ofChars s.toList)))

/-- The value with a name. -/
def value? (c : Credentials) : String → Option String
  | "HOSTNAME" => some c.hostname
  | "USERNAME" => some c.username
  | "PASSWORD" => some c.password
  | "AUTHENTICATIONTOKEN" => some c.token
  | "PASSWORD_BASE64" => some (base64 c.password)
  | "BASIC_AUTH_BASE64" => some (base64 (c.username ++ ":" ++ c.password))
  | "SHA256_AUTH" => some (if c.token = "" then "" else digest c.token)
  | _ => none

end Credentials

namespace Placeholder

/-- Whether the character may stand in a name. -/
def inName (c : Char) : Bool := c.isUpper || c.isDigit || c == '_' || c == '-'

/-- The kind of escaping at the start of a text, and what follows. -/
def escaping? (s : Chars) : Option (Option String × Chars) :=
  match Chars.dropPrefix? "esc(".toList s with
  | none => some (none, s)
  | some s =>
    let kind := s.takeWhile Char.isAlphanum
    if kind = [] then none
    else (Chars.dropPrefix? [')'] (s.drop kind.length)).map fun rest => (some (.ofList kind), rest)

/-- The placeholder at the start of a text, and what follows. -/
def at? : Chars → Option (Placeholder × Chars)
  | sign :: '\x7b' :: s => do
    if sign ≠ '$' ∧ sign ≠ '%' then none
    else
      let (escaping, s) ← escaping? s
      let s := (Chars.dropPrefix? "::".toList s).getD s
      let name := s.takeWhile inName
      let rest ← Chars.dropPrefix? ['\x7d'] (s.drop name.length)
      if name = [] then none else some (⟨escaping, .ofList name⟩, rest)
  | _ => none

/-- The text that replaces a placeholder. A kind of escaping that is not known counts as none. -/
def replacement? (c : Credentials) (p : Placeholder) : Option String :=
  (c.value? p.name).map fun value =>
    match p.escaping.bind EscapeKind.ofName? with
    | some kind => kind.escape value
    | none => value

/-- The text less its first `skip` characters with its placeholders replaced. -/
def expandFrom (credentials : Credentials) : (skip : Nat) → Chars → Chars
  | _, [] => []
  | skip + 1, _ :: s => expandFrom credentials skip s
  | 0, c :: s =>
    match at? (c :: s) with
    | none => c :: expandFrom credentials 0 s
    | some (p, rest) =>
      let length := s.length - rest.length
      ((replacement? credentials p).map String.toList).getD ((c :: s).take (length + 1))
        ++ expandFrom credentials length s

/-- The text with its placeholders replaced for a protocol on a host. -/
def expand (text : String) (host : HostSettings) (protocol : Option String) : String :=
  .ofList (expandFrom (.of host protocol) 0 text.toList)

end Placeholder

end HardwareWatch
