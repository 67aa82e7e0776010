import HardwareWatch.Octets.Encoding

/-!
# Escaping

How a value is written where it stands between characters that have a meaning of their own. Every
character is replaced by itself, so that escaping a text is escaping its characters one by one.

* `EscapeKind` is the kind of text that a value is written into.
* `EscapeKind.escape` escapes a value.
-/

namespace HardwareWatch

/-- The kind of text that a value is written into. -/
inductive EscapeKind
  | json | url | xml | regex | windowsCmd | powershell | bash | sql
  deriving DecidableEq, Repr

namespace EscapeKind

/-- The kind with a name, in whatever case. -/
def ofName? (name : String) : Option EscapeKind :=
  match String.ofList (name.toList.map Char.toLower) with
  | "json" => some json
  | "url" => some url
  | "xml" => some xml
  | "regex" => some regex
  | "windowscmd" | "cmd" => some windowsCmd
  | "powershell" => some powershell
  | "bash" => some bash
  | "sql" => some sql
  | _ => none

/-- Whether the character is written as it is in an address. -/
def isSafeInUrl (c : Char) : Bool := c.isAlphanum || "*-._".toList.contains c

/-- The characters with a meaning in regular expressions. -/
def regexMarks : Chars := "\\.+*?()|[]\x7b\x7d^$#&-~".toList

/-- The characters with a meaning at a command prompt. -/
def promptMarks : Chars := "^&|<>%()\x22".toList

/-- The characters with a meaning in PowerShell, apart from the single quote. -/
def scriptMarks : Chars := "\x60#[]()\x7b\x7d$\x22".toList

/-- The characters with a meaning in a shell that are escaped. -/
def shellMarks : Chars := "'\x22\\$!*?[]()\x7b\x7d|&<>~;".toList

/-- What a character is replaced by. -/
def escapeChar : EscapeKind → Char → Chars
  | json, c =>
    if c = '\\' then "\\\\".toList
    else if c = '\x22' then "\\\x22".toList
    else if c = '\n' then "\\n".toList
    else if c = '\r' then "\\r".toList
    else if c = '\t' then "\\t".toList
    else [c]
  | url, c => if isSafeInUrl c then [c] else Octets.percentEncoded (Octets.ofChars [c])
  | xml, c =>
    if c = '&' then "&amp;".toList
    else if c = '<' then "&lt;".toList
    else if c = '>' then "&gt;".toList
    else if c = '\x22' then "&quot;".toList
    else if c = '\'' then "&apos;".toList
    else [c]
  | regex, c => if c ∈ regexMarks then ['\\', c] else [c]
  | windowsCmd, c => if c ∈ promptMarks then ['^', c] else [c]
  | powershell, c =>
    if c = '\'' then ['\'', '\''] else if c ∈ scriptMarks then ['\x60', c] else [c]
  | bash, c => if c = '\n' then "\\n".toList else if c ∈ shellMarks then ['\\', c] else [c]
  | sql, c =>
    if c = '\'' then ['\'', '\'']
    else if c = '\x22' then "\\\x22".toList
    else if c = '\\' then "\\\\".toList
    else if c = '\n' then "\\n".toList
    else if c = '\r' then "\\r".toList
    else if c = '\t' then "\\t".toList
    else [c]

/-- The value with every character escaped. -/
def escape (kind : EscapeKind) (value : String) : String :=
  .ofList (value.toList.flatMap kind.escapeChar)

end EscapeKind

end HardwareWatch
