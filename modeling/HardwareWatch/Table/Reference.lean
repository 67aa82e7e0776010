import HardwareWatch.Table.Basic

/-!
# References to tables

A text of the form `$` `{source::key}` stands for the table of another source. A key is not empty
and has no blank and no closing brace.

* `Reference.key?` reads a text that is one reference as a whole.
* `Reference.keysIn` finds the references anywhere in a text.
* `Table.lookup` resolves an operand: the table referred to, or the operand itself as lines of
  cells.
-/

namespace HardwareWatch

namespace Reference

/-- The start of a reference. -/
def opening : Chars := "$\x7bsource::".toList

/-- The end of a reference. -/
def closing : Char := '\x7d'

/-- Whether the text can be a key: neither empty nor with blanks. -/
def isKey (key : Chars) : Bool := key != [] && !key.any Chars.isBlank

/-- The key of a text that is one reference, blanks around it ignored. -/
def keyOf? (s : Chars) : Option Chars :=
  ((Chars.dropPrefix? opening (Chars.trim s)).bind (Chars.dropSuffix? [closing])).filter fun key =>
    isKey key && !key.contains closing

/-- The keys of the references in a text less its first `skip` characters. A reference that is not
closed ends the search. -/
def keysFrom : (skip : Nat) → Chars → List Chars
  | _, [] => []
  | skip + 1, _ :: s => keysFrom skip s
  | 0, c :: s =>
    match Chars.dropPrefix? opening (c :: s) with
    | none => keysFrom 0 s
    | some rest =>
      match Chars.breakOn? [closing] rest with
      | none => []
      | some (key, _) =>
        (if isKey key then [key] else []) ++ keysFrom (opening.length + key.length) s

/-- The key of a text that is one reference. -/
def key? (s : String) : Option String := (keyOf? s.toList).map .ofList

/-- The keys referred to in a text, in order of appearance. -/
def keysIn (s : String) : List String := (keysFrom 0 s.toList).map .ofList

end Reference

/-- The table that an operand stands for: the one it refers to, which may be missing, or the
operand as lines of cells. -/
def Table.lookup (operand : String) (ns : Namespace) : Option Table :=
  match Reference.key? operand with
  | some key => ns.get? key
  | none => some (Table.ofCsv cellSeparator operand)

end HardwareWatch
