import HardwareWatch.Text.CategoryTable
import HardwareWatch.Text.CharSet
import HardwareWatch.Text.Pieces
import HardwareWatch.Text.ScriptTable

/-!
# General categories and scripts

Every code point has one general category: a major class, such as that of the letters, and a kind
in it. Every character belongs to one script: that of the writing it is used in, or one for characters
that several writings have in common. Such characters are also listed with all the scripts that use
them.

* `CharSet.ofCategories` is the set of the characters of some categories, `CharSet.ofCategory` that
  of one category and `CharSet.ofClass` that of a major class.
* `WritingScript.ofName?` finds a script by a name.
* `CharSet.ofScript` is the set of the characters that belong to a script, `CharSet.usedIn` that of
  the characters that are used in it.
-/

namespace HardwareWatch

/-! ## Categories -/

/-- A general category: the letter of the major class and the letter of the kind. -/
structure Category where
  major : Char
  kind : Char
  deriving DecidableEq, Repr

namespace Category

/-- The category of surrogates, which are no characters. -/
def surrogate : Category := ⟨'C', 's'⟩

/-- Read a run: its length and its category. -/
def ofRun? (run : Chars) : Option (Nat × Category) :=
  let digits := run.take (run.length - 2)
  match run.drop digits.length with
  | [major, kind] => (Chars.hexadecimal? (Nat.pow 2 21) digits).map fun n => (n, ⟨major, kind⟩)
  | _ => none

/-- The lengths and categories of the runs, in ascending order of the code points. -/
def runs : List (Nat × Category) :=
  Text.categoryRuns.flatMap fun line => (Chars.splitBy (· == ' ') line.toList).filterMap ofRun?

/-- The edges of the set of the code points from `first` on whose label, given by runs, is
wanted; `inside` says whether that of the code point before is. Runs may be empty. -/
def edgesWhere {α : Type} (wanted : α → Bool) (first : Nat) (inside : Bool) :
    List (Nat × α) → List Nat
  | [] => if inside then [first] else []
  | (length, label) :: rest =>
    if length = 0 ∨ wanted label = inside then edgesWhere wanted (first + length) inside rest
    else first :: edgesWhere wanted (first + length) (!inside) rest

end Category

namespace CharSet

/-- The code points whose label, given by runs from the first one on, is wanted. -/
def ofRuns {α : Type} (wanted : α → Bool) (runs : List (Nat × α)) : CharSet :=
  ⟨(Category.edgesWhere wanted 0 false runs).toArray⟩

/-- The characters of some categories. -/
def ofCategories (wanted : Category → Bool) : CharSet :=
  ofRuns (fun k => wanted k && k != .surrogate) Category.runs

/-- The characters of one category. -/
def ofCategory (major kind : Char) : CharSet := ofCategories (· == ⟨major, kind⟩)

/-- The characters of a major class. -/
def ofClass (major : Char) : CharSet := ofCategories (·.major == major)

/-- The code points that no character has. -/
def unassigned : CharSet := ofCategory 'C' 'n'

end CharSet

/-! ## Scripts -/

/-- A script, by its four letters. -/
structure WritingScript where
  letters : Chars
  deriving DecidableEq, Repr

namespace WritingScript

/-- The words of a line. -/
def words (line : String) : List Chars := Chars.splitBy (· == ' ') line.toList

/-- The script with a name in lower case, blanks and hyphens left out. -/
def ofName? (name : String) : Option WritingScript :=
  (Text.scriptNames.find? fun line => ((words line).drop 1).contains name.toList).map fun line =>
    ⟨line.toList.take 4⟩

/-- Read a run: its length and its script. -/
def ofRun? (run : Chars) : Option (Nat × WritingScript) :=
  let digits := run.take (run.length - 4)
  (Chars.hexadecimal? (Nat.pow 2 21) digits).map fun n => (n, ⟨run.drop digits.length⟩)

/-- The lengths and scripts of the runs, in ascending order of the code points. -/
def runs : List (Nat × WritingScript) :=
  Text.scriptRuns.flatMap fun line => (words line).filterMap ofRun?

/-- The scripts whose letters stand one behind the other. -/
def listed : Chars → List WritingScript
  | a :: b :: c :: d :: rest => ⟨[a, b, c, d]⟩ :: listed rest
  | _ => []

/-- The runs of characters with the scripts that use them, from the words of the table: the distance
of a run from the one before, for which nothing is listed, its length and its scripts. -/
def sharedRunsOf : List Chars → List (Nat × List WritingScript)
  | gap :: length :: scripts :: rest =>
    let number (digits : Chars) : Nat := (Chars.hexadecimal? (Nat.pow 2 21) digits).getD 0
    (number gap, []) :: (number length, listed scripts) :: sharedRunsOf rest
  | _ => []

/-- The runs of characters with the scripts that use them, none where it is their own. -/
def sharedRuns : List (Nat × List WritingScript) :=
  sharedRunsOf (Text.sharedScriptRuns.flatMap words)

end WritingScript

namespace CharSet

/-- The characters that belong to a script. -/
def ofScript (script : WritingScript) : CharSet := ofRuns (· == script) WritingScript.runs

/-- The characters that are used in a script. -/
def usedIn (script : WritingScript) : CharSet :=
  ((ofScript script).diff (ofRuns (· != []) WritingScript.sharedRuns)).union
    (ofRuns (·.contains script) WritingScript.sharedRuns)

end CharSet

end HardwareWatch
