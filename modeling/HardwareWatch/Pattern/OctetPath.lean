import HardwareWatch.Text.CharSet
import Std.Data.HashMap

/-!
# Octets of the characters of a set

In UTF-8 a character is one to four octets. The characters of a set are those of some paths: a path
is a sequence of ranges of octets, and stands for all sequences with one octet of each range.

* `CharSet.octetPaths` are the paths of a set, in ascending order.
* `OctetPath.branchCount` is the number of the different starts of paths.
* `OctetPath.sharedSizes` are the numbers of ranges with which the paths go on from the different
  places on them, where places from which they go on alike are one.
-/

namespace HardwareWatch

/-- A range of octets, ends included. -/
abbrev OctetRange := Nat × Nat

/-- A sequence of ranges of octets. -/
abbrev OctetPath := List OctetRange

namespace OctetPath

/-- All octets behind the first one of a character. -/
def continuation : OctetRange := (0x80, 0xbf)

/-- The paths of the numbers from `first` to `last` of which `digits` octets with six bits each are
the last ones; `lead` is what the octet in front of them has besides its bits of the number. -/
def within (lead : Nat) : (digits : Nat) → (first last : Nat) → List OctetPath
  | 0, first, last => [[(lead + first, lead + last)]]
  | digits + 1, first, last =>
    let block := Nat.pow 64 (digits + 1)
    let a := first / block
    let b := last / block
    let inBlock (n lo hi : Nat) : List OctetPath :=
      (within 0x80 digits lo hi).map ((lead + n, lead + n) :: ·)
    if a = b then inBlock a (first % block) (last % block)
    else
      let headCut := first % block != 0
      let tailCut := (last + 1) % block != 0
      let a' := if headCut then a + 1 else a
      let b' := if tailCut then b else b + 1
      (if headCut then inBlock a (first % block) (block - 1) else []) ++
        (if a' < b' then
          [(lead + a', lead + (b' - 1)) :: List.replicate (digits + 1) continuation] else []) ++
        (if tailCut then inBlock b 0 (last % block) else [])

/-- The ranges of code points whose characters have the same number of octets: the ends of the
range, the number of octets behind the first one, and what the first one has besides its bits of the
number. -/
def lengthClasses : List (Nat × Nat × Nat × Nat) :=
  [(0, 0x7f, 0, 0), (0x80, 0x7ff, 1, 0xc0), (0x800, 0xd7ff, 2, 0xe0), (0xe000, 0xffff, 2, 0xe0),
    (0x10000, 0x10ffff, 3, 0xf0)]

/-- The paths of the characters from `first` to `last`. -/
def ofRange (first last : Nat) : List OctetPath :=
  lengthClasses.flatMap fun (lo, hi, digits, lead) =>
    if max lo first ≤ min hi last then within lead digits (max lo first) (min hi last) else []

/-- The paths by their first ranges: what follows each of them. -/
def branches (paths : List OctetPath) : List (OctetRange × List OctetPath) :=
  paths.foldr (fun path rest =>
    match path, rest with
    | [], _ => rest
    | r :: tail, (s, tails) :: others =>
      if r = s then (s, tail :: tails) :: others else (r, [tail]) :: rest
    | r :: tail, [] => [(r, [tail])]) []

/-- The number of the different starts, up to `depth` ranges long, of paths. -/
def branchCount : (depth : Nat) → List OctetPath → Nat
  | 0, _ => 0
  | depth + 1, paths => ((branches paths).map fun (_, tails) => 1 + branchCount depth tails).foldl (· + ·) 0

/-- Places on paths by the ways on from there. The end of all paths has the number zero. -/
abbrev Places := Std.HashMap (List (OctetRange × Nat)) Nat

/-- The number of the place where some paths start, with the places known so far. -/
def place : (depth : Nat) → List OctetPath → Places → Nat × Places
  | 0, _, places => (0, places)
  | depth + 1, paths, places =>
    if paths = [[]] then (0, places)
    else
      let (ways, places) := (branches paths).foldl (fun (ways, places) (range, tails) =>
        let (n, places) := place depth tails places
        ((range, n) :: ways, places)) (([] : List (OctetRange × Nat)), places)
      match places[ways]? with
      | some n => (n, places)
      | none => (places.size + 1, places.insert ways (places.size + 1))

/-- The numbers of ways on from the different places on the paths. -/
def sharedSizes (paths : List OctetPath) : List Nat :=
  (place 5 paths ∅).2.keys.map List.length

end OctetPath

/-- The paths of the characters of a set. -/
def CharSet.octetPaths (s : CharSet) : List OctetPath :=
  s.ranges.flatMap fun r => OctetPath.ofRange r.1 r.2

end HardwareWatch
