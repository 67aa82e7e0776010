import HardwareWatch.Text.Numeral

/-!
# Sets of characters

A set of characters is the ascending list of its edges, the code points at which membership
changes: the characters from the first edge to the last one before the second edge belong to the
set, those from there to the one before the third edge do not, and so on. Equal sets of code points
have equal edges.

* `CharSet.has` decides membership (`CharSet.has_empty`: nothing belongs to the empty set).
* `CharSet.combine` takes two sets to the set of the code points whose memberships fulfil a
  condition; `union`, `inter`, `diff` and `symmDiff` are instances.
* `CharSet.ranges` lists the maximal ranges of a set.
-/

namespace HardwareWatch

/-- A set of characters, by its edges. -/
structure CharSet where
  edges : Array Nat
  deriving DecidableEq, Repr

namespace CharSet

/-- The number of edges up to a code point, when those before `lo` are known to be and those from
`hi` are known not to be. -/
def edgesUpTo (edges : Array Nat) (n lo hi : Nat) (h : hi ≤ edges.size) : Nat :=
  if _ : lo < hi then
    if edges[(lo + hi) / 2] ≤ n then edgesUpTo edges n ((lo + hi) / 2 + 1) hi h
    else edgesUpTo edges n lo ((lo + hi) / 2) (by omega)
  else lo
termination_by hi - lo

/-- The number of edges up to a code point. -/
def rank (s : CharSet) (n : Nat) : Nat := edgesUpTo s.edges n 0 s.edges.size (Nat.le_refl _)

/-- Whether a code point belongs to the set. -/
def contains (s : CharSet) (n : Nat) : Bool := s.rank n % 2 == 1

/-- Whether a character belongs to the set. -/
def has (s : CharSet) (c : Char) : Bool := s.contains c.toNat

/-- Whether one of the code points from `first` to `last` belongs to the set. -/
def meets (s : CharSet) (first last : Nat) : Bool :=
  s.contains first || s.rank first != s.rank last

/-- No character. -/
def empty : CharSet := ⟨#[]⟩

/-- All characters: the code points less the surrogates. -/
def all : CharSet := ⟨#[0, 0xd800, 0xe000, 0x110000]⟩

/-- The code points from `first` to `last`. -/
def ofCodePoints (first last : Nat) : CharSet := if first ≤ last then ⟨#[first, last + 1]⟩ else empty

/-- The characters from `first` to `last`. -/
def range (first last : Char) : CharSet := ofCodePoints first.toNat last.toNat

/-- A single character. -/
def single (c : Char) : CharSet := range c c

/-- The edges of a combination of two sets behind the edges already seen, where `p` and `q` tell
whether the code points before the next edge belong to either set. -/
def mergeEdges (f : Bool → Bool → Bool) (p q : Bool) : List Nat → List Nat → List Nat
  | [], [] => []
  | x :: xs, [] => keep x (f p q) (f (!p) q) (mergeEdges f (!p) q xs [])
  | [], y :: ys => keep y (f p q) (f p !q) (mergeEdges f p (!q) [] ys)
  | x :: xs, y :: ys =>
    if x < y then keep x (f p q) (f (!p) q) (mergeEdges f (!p) q xs (y :: ys))
    else if y < x then keep y (f p q) (f p !q) (mergeEdges f p (!q) (x :: xs) ys)
    else keep x (f p q) (f (!p) !q) (mergeEdges f (!p) (!q) xs ys)
termination_by xs ys => xs.length + ys.length
where
  /-- An edge is one of the combination if membership changes there. -/
  keep (n : Nat) (before after : Bool) (rest : List Nat) : List Nat :=
    if before = after then rest else n :: rest

/-- The set of the code points whose memberships in two sets fulfil a condition that excludes the
code points outside both. -/
def combine (f : Bool → Bool → Bool) (s t : CharSet) : CharSet :=
  ⟨(mergeEdges f false false s.edges.toList t.edges.toList).toArray⟩

/-- The characters of either set. -/
def union (s t : CharSet) : CharSet := combine (· || ·) s t

/-- The characters of both sets. -/
def inter (s t : CharSet) : CharSet := combine (· && ·) s t

/-- The characters of the first set that are not in the second. -/
def diff (s t : CharSet) : CharSet := combine (fun p q => p && !q) s t

/-- The characters of exactly one of the sets. -/
def symmDiff (s t : CharSet) : CharSet := combine (· != ·) s t

/-- The characters outside the set. -/
def compl (s : CharSet) : CharSet := all.diff s

/-- The union of sets. -/
def unions (sets : List CharSet) : CharSet := sets.foldr union empty

/-- The union of ranges. -/
def ofRanges (ranges : List (Char × Char)) : CharSet := unions (ranges.map fun r => range r.1 r.2)

/-- The edges of a set of single code points, given in ascending order. -/
def pointEdges : List Nat → List Nat
  | [] => []
  | n :: rest =>
    match pointEdges rest with
    | first :: edges => if first ≤ n + 1 then n :: edges else n :: (n + 1) :: first :: edges
    | [] => [n, n + 1]

/-- The set of some code points. -/
def ofPoints (points : List Nat) : CharSet :=
  ⟨(pointEdges (points.mergeSort.eraseReps)).toArray⟩

/-- The maximal ranges of a set whose edges are given. -/
def rangesOf : List Nat → List (Nat × Nat)
  | first :: next :: rest => (first, next - 1) :: rangesOf rest
  | _ => []

/-- The maximal ranges of the set. -/
def ranges (s : CharSet) : List (Nat × Nat) := rangesOf s.edges.toList

/-- Whether all members are ASCII characters. -/
def isAscii (s : CharSet) : Bool := s.edges.all (· ≤ 0x80)

/-- The sums of the hexadecimal numbers in a text, each with all before it, where `sum` is that of
the numbers read and `value` what has been read of the next one. -/
def partialSums (sum value : Nat) : Chars → List Nat
  | [] => [sum + value]
  | c :: s =>
    match Chars.hexValue? c with
    | some d => partialSums sum (16 * value + d) s
    | none => (sum + value) :: partialSums (sum + value) 0 s

/-- The set whose edges have the given distances from each other, in hexadecimal digits. -/
def ofDistances (lines : List String) : CharSet :=
  ⟨(partialSums 0 0 (" ".intercalate lines).toList).toArray⟩

@[simp] theorem has_empty (c : Char) : empty.has c = false := by
  simp [has, contains, rank, empty, edgesUpTo]

end CharSet

end HardwareWatch
