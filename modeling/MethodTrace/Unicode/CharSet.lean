import MethodTrace.Bytes.Hex

/-!
Sets of characters, as ascending ranges of their numbers.

Ranges are kept apart by at least one number, so equal sets have equal ranges. In tables, a set is
written as the numbers at which membership changes, each as its distance to the one before, in base
sixteen: numbers below the first are outside, those up to the second inside, and so on.
-/

namespace MethodTrace

/-- A set of character numbers: inclusive ranges in ascending order, with gaps between them. -/
structure CharSet where
  ranges : List (Nat × Nat)
  deriving DecidableEq

namespace CharSet

/-- The greatest number of a character. -/
def last : Nat := 0x10ffff

def empty : CharSet := ⟨[]⟩

/-- All characters. -/
def full : CharSet := ⟨[(0, last)]⟩

/-- Joins ranges in ascending order of their starts; `low` and `high` bound the range that is still
growing. -/
def join (low high : Nat) : List (Nat × Nat) → List (Nat × Nat)
  | [] => [(low, high)]
  | (first, final) :: rest =>
    if first ≤ high + 1 then join low (max high final) rest
    else (low, high) :: join first final rest

/-- The set of all numbers in some ranges. -/
def ofRanges (ranges : List (Nat × Nat)) : CharSet :=
  match ranges.mergeSort fun a b => a.1 ≤ b.1 with
  | [] => empty
  | (first, final) :: rest => ⟨join first final rest⟩

/-- The set of one character. -/
def single (c : Char) : CharSet := ⟨[(c.toNat, c.toNat)]⟩

/-- Whether a number is in the set. -/
def containsNat (set : CharSet) (n : Nat) : Bool :=
  set.ranges.any fun (first, final) => first ≤ n && n ≤ final

/-- Whether a character is in the set. -/
def contains (set : CharSet) (c : Char) : Bool :=
  set.containsNat c.toNat

def union (a b : CharSet) : CharSet :=
  ofRanges (a.ranges ++ b.ranges)

instance : Union CharSet := ⟨union⟩

/-- The gaps from `next` up to `top`. -/
def gaps (next top : Nat) : List (Nat × Nat) → List (Nat × Nat)
  | [] => if next ≤ top then [(next, top)] else []
  | (first, final) :: rest =>
    if next < first then (next, first - 1) :: gaps (final + 1) top rest
    else gaps (final + 1) top rest

/-- The numbers up to `top` that are not in the set. -/
def complement (top : Nat) (set : CharSet) : CharSet :=
  ⟨gaps 0 top set.ranges⟩

def intersection (a b : CharSet) : CharSet :=
  complement last (complement last a ∪ complement last b)

def difference (a b : CharSet) : CharSet :=
  a.intersection (complement last b)

def symmetricDifference (a b : CharSet) : CharSet :=
  a.difference b ∪ b.difference a

/-- Whether all members are below 128. -/
def isAscii (set : CharSet) : Bool :=
  set.ranges.all fun range => range.2 < 128

end CharSet

end MethodTrace

namespace MethodTrace.Unicode

/-- A set of characters in a table, under the names it goes by. -/
structure NamedSet where
  names : List String
  steps : String

/-- The numbers that a text of words in base sixteen spells. -/
def hexWords (text : String) : List Nat :=
  (text.toList.splitOn ' ').filterMap Bytes.hexNumber?

/-- The ranges between changes of membership, from a number before the next change. -/
def rangesOfSteps (before : Nat) : List Nat → List (Nat × Nat)
  | [] => []
  | [gap] => [(before + gap, CharSet.last)]
  | gap :: run :: rest =>
    (before + gap, before + gap + run - 1) :: rangesOfSteps (before + gap + run) rest

namespace NamedSet

/-- The characters of a set. -/
def toCharSet (set : NamedSet) : CharSet :=
  ⟨rangesOfSteps 0 (hexWords set.steps)⟩

/-- The characters of the first set of a name. -/
def find? (table : List NamedSet) (name : String) : Option CharSet :=
  (table.find? fun set => set.names.contains name).map toCharSet

/-- The characters of all sets that have one of some names. -/
def unionOf (table : List NamedSet) (names : List String) : CharSet :=
  names.foldl (fun set name => set ∪ (find? table name).getD CharSet.empty) CharSet.empty

end NamedSet

end MethodTrace.Unicode
