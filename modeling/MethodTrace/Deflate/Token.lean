import MethodTrace.Bytes

/-!
The tokens of the deflate format, and the bands of numbers by which copies are coded.

Content is a sequence of bytes and of copies of what came shortly before. A length or a distance is
coded by the band it lies in and by its place in the band, which takes some extra bits.
-/

namespace MethodTrace.Deflate

/-- A byte, or a copy of bytes that begin some distance back. -/
inductive Token
  | literal (byte : UInt8)
  | copy (length distance : Nat)
  deriving DecidableEq

namespace Token

/-- Adds the bytes of a copy one by one, so that it may overlap itself. Before the content there
are zeros. -/
def appendCopy (distance : Nat) : (length : Nat) → Array UInt8 → Array UInt8
  | 0, content => content
  | length + 1, content =>
    let byte := if distance ≤ content.size then content[content.size - distance]?.getD 0 else 0
    appendCopy distance length (content.push byte)

/-- Adds the bytes of a token. -/
def append (content : Array UInt8) : Token → Array UInt8
  | literal byte => content.push byte
  | copy length distance => appendCopy distance length content

/-- The content that tokens describe. -/
def expand (tokens : List Token) : Bytes :=
  (tokens.foldl append #[]).toList

end Token

/-- Numbers that share a code: from `first` on, told apart by some extra bits. -/
structure Band where
  first : Nat
  extra : Nat

/-- Bands that follow each other from a number on, with the given extra bits. -/
def bandsFrom (first : Nat) : (extras : List Nat) → List Band
  | [] => []
  | extra :: extras => ⟨first, extra⟩ :: bandsFrom (first + 1 <<< extra) extras

/-- Each number `times` times in a row. -/
def repeated (times : Nat) (numbers : List Nat) : List Nat :=
  numbers.flatMap (List.replicate times)

/-- The bands of lengths. The greatest length has a band of its own. -/
def lengthBands : Array Band :=
  (bandsFrom 3 (repeated 8 [0] ++ repeated 4 [1, 2, 3, 4, 5])).toArray.push ⟨258, 0⟩

/-- The bands of distances. -/
def distanceBands : Array Band :=
  (bandsFrom 1 (repeated 4 [0] ++ repeated 2 (List.range' 1 13))).toArray

/-- The place of the last band that begins at or before a number. -/
def bandOf (bands : Array Band) (n : Nat) : Nat :=
  ((List.range bands.size).filter fun place =>
    bands[place]?.any fun band => band.first ≤ n).length - 1

end MethodTrace.Deflate
