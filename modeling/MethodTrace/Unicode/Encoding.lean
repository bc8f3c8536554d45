import MethodTrace.Unicode.CharSet

/-!
The byte sequences of UTF-8 that spell the characters of a set.

A block is a run of characters of one length whose spellings are independent of each other byte by
byte, so that it is described by a range for each byte. Every set falls into blocks.
-/

namespace MethodTrace.Unicode

/-- The bytes that spell a block: for each place the least and the greatest byte. -/
abbrev ByteBlock := List (Nat × Nat)

/-- The bytes of a character, from its number. -/
def bytesOfNat (n : Nat) : List Nat :=
  if n < 0x80 then [n]
  else if n < 0x800 then [0xc0 + n / 64, 0x80 + n % 64]
  else if n < 0x10000 then [0xe0 + n / 4096, 0x80 + n / 64 % 64, 0x80 + n % 64]
  else [0xf0 + n / 262144, 0x80 + n / 4096 % 64, 0x80 + n / 64 % 64, 0x80 + n % 64]

/-- The parts of a range below and above a boundary. -/
def cutRange (boundary : Nat) (range : Nat × Nat) : List (Nat × Nat) :=
  if range.1 < boundary && boundary ≤ range.2 then
    [(range.1, boundary - 1), (boundary, range.2)]
  else [range]

/-- Cuts a range at boundaries that the last bytes of a spelling, worth `unit` characters, have to
respect: unless both ends agree above them, the range has to fill them. -/
def cutAtUnit (unit : Nat) (range : Nat × Nat) : List (Nat × Nat) :=
  if range.1 / unit = range.2 / unit then [range]
  else
    (cutRange ((range.1 + unit - 1) / unit * unit) range).flatMap
      (cutRange ((range.2 + 1) / unit * unit))

/-- The blocks of a range of characters. -/
def blocksOfRange (range : Nat × Nat) : List ByteBlock :=
  let lengths := [0x80, 0x800, 0xd800, 0xe000, 0x10000].foldl
    (fun ranges boundary => ranges.flatMap (cutRange boundary)) [range]
  let characters := lengths.filter fun range => range.1 < 0xd800 || 0xe000 ≤ range.1
  characters.flatMap fun range =>
    if range.1 < 0x80 then [[range]]
    else
      let blocks := [64, 4096, 262144].foldl
        (fun ranges unit => ranges.flatMap (cutAtUnit unit)) [range]
      blocks.map fun block => (bytesOfNat block.1).zip (bytesOfNat block.2)

/-- The blocks of a set. -/
def blocksOf (set : CharSet) : List ByteBlock :=
  set.ranges.flatMap blocksOfRange

end MethodTrace.Unicode
