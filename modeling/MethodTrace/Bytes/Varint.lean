import MethodTrace.Bytes

/-!
Numbers of variable width.

A small number is one byte. A greater one follows a byte that tells its width of two, four or eight
bytes; a reader takes any of these, whether or not the number needs it.
-/

namespace MethodTrace.Varint

/-- The greatest number of one byte. -/
def maxSmall : Nat := 250

/-- The bytes of a number of at most eight bytes. -/
def encode (n : Nat) : Bytes :=
  if n ≤ maxSmall then [UInt8.ofNat n]
  else if n < UInt16.size then 251 :: Bytes.littleEndian 2 n
  else if n < UInt32.size then 252 :: Bytes.littleEndian 4 n
  else 253 :: Bytes.littleEndian 8 n

/-- The width of the number behind a byte. -/
def width? (mark : UInt8) : Option Nat :=
  match mark with
  | 251 => some 2
  | 252 => some 4
  | 253 => some 8
  | _ => none

/-- A number of limited width from the front of some bytes. -/
def decode? (maxWidth : Nat) : Bytes → Option (Nat × Bytes)
  | [] => none
  | mark :: rest =>
    if mark.toNat ≤ maxSmall then some (mark.toNat, rest)
    else do
      let width ← width? mark
      if width ≤ maxWidth ∧ width ≤ rest.length then
        return (Bytes.ofLittleEndian (rest.take width), rest.drop width)
      else none

end MethodTrace.Varint
