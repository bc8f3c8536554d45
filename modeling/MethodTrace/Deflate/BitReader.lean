import MethodTrace.Bytes

/-!
Reading of bits from bytes, the lowest bit of each byte first.
-/

namespace MethodTrace.Deflate

/-- What is left of a stream: some bits as a number, the next one lowest, and the bytes behind
them. -/
structure BitSource where
  pending : Nat
  count : Nat
  rest : Bytes

/-- Readers fail at the end of the stream. -/
abbrev BitReader := StateT BitSource Option

namespace BitReader

/-- Takes bytes until there are as many bits as wanted. -/
def fill (wanted pending count : Nat) : Bytes → Option BitSource
  | [] => if wanted ≤ count then some ⟨pending, count, []⟩ else none
  | byte :: rest =>
    if wanted ≤ count then some ⟨pending, count, byte :: rest⟩
    else fill wanted (pending + byte.toNat <<< count) (count + 8) rest

/-- Takes a number of some bits, the lowest one first. -/
def bits (width : Nat) : BitReader Nat := do
  let source ← get
  match fill width source.pending source.count source.rest with
  | some filled =>
    set { filled with pending := filled.pending >>> width, count := filled.count - width }
    return filled.pending % (1 <<< width)
  | none => failure

/-- Drops the bits up to the next whole byte. -/
def align : BitReader Unit :=
  modify fun source =>
    { source with
      pending := source.pending >>> (source.count % 8)
      count := source.count - source.count % 8 }

/-- The number of bits that are left. -/
def remaining : BitReader Nat := do
  let source ← get
  return source.count + 8 * source.rest.length

end BitReader

end MethodTrace.Deflate
