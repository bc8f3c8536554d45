import MethodTrace.Deflate.Matches
import MethodTrace.Deflate.PrefixCode

/-!
Writing of the deflate format.

Content is written as one block with the fixed codes, or, at level zero, in blocks that are not
compressed. What is written depends on the content and the level alone.
-/

namespace MethodTrace.Deflate

/-- What has been written: whole bytes, and bits that do not fill one, as a number. -/
structure BitSink where
  bytes : Array UInt8 := #[]
  pending : Nat := 0
  count : Nat := 0

namespace BitSink

/-- Moves whole bytes out of the pending bits; `fuel` bounds their number. -/
def flush : (fuel : Nat) → BitSink → BitSink
  | 0, sink => sink
  | fuel + 1, sink =>
    if sink.count < 8 then sink
    else flush fuel
      ⟨sink.bytes.push (UInt8.ofNat sink.pending), sink.pending / 256, sink.count - 8⟩

/-- Writes a number of some bits, the lowest one first. -/
def bits (sink : BitSink) (width value : Nat) : BitSink :=
  flush (width / 8 + 1)
    ⟨sink.bytes, sink.pending + (value % (1 <<< width)) <<< sink.count, sink.count + width⟩

/-- Writes the lowest bits of a number, the highest one first. -/
def word (sink : BitSink) : (width value : Nat) → BitSink
  | 0, _ => sink
  | width + 1, value => (sink.bits 1 (value >>> width)).word width value

/-- All bytes, where zeros fill the last one. -/
def toBytes (sink : BitSink) : Bytes :=
  (if sink.count = 0 then sink.bytes else sink.bytes.push (UInt8.ofNat sink.pending)).toList

end BitSink

/-- Writes a symbol in the fixed code for bytes and lengths. -/
def writeSymbol (sink : BitSink) (symbol : Nat) : BitSink :=
  if symbol < 144 then sink.word 8 (0x30 + symbol)
  else if symbol < 256 then sink.word 9 (0x190 + (symbol - 144))
  else if symbol < 280 then sink.word 7 (symbol - 256)
  else sink.word 8 (0xc0 + (symbol - 280))

/-- Writes the place of a number in its band. -/
def writeExtra (sink : BitSink) (bands : Array Band) (place n : Nat) : BitSink :=
  match bands[place]? with
  | some band => sink.bits band.extra (n - band.first)
  | none => sink

/-- Writes a token in the fixed codes. -/
def writeToken (sink : BitSink) : Token → BitSink
  | .literal byte => writeSymbol sink byte.toNat
  | .copy length distance =>
    let lengthPlace := bandOf lengthBands length
    let distancePlace := bandOf distanceBands distance
    let sink := writeExtra (writeSymbol sink (257 + lengthPlace)) lengthBands lengthPlace length
    writeExtra (sink.word 5 distancePlace) distanceBands distancePlace distance

/-- A block with the fixed codes, which ends the stream. -/
def fixedBlock (tokens : List Token) : Bytes :=
  let sink := tokens.foldl writeToken ((BitSink.bits {} 1 1).bits 2 1)
  (writeSymbol sink 256).toBytes

/-- Content in blocks that are not compressed; `fuel` bounds their number. -/
def plainBlocks : (fuel : Nat) → Bytes → Bytes
  | 0, _ => []
  | fuel + 1, content =>
    let part := content.take 0xffff
    let rest := content.drop 0xffff
    let final : UInt8 := if rest.isEmpty then 1 else 0
    final :: Bytes.littleEndian 2 part.length ++ Bytes.littleEndian 2 (0xffff - part.length)
      ++ part ++ (if rest.isEmpty then [] else plainBlocks fuel rest)

/-- A stream with some content. A higher level tries more copies. -/
def deflate (level : Nat) (content : Bytes) : Bytes :=
  if level = 0 then plainBlocks (content.length / 0xffff + 1) content
  else fixedBlock (tokensOf (8 * min level 9) content)

end MethodTrace.Deflate
