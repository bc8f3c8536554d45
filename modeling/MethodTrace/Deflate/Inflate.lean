import MethodTrace.Deflate.PrefixCode
import MethodTrace.Deflate.Token

/-!
Reading of the deflate format.

A stream is a sequence of blocks, the last of which says so; what follows it is not read. Readers
fail if the stream ends too early, unless it is empty, or breaks the rules of the format.
-/

namespace MethodTrace.Deflate

open BitReader

/-- Reads a number that is coded by its band. -/
def banded (bands : Array Band) (place : Nat) : BitReader Nat := do
  match bands[place]? with
  | some band => return band.first + (← bits band.extra)
  | none => failure

/-- Reads tokens up to the end of a block. Each takes a bit, so `fuel` may be any bound on what is
left. -/
def tokensOfBlock (main distances : PrefixCode) :
    (fuel : Nat) → (found : Array Token) → BitReader (Array Token)
  | 0, _ => failure
  | fuel + 1, found => do
    let symbol ← main.read
    if symbol < 256 then
      tokensOfBlock main distances fuel (found.push (.literal (UInt8.ofNat symbol)))
    else if symbol = 256 then return found
    else
      let length ← banded lengthBands (symbol - 257)
      let distance ← banded distanceBands (← distances.read)
      tokensOfBlock main distances fuel (found.push (.copy length distance))

/-- Reads the bytes of a block that is not compressed. -/
def plainTokens : (count : Nat) → (found : Array Token) → BitReader (Array Token)
  | 0, found => return found
  | count + 1, found => do
    let byte ← bits 8
    plainTokens count (found.push (.literal (UInt8.ofNat byte)))

/-- Reads a block that is not compressed: its length twice, the second time inverted, and its
bytes. -/
def plainBlock (found : Array Token) : BitReader (Array Token) := do
  align
  let length ← bits 16
  let inverted ← bits 16
  if length + inverted ≠ 0xffff then failure
  plainTokens length found

/-- The order in which the lengths of the words of the code for lengths are given. -/
def lengthOrder : List Nat :=
  [16, 17, 18, 0, 8, 7, 9, 6, 10, 5, 11, 4, 12, 3, 13, 2, 14, 1, 15]

/-- Reads the lengths of the words of the code for lengths. -/
def lengthCode (count : Nat) : BitReader PrefixCode := do
  let given ← (lengthOrder.take count).mapM fun symbol => return (symbol, ← bits 3)
  let lengths := given.foldl (fun lengths (symbol, length) => lengths.setIfInBounds symbol length)
    (Array.replicate 19 0)
  match PrefixCode.ofLengths? lengths with
  | some code => return code
  | none => failure

/-- Reads lengths of words until there are `total`. A symbol above fifteen repeats the length before
it or a zero; `fuel` bounds the number of symbols. -/
def wordLengths (code : PrefixCode) (total : Nat) :
    (fuel : Nat) → (found : Array Nat) → BitReader (Array Nat)
  | 0, found => if found.size = total then return found else failure
  | fuel + 1, found => do
    if total ≤ found.size then
      if found.size = total then return found else failure
    else
      let symbol ← code.read
      if symbol < 16 then wordLengths code total fuel (found.push symbol)
      else
        let (length, least, extra) ← match symbol, found.back? with
          | 16, some last => pure (last, 3, 2)
          | 16, none => failure
          | 17, _ => pure (0, 3, 3)
          | _, _ => pure (0, 11, 7)
        let times := least + (← bits extra)
        wordLengths code total fuel (found ++ Array.replicate times length)

/-- Reads a block with codes of its own. -/
def codedBlock (found : Array Token) : BitReader (Array Token) := do
  let mains := 257 + (← bits 5)
  let distances := 1 + (← bits 5)
  let words := 4 + (← bits 4)
  if 286 < mains ∨ 30 < distances then failure
  let code ← lengthCode words
  let lengths ← wordLengths code (mains + distances) (mains + distances) #[]
  match PrefixCode.ofLengths? (lengths.extract 0 mains),
      PrefixCode.ofLengths? (lengths.extract mains lengths.size) with
  | some main, some distances => tokensOfBlock main distances ((← remaining) + 1) found
  | _, _ => failure

/-- Reads blocks up to the last one. -/
def blocks : (fuel : Nat) → (found : Array Token) → BitReader (Array Token)
  | 0, _ => failure
  | fuel + 1, found => do
    let final ← bits 1
    let kind ← bits 2
    let found ← match kind with
      | 0 => plainBlock found
      | 1 =>
        tokensOfBlock PrefixCode.fixedMain PrefixCode.fixedDistances ((← remaining) + 1) found
      | 2 => codedBlock found
      | _ => failure
    if final = 1 then return found else blocks fuel found

/-- The tokens of a stream that has blocks. -/
def tokens? (stream : Bytes) : Option (Array Token) :=
  (·.1) <$> (blocks (8 * stream.length + 1) #[]).run ⟨0, 0, stream⟩

/-- The content of a stream, if it is well formed. A stream of no bytes has no content. -/
def inflate? (stream : Bytes) : Option Bytes :=
  if stream.isEmpty then some [] else (Token.expand ·.toList) <$> tokens? stream

end MethodTrace.Deflate
