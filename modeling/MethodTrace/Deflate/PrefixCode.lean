import MethodTrace.Deflate.BitReader

/-!
Canonical prefix codes, which are given by the lengths of their words.

Words of one length follow each other in the order of their symbols, and behind all shorter ones.
-/

namespace MethodTrace.Deflate

/-- The greatest length of a word. -/
def maxLength : Nat := 15

/-- A prefix code: the number of words of each length from one on, and the symbols in the order of
their words. -/
structure PrefixCode where
  counts : List Nat
  symbols : Array Nat

namespace PrefixCode

/-- The symbols with words of a length. -/
def symbolsOfLength (lengths : Array Nat) (length : Nat) : List Nat :=
  (List.range lengths.size).filter fun symbol => lengths[symbol]? == some length

/-- The code of given lengths, where zero means that a symbol has no word. -/
def ofLengths (lengths : Array Nat) : PrefixCode :=
  let byLength := (List.range' 1 maxLength).map (symbolsOfLength lengths)
  ⟨byLength.map List.length, byLength.flatten.toArray⟩

/-- The part of all texts of greatest length that begin with a word, counted in such texts. -/
def covered (code : PrefixCode) : Nat :=
  code.counts.foldl (fun total count => 2 * total + count) 0

/-- Whether every text begins with exactly one word, or there is at most one word. -/
def isUsable (code : PrefixCode) : Bool :=
  code.symbols.size ≤ 1 || code.covered == 1 <<< maxLength

/-- The code of given lengths if it can be used. -/
def ofLengths? (lengths : Array Nat) : Option PrefixCode :=
  let code := ofLengths lengths
  if code.isUsable then some code else none

/-- Reads a word bit by bit: `value` is what has been read, `first` the value of the first word of
its length and `place` the place of that word among all. -/
def readFrom (symbols : Array Nat) (value first place : Nat) : (counts : List Nat) → BitReader Nat
  | [] => failure
  | count :: counts => do
    let value := 2 * value + (← BitReader.bits 1)
    let first := 2 * first
    if value < first + count then
      match symbols[place + (value - first)]? with
      | some symbol => return symbol
      | none => failure
    else readFrom symbols value (first + count) (place + count) counts

/-- Reads a symbol. -/
def read (code : PrefixCode) : BitReader Nat :=
  readFrom code.symbols 0 0 0 code.counts

/-- The lengths of the fixed code for bytes and lengths. -/
def fixedLengths : Array Nat :=
  Array.replicate 144 8 ++ Array.replicate 112 9 ++ Array.replicate 24 7 ++ Array.replicate 8 8

/-- The fixed code for bytes and lengths. -/
def fixedMain : PrefixCode := ofLengths fixedLengths

/-- The fixed code for distances. -/
def fixedDistances : PrefixCode := ofLengths (Array.replicate 32 5)

end PrefixCode

end MethodTrace.Deflate
