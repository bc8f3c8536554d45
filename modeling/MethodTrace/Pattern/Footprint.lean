import MethodTrace.Pattern.Regex
import MethodTrace.Unicode.Encoding

/-!
The memory that an expression would take as an automaton over bytes, and the limit on it.

A repetition with counts is written out as often as its counts say, so nested counts multiply. The
footprint is computed from the expression alone and bounds the work that a match can cause.
-/

namespace MethodTrace.Pattern

/-- The bytes that a state takes. -/
def stateSize : Nat := 32

/-- The bytes of a transition in a state with several. -/
def transitionSize : Nat := 8

/-- The bytes of an alternative of a branching state. -/
def alternativeSize : Nat := 4

/-- The number of leading ranges in which two blocks agree. -/
def sharedLength : Unicode.ByteBlock → Unicode.ByteBlock → Nat
  | a :: as, b :: bs => if a = b then sharedLength as bs + 1 else 0
  | _, _ => 0

/-- The bytes for blocks that share their beginnings with the block before. -/
def blocksSize (before : Unicode.ByteBlock) : List Unicode.ByteBlock → Nat
  | [] => 0
  | block :: blocks =>
    (block.length - sharedLength before block) * stateSize + alternativeSize
      + blocksSize block blocks

/-- The bytes of a set of characters. -/
def charsSize (chars : CharSet) : Nat :=
  match chars.ranges with
  | [(first, final)] =>
    if first = final then (Unicode.bytesOfNat first).length * stateSize
    else if final < 128 then 2 * stateSize
    else 2 * stateSize + blocksSize [] (Unicode.blocksOf chars)
  | ranges =>
    if chars.isAscii then 2 * stateSize + ranges.length * transitionSize
    else 2 * stateSize + blocksSize [] (Unicode.blocksOf chars)

namespace Regex

/-- Whether only the empty text can match. -/
def isEmptyOnly : Regex → Bool
  | empty | look _ => true
  | oneOf _ => false
  | seq first second | either first second => first.isEmptyOnly && second.isEmptyOnly
  | repetition item _ most => item.isEmptyOnly || most == some 0
  | capture item => item.isEmptyOnly

/-- Whether the empty text can match. -/
def canBeEmpty : Regex → Bool
  | empty | look _ => true
  | oneOf _ => false
  | seq first second => first.canBeEmpty && second.canBeEmpty
  | either first second => first.canBeEmpty || second.canBeEmpty
  | repetition item least _ => item.canBeEmpty || least == 0
  | capture item => item.canBeEmpty

/-- The bytes of a number of copies. -/
def copiesSize (item count : Nat) : Nat :=
  if count = 0 then stateSize else count * item

/-- The bytes of a repetition of an item of a given size. -/
def repetitionSize (item : Nat) (canBeEmpty : Bool) (least : Nat) : (most : Option Nat) → Nat
  | none =>
    if least = 0 then
      if canBeEmpty then item + 3 * stateSize + 4 * alternativeSize
      else item + stateSize + alternativeSize
    else least * item + stateSize + alternativeSize
  | some most =>
    if most = 0 then stateSize
    else if least = most then least * item
    else if least = 0 && most = 1 then item + 2 * stateSize + 2 * alternativeSize
    else copiesSize item least + stateSize
      + (most - least) * (item + stateSize + 2 * alternativeSize)

/-- The bytes of an expression, and those of it as an alternative of a choice around it. -/
def sizes : Regex → Nat × Nat
  | empty => one stateSize
  | look _ => one stateSize
  | oneOf chars => one (charsSize chars)
  | seq first empty => one first.sizes.1
  | seq empty second => one second.sizes.1
  | seq first second => one (first.sizes.1 + second.sizes.1)
  | either first second =>
    let inner := first.sizes.2 + second.sizes.2
    (inner + 2 * stateSize, inner)
  | repetition item least most =>
    if item.isEmptyOnly then
      one (repetitionSize item.sizes.1 true (min least 1) (some (min (most.getD 1) 1)))
    else one (repetitionSize item.sizes.1 item.canBeEmpty least most)
  | capture item => one (item.sizes.1 + 2 * stateSize)
where
  /-- The sizes of an expression that is no choice. -/
  one (size : Nat) : Nat × Nat := (size, size + alternativeSize)

/-- The bytes of the automaton of an expression, with those of the match itself. -/
def footprint (regex : Regex) : Nat :=
  regex.sizes.1 + 4 * stateSize

end Regex

/-- How many bytes an automaton may take. -/
def maxFootprint : Nat := 10 * 1024 * 1024

end MethodTrace.Pattern
