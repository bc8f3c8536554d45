import MethodTrace.Unicode.CharSet

/-!
Regular expressions and what they match.

A set of places in a text is a mask: for each place whether it is in the set. `Regex.run` leads from
the places where an expression may begin to match to those where it may end.
-/

namespace MethodTrace.Pattern

/-- The characters of which words are made. -/
inductive WordKind
  | unicode
  | ascii
  deriving DecidableEq

/-- What words have to do with a place. -/
inductive WordSide
  | boundary
  | notBoundary
  | start
  | stop
  | startHalf
  | stopHalf
  deriving DecidableEq

/-- A condition on a place in a text. -/
inductive Look
  | textStart
  | textEnd
  /-- After a line feed; `crlf` makes a carriage return end lines too. -/
  | lineStart (crlf : Bool)
  | lineEnd (crlf : Bool)
  | word (side : WordSide) (kind : WordKind)
  deriving DecidableEq

/-- A regular expression. -/
inductive Regex
  | empty
  | oneOf (chars : CharSet)
  | look (look : Look)
  | seq (first second : Regex)
  | either (first second : Regex)
  | repetition (item : Regex) (least : Nat) (most : Option Nat)
  /-- A group whose extent could be asked for; it matches what its inside matches. -/
  | capture (item : Regex)
  deriving DecidableEq

/-- A text to be searched, with the characters of words in it. -/
structure Subject where
  text : Array Char
  wordChars : WordKind → CharSet

namespace Subject

/-- The character before a place, if there is one. -/
def before? (subject : Subject) (place : Nat) : Option Char :=
  if place = 0 then none else subject.text[place - 1]?

/-- The character after a place, if there is one. -/
def after? (subject : Subject) (place : Nat) : Option Char :=
  subject.text[place]?

/-- Whether a place is at the beginning of a line. -/
def atLineStart (subject : Subject) (crlf : Bool) (place : Nat) : Bool :=
  match subject.before? place with
  | none => true
  | some c => c == '\n' || (crlf && c == '\r' && subject.after? place != some '\n')

/-- Whether a place is at the end of a line. -/
def atLineEnd (subject : Subject) (crlf : Bool) (place : Nat) : Bool :=
  match subject.after? place with
  | none => true
  | some c =>
    if crlf then c == '\r' || (c == '\n' && subject.before? place != some '\r') else c == '\n'

/-- Whether words are at a place in the way that is asked for. -/
def wordHolds (side : WordSide) (before after : Bool) : Bool :=
  match side with
  | .boundary => before != after
  | .notBoundary => before == after
  | .start => !before && after
  | .stop => before && !after
  | .startHalf => !before
  | .stopHalf => !after

/-- Whether a place meets a condition. -/
def holds (subject : Subject) (place : Nat) : Look → Bool
  | .textStart => place == 0
  | .textEnd => place == subject.text.size
  | .lineStart crlf => subject.atLineStart crlf place
  | .lineEnd crlf => subject.atLineEnd crlf place
  | .word side kind =>
    let isWord (c : Option Char) : Bool := c.any (subject.wordChars kind).contains
    wordHolds side (isWord (subject.before? place)) (isWord (subject.after? place))

end Subject

/-- For each place of a text whether it belongs to a set. -/
abbrev Mask := Array Bool

namespace Mask

def union (a b : Mask) : Mask :=
  Array.zipWith (· || ·) a b

/-- The mask with everything that a step adds, again and again; `fuel` bounds the number of steps,
each of which but the last adds a place. -/
def closure (step : Mask → Mask) : (fuel : Nat) → Mask → Mask
  | 0, mask => mask
  | fuel + 1, mask =>
    let next := mask.union (step mask)
    if next = mask then mask else closure step fuel next

/-- Takes a step a number of times. -/
def iterate (step : Mask → Mask) (count : Nat) (mask : Mask) : Mask :=
  Nat.repeat step count mask

end Mask

namespace Regex

/-- The places where a match can end that begins at one of some places. -/
def run (subject : Subject) : Regex → Mask → Mask
  | empty, mask => mask
  | oneOf chars, mask =>
    (Array.range mask.size).map fun place =>
      place != 0 && mask[place - 1]?.getD false
        && (subject.text[place - 1]?.any chars.contains)
  | look condition, mask =>
    mask.mapIdx fun place inside => inside && subject.holds place condition
  | seq first second, mask => second.run subject (first.run subject mask)
  | either first second, mask => (first.run subject mask).union (second.run subject mask)
  | repetition item least most, mask =>
    let start := Mask.iterate (item.run subject) least mask
    match most with
    | none => Mask.closure (item.run subject) start.size start
    | some most => Mask.closure (item.run subject) (most - least) start
  | capture item, mask => item.run subject mask

/-- Whether an expression matches some part of a text. -/
def search (regex : Regex) (subject : Subject) : Bool :=
  (regex.run subject (Array.replicate (subject.text.size + 1) true)).any id

end Regex

end MethodTrace.Pattern
