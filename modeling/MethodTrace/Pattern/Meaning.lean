import MethodTrace.Pattern.Parser
import MethodTrace.Pattern.Regex
import MethodTrace.Unicode.Folding

/-!
The regular expression that a pattern stands for.

Flags in force decide what characters, classes and assertions mean; they hold up to the end of the
group in which they are given. Without Unicode only what stays within ASCII has a meaning.
-/

namespace MethodTrace.Pattern

/-- The flags in force. -/
structure Flags where
  ignoreCase : Bool := false
  multiLine : Bool := false
  dotAll : Bool := false
  unicode : Bool := true
  crlf : Bool := false
  deriving DecidableEq

namespace Flags

/-- Turns one flag on or off. -/
def set (flags : Flags) : Flag × Bool → Flags
  | (.ignoreCase, on) => { flags with ignoreCase := on }
  | (.multiLine, on) => { flags with multiLine := on }
  | (.dotAll, on) => { flags with dotAll := on }
  | (.unicode, on) => { flags with unicode := on }
  | (.crlf, on) => { flags with crlf := on }
  | (.swapGreed, _) | (.verbose, _) => flags

def setAll (flags : Flags) (list : FlagList) : Flags :=
  list.foldl set flags

/-- The set with the cases of its members that count as equal. -/
def fold (flags : Flags) (set : CharSet) : CharSet :=
  if !flags.ignoreCase then set
  else if flags.unicode then Unicode.foldCase set
  else Unicode.foldAscii set

/-- The greatest number that a class can hold: of a character or of a byte. -/
def greatest (flags : Flags) : Nat :=
  if flags.unicode then CharSet.last else 255

/-- A set if it has a meaning. -/
def accept? (flags : Flags) (set : CharSet) : Option CharSet :=
  if flags.unicode || set.isAscii then some set else none

/-- A set after folding and, if asked for, negation. -/
def finish (flags : Flags) (negated : Bool) (set : CharSet) : Option CharSet :=
  let folded := flags.fold set
  flags.accept? (if negated then CharSet.complement flags.greatest folded else folded)

end Flags

/-- The ASCII class of an escape. -/
def asciiEscape (kind : EscapeClass) : CharSet :=
  let name := match kind with
    | .digit => "digit"
    | .space => "space"
    | .word => "word"
  ⟨((asciiClasses.find? (·.1 == name)).map (·.2)).getD []⟩

/-- The characters of words. -/
def wordChars : WordKind → CharSet
  | .unicode => Unicode.wordChars
  | .ascii => asciiEscape .word

/-- The characters of an escape. -/
def escapeChars (flags : Flags) (kind : EscapeClass) (negated : Bool) : Option CharSet :=
  let set :=
    if flags.unicode then
      match kind with
      | .digit => Unicode.digits
      | .space => Unicode.whitespace
      | .word => Unicode.wordChars
    else asciiEscape kind
  flags.accept? (if negated then CharSet.complement flags.greatest set else set)

/-- The characters that a property names. -/
def propertyChars (flags : Flags) (query : PropertyQuery) (negated : Bool) : Option CharSet := do
  if !flags.unicode then failure
  let set ← match query with
    | .named name => Unicode.characters? name
    | .valued property value => Unicode.charactersWith? property value
  flags.finish negated set

/-- A character that stands for itself, if it does so under the flags in force. -/
def literalChar (flags : Flags) (literal : Literal) : Option Char :=
  if !flags.unicode && literal.asByte && 127 < literal.char.toNat then none
  else some literal.char

/-- A character inside brackets, which without Unicode has to be ASCII. -/
def classChar (flags : Flags) (literal : Literal) : Option Nat :=
  if flags.unicode || literal.char.toNat < 128 then some literal.char.toNat else none

namespace SetOperation

def apply : SetOperation → CharSet → CharSet → CharSet
  | intersection => CharSet.intersection
  | difference => CharSet.difference
  | symmetricDifference => CharSet.symmetricDifference

end SetOperation

namespace ClassTree

mutual

/-- The characters of what stands inside brackets. -/
def chars? (flags : Flags) : ClassTree → Option CharSet
  | literal char => return ⟨[(← classChar flags char, ← classChar flags char)]⟩
  | range first final => return ⟨[(← classChar flags first, ← classChar flags final)]⟩
  | ascii ranges negated => flags.finish negated ⟨ranges⟩
  | escape kind negated => escapeChars flags kind negated
  | property query negated => propertyChars flags query negated
  | bracketed negated inner => do flags.finish negated (← inner.chars? flags)
  | union items => allChars? flags items
  | operation kind left right => do
    let left ← left.chars? flags
    let right ← right.chars? flags
    return kind.apply (flags.fold left) (flags.fold right)

def allChars? (flags : Flags) : List ClassTree → Option CharSet
  | [] => some CharSet.empty
  | item :: items => do
    let first ← item.chars? flags
    return first ∪ (← allChars? flags items)

end

end ClassTree

/-- The condition that an assertion makes under the flags in force. -/
def lookOf (flags : Flags) (assertion : Assertion) : Look :=
  let word (side : WordSide) : Look := .word side (if flags.unicode then .unicode else .ascii)
  match assertion with
  | .lineStart => if flags.multiLine then .lineStart flags.crlf else .textStart
  | .lineEnd => if flags.multiLine then .lineEnd flags.crlf else .textEnd
  | .textStart => .textStart
  | .textEnd => .textEnd
  | .wordBoundary => word .boundary
  | .notWordBoundary => word .notBoundary
  | .wordStart => word .start
  | .wordEnd => word .stop
  | .wordStartHalf => word .startHalf
  | .wordEndHalf => word .stopHalf

/-- The characters that a dot leaves out. -/
def dotExcluded (flags : Flags) : CharSet :=
  if flags.dotAll then CharSet.empty
  else if flags.crlf then ⟨[(10, 10), (13, 13)]⟩
  else ⟨[(10, 10)]⟩

/-- The expression of a single character or class. -/
def regexOfPrimitive (flags : Flags) : Primitive → Option Regex
  | .literal literal => do
    return .oneOf (flags.fold (CharSet.single (← literalChar flags literal)))
  | .dot =>
    if flags.unicode then some (.oneOf (CharSet.complement CharSet.last (dotExcluded flags)))
    else none
  | .assertion assertion => some (.look (lookOf flags assertion))
  | .escape kind negated => do return .oneOf (← escapeChars flags kind negated)
  | .property query negated => do return .oneOf (← propertyChars flags query negated)

namespace GroupKind

/-- The flags inside a group. -/
def enter (flags : Flags) : GroupKind → Flags
  | capture => flags
  | plain list => flags.setAll list

/-- The expression of a group with its inside. -/
def around (inner : Regex) : GroupKind → Regex
  | capture => .capture inner
  | plain _ => inner

end GroupKind

namespace Tree

mutual

/-- The expression of a pattern, and the flags in force behind it. -/
def toRegex? (flags : Flags) : Tree → Option (Regex × Flags)
  | empty => some (.empty, flags)
  | .flags list => some (.empty, flags.setAll list)
  | primitive item => do return (← regexOfPrimitive flags item, flags)
  | brackets negated inner => do
    return (.oneOf (← flags.finish negated (← inner.chars? flags)), flags)
  | repetition item least most => do
    let (item, flags) ← item.toRegex? flags
    return (.repetition item least most, flags)
  | group kind inner => do
    let (inner, _) ← inner.toRegex? (kind.enter flags)
    return (kind.around inner, flags)
  | alternation branches => choice? flags branches
  | concatenation items => sequence? flags items

/-- The choice between branches; there is always at least one. -/
def choice? (flags : Flags) : List Tree → Option (Regex × Flags)
  | [] => some (.oneOf CharSet.empty, flags)
  | [branch] => branch.toRegex? flags
  | branch :: branches => do
    let (first, flags) ← branch.toRegex? flags
    let (rest, flags) ← choice? flags branches
    return (.either first rest, flags)

def sequence? (flags : Flags) : List Tree → Option (Regex × Flags)
  | [] => some (.empty, flags)
  | item :: items => do
    let (first, flags) ← item.toRegex? flags
    let (rest, flags) ← sequence? flags items
    return (.seq first rest, flags)

end

end Tree

end MethodTrace.Pattern
