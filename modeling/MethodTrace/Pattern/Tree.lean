/-!
Syntax trees of patterns, as they are written.
-/

namespace MethodTrace.Pattern

/-- The switches that change what the rest of a group means. -/
inductive Flag
  | ignoreCase
  | multiLine
  | dotAll
  | swapGreed
  | unicode
  | crlf
  | verbose
  deriving DecidableEq

/-- Switches in the order in which they are written, each with whether it is turned on. -/
abbrev FlagList := List (Flag × Bool)

/-- A single character; `asByte` marks one that is written as the two digits of a byte. -/
structure Literal where
  char : Char
  asByte : Bool
  deriving DecidableEq

/-- Places that match without taking a character. -/
inductive Assertion
  | lineStart
  | lineEnd
  | textStart
  | textEnd
  | wordBoundary
  | notWordBoundary
  | wordStart
  | wordEnd
  | wordStartHalf
  | wordEndHalf
  deriving DecidableEq

/-- Classes with an escape of their own. -/
inductive EscapeClass
  | digit
  | space
  | word
  deriving DecidableEq

/-- A class that is named by a property of characters. -/
inductive PropertyQuery
  | named (name : String)
  | valued (property value : String)
  deriving DecidableEq

/-- One thing in the text of a pattern that stands for itself or for a class. -/
inductive Primitive
  | literal (literal : Literal)
  | dot
  | assertion (assertion : Assertion)
  | escape (kind : EscapeClass) (negated : Bool)
  | property (query : PropertyQuery) (negated : Bool)
  deriving DecidableEq

/-- Operations on the classes inside brackets. -/
inductive SetOperation
  | intersection
  | difference
  | symmetricDifference
  deriving DecidableEq

/-- What stands inside brackets. -/
inductive ClassTree
  | literal (literal : Literal)
  | range (first final : Literal)
  | ascii (ranges : List (Nat × Nat)) (negated : Bool)
  | escape (kind : EscapeClass) (negated : Bool)
  | property (query : PropertyQuery) (negated : Bool)
  | bracketed (negated : Bool) (inner : ClassTree)
  | union (items : List ClassTree)
  | operation (kind : SetOperation) (left right : ClassTree)

/-- What opens a group. -/
inductive GroupKind
  | capture
  | plain (flags : FlagList)
  deriving DecidableEq

/-- A pattern. -/
inductive Tree
  | empty
  | flags (flags : FlagList)
  | primitive (primitive : Primitive)
  | brackets (negated : Bool) (inner : ClassTree)
  | repetition (item : Tree) (least : Nat) (most : Option Nat)
  | group (kind : GroupKind) (inner : Tree)
  | alternation (branches : List Tree)
  | concatenation (items : List Tree)

namespace ClassTree

/-- The union of items; one of them stands for itself. -/
def ofItems : List ClassTree → ClassTree
  | [item] => item
  | items => union items

mutual

/-- The number of constructions that lie inside each other. -/
def depth : ClassTree → Nat
  | literal _ | range _ _ | ascii _ _ | escape _ _ | property _ _ | union [] => 0
  | bracketed _ inner => inner.depth + 1
  | union (item :: items) => max item.depth (depthAll items) + 1
  | operation _ left right => max left.depth right.depth + 1

def depthAll : List ClassTree → Nat
  | [] => 0
  | item :: items => max item.depth (depthAll items)

end

end ClassTree

namespace Tree

/-- A sequence of items; one of them stands for itself. -/
def ofItems : List Tree → Tree
  | [] => empty
  | [item] => item
  | items => concatenation items

/-- A choice between branches; one of them stands for itself. -/
def ofBranches : List Tree → Tree
  | [branch] => branch
  | branches => alternation branches

mutual

/-- The number of constructions that lie inside each other. -/
def depth : Tree → Nat
  | empty | flags _ | primitive _ => 0
  | brackets _ inner => inner.depth + 1
  | repetition item _ _ => item.depth + 1
  | group _ inner => inner.depth + 1
  | alternation branches => depthAll branches + 1
  | concatenation items => depthAll items + 1

def depthAll : List Tree → Nat
  | [] => 0
  | item :: items => max item.depth (depthAll items)

end

end Tree

end MethodTrace.Pattern
