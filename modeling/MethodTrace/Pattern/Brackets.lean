import MethodTrace.Pattern.Scanner

/-!
Reading of classes in brackets, with nested classes and operations between them.
-/

namespace MethodTrace.Pattern

/-- The ASCII classes by name. -/
def asciiClasses : List (String × List (Nat × Nat)) :=
  [("alnum", [(48, 57), (65, 90), (97, 122)]),
   ("alpha", [(65, 90), (97, 122)]),
   ("ascii", [(0, 127)]),
   ("blank", [(9, 9), (32, 32)]),
   ("cntrl", [(0, 31), (127, 127)]),
   ("digit", [(48, 57)]),
   ("graph", [(33, 126)]),
   ("lower", [(97, 122)]),
   ("print", [(32, 126)]),
   ("punct", [(33, 47), (58, 64), (91, 96), (123, 126)]),
   ("space", [(9, 13), (32, 32)]),
   ("upper", [(65, 90)]),
   ("word", [(48, 57), (65, 90), (95, 95), (97, 122)]),
   ("xdigit", [(48, 57), (65, 70), (97, 102)])]

/-- A class that is still open: what was read before an operation, and the items after it. -/
structure OpenClass where
  negated : Bool
  left : Option (SetOperation × ClassTree)
  /-- The items so far, the last one first. -/
  items : List ClassTree

namespace OpenClass

def add (open_ : OpenClass) (item : ClassTree) : OpenClass :=
  { open_ with items := item :: open_.items }

/-- All that has been read so far as one class. -/
def toTree (open_ : OpenClass) : ClassTree :=
  let items := ClassTree.ofItems open_.items.reverse
  match open_.left with
  | some (kind, left) => .operation kind left items
  | none => items

/-- Goes on behind an operation; operations are applied from left to right. -/
def operate (open_ : OpenClass) (kind : SetOperation) : OpenClass :=
  { open_ with left := some (kind, open_.toTree), items := [] }

end OpenClass

namespace Scanner

/-- The next character after the present one, without taking any. -/
def peekSecond? : Scanner (Option Char) := return (← get).rest[1]?

/-- Drops blanks, and one number sign with the blanks behind it. -/
def dropMark (rest : List Char) : List Char :=
  match rest.dropWhile isBlank with
  | '#' :: rest => rest.dropWhile isBlank
  | rest => rest

/-- The next character after the present one that is not skipped. -/
def peekPastBlank? : Scanner (Option Char) := do
  let s ← get
  if !s.verbose then return s.rest[1]?
  match dropMark s.rest.tail with
  | c :: _ => return some c
  | [] => return s.rest[1]?

/-- Reads the opening of a class. Hyphens at its beginning stand for themselves, and so does a
closing bracket that would make it empty. -/
def openClass : Scanner OpenClass := do
  bumpSkip
  let negated := (← peek) == '^'
  if negated then bumpSkip
  let hyphens ← takeAll (· == '-')
  let literal (c : Char) : ClassTree := .literal ⟨c, false⟩
  let c ← peek
  if hyphens.isEmpty && c == ']' then
    bumpSkip
    let _ ← peek
    return ⟨negated, none, [literal ']']⟩
  else return ⟨negated, none, hyphens.map literal⟩

/-- Reads the name of an ASCII class in its colons; nothing is taken if there is none. -/
def asciiClass? : Scanner (Option ClassTree) :=
  attempt do
    let rest := (← get).rest
    match rest with
    | '[' :: ':' :: rest =>
      let (negated, rest) := match rest with
        | '^' :: rest => (true, rest)
        | rest => (false, rest)
      let name := String.ofList (rest.takeWhile (· != ':'))
      match rest.dropWhile (· != ':'), asciiClasses.find? (·.1 == name) with
      | ':' :: ']' :: rest, some (_, ranges) =>
        modify ({ · with rest })
        return some (.ascii ranges negated)
      | _, _ => return none
    | _ => return none

/-- Reads one character or escape of a class. -/
def classPrimitive : Scanner Primitive := do
  let c ← peek
  bump
  if c = '\\' then escape else return .literal ⟨c, false⟩

/-- An item of a class that is no range. -/
def itemOf : Primitive → Scanner ClassTree
  | .literal literal => return .literal literal
  | .escape kind negated => return .escape kind negated
  | .property query negated => return .property query negated
  | .dot | .assertion _ => failure

/-- A character that ends a range. -/
def rangeEnd : Primitive → Scanner Literal
  | .literal literal => return literal
  | _ => failure

/-- Reads an item of a class or a range of characters. -/
def classItem : Scanner ClassTree := do
  let first ← classPrimitive
  skip
  let c ← peek
  let next ← peekPastBlank?
  if c ≠ '-' ∨ next = some ']' ∨ next = some '-' then itemOf first
  else
    bumpSkip
    let final ← classPrimitive
    let first ← rangeEnd first
    let final ← rangeEnd final
    if final.char < first.char then failure
    return .range first final

/-- The operation that two equal characters stand for. -/
def operationOf? : Char → Option SetOperation
  | '&' => some .intersection
  | '-' => some .difference
  | '~' => some .symmetricDifference
  | _ => none

/-- Reads the rest of a class with the classes that it lies in; each step takes a character, so
`fuel` may be any bound on what is left. -/
def classRest : (fuel : Nat) → OpenClass → List OpenClass → Scanner Tree
  | 0, _, _ => failure
  | fuel + 1, current, outer => do
    skip
    let c ← peek
    if c = '[' then
      match ← asciiClass? with
      | some item => classRest fuel (current.add item) outer
      | none => classRest fuel (← openClass) (current :: outer)
    else if c = ']' then
      bump
      match outer with
      | [] => return .brackets current.negated current.toTree
      | parent :: outer =>
        classRest fuel (parent.add (.bracketed current.negated current.toTree)) outer
    else
      match operationOf? c with
      | some kind =>
        if (← peekSecond?) = some c then
          bump
          bump
          classRest fuel (current.operate kind) outer
        else classRest fuel (current.add (← classItem)) outer
      | none => classRest fuel (current.add (← classItem)) outer

/-- Reads a class in brackets. -/
def brackets : Scanner Tree := do
  let first ← openClass
  classRest ((← get).rest.length + 1) first []

end Scanner

end MethodTrace.Pattern
