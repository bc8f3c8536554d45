import MethodTrace.Pattern.Tree
import MethodTrace.Unicode.Query

/-!
Reading of the small parts of patterns: characters, numbers, escapes, flags and names.

A scanner takes characters from the front of what is left. Inside a verbose group, white space and
comments are skipped between most of them.
-/

namespace MethodTrace.Pattern

/-- What a scanner has before it. -/
structure Scan where
  rest : List Char
  /-- Whether white space and comments are skipped. -/
  verbose : Bool
  /-- The names that groups have been given. -/
  names : List (List Char)

/-- A reader of patterns, which fails where the text is no pattern. -/
abbrev Scanner := StateT Scan Option

/-- Whether a character is white space. -/
def isBlank (c : Char) : Bool :=
  Unicode.whitespace.contains c

/-- Drops white space and comments, which reach from a number sign to the end of the line. -/
def skipBlank (inComment : Bool) : List Char → List Char
  | [] => []
  | c :: rest =>
    if inComment then skipBlank (c != '\n') rest
    else if isBlank c then skipBlank false rest
    else if c = '#' then skipBlank true rest
    else c :: rest

namespace Scanner

/-- The next character, if there is one. -/
def peek? : Scanner (Option Char) := return (← get).rest.head?

/-- The next character, which has to be there. -/
def peek : Scanner Char := do
  match (← get).rest with
  | c :: _ => return c
  | [] => failure

/-- Skips white space and comments in a verbose group. -/
def skip : Scanner Unit :=
  modify fun s => if s.verbose then { s with rest := skipBlank false s.rest } else s

/-- Takes the next character. -/
def bump : Scanner Unit :=
  modify fun s => { s with rest := s.rest.tail }

/-- Takes the next character and skips what may follow it. -/
def bumpSkip : Scanner Unit := do
  bump
  skip

/-- Takes a text if it comes next, and tells whether it did. -/
def take? (text : List Char) : Scanner Bool := do
  let s ← get
  if text.isPrefixOf s.rest then
    set { s with rest := s.rest.drop text.length }
    return true
  else return false

/-- Runs a reader that may find nothing, in which case it takes nothing. -/
def attempt (reader : Scanner (Option α)) : Scanner (Option α) := fun s =>
  match reader s with
  | some (some value, after) => some (some value, after)
  | some (none, _) => some (none, s)
  | none => none

/-- Takes characters as long as they pass a test, and skips after each; `fuel` bounds their
number. -/
def takeWhileSkip (test : Char → Bool) : (fuel : Nat) → Scanner (List Char)
  | 0 => return []
  | fuel + 1 => do
    match (← get).rest with
    | c :: _ =>
      if test c then
        bumpSkip
        return c :: (← takeWhileSkip test fuel)
      else return []
    | [] => return []

/-- Takes characters that pass a test, with blanks between them where these are skipped. -/
def takeAll (test : Char → Bool) : Scanner (List Char) := do
  takeWhileSkip test (← get).rest.length

/-- Takes blanks, which are allowed around numbers everywhere. -/
def skipBlanks : Scanner Unit := do
  modify fun s => { s with rest := s.rest.dropWhile isBlank }

/-- Reads a number of 32 bits. -/
def decimal : Scanner Nat := do
  skipBlanks
  let digits ← takeAll Char.isDigit
  skipBlanks
  skip
  let value := digits.foldl (fun n c => 10 * n + (c.toNat - 48)) 0
  if digits.isEmpty || UInt32.size ≤ value then failure
  return value

/-- The character of a number, if it has one. -/
def charOfNat (n : Nat) : Scanner Char :=
  if n.isValidChar then return Char.ofNat n else failure

def isHexDigit (c : Char) : Bool :=
  (Bytes.hexValue? c).isSome

/-- Reads the exact number of digits that an escape has. -/
def hexDigits : (count : Nat) → Scanner (List Char)
  | 0 => return []
  | count + 1 => do
    let c ← peek
    if !isHexDigit c then failure
    bumpSkip
    return c :: (← hexDigits count)

/-- The character that hexadecimal digits spell. -/
def charOfDigits (digits : List Char) : Scanner Char := do
  match Bytes.hexNumber? digits with
  | some n => charOfNat n
  | none => failure

/-- Reads a character by its number, after the letter that says how many digits it has. -/
def hexLiteral : Scanner Literal := do
  let letter ← peek
  let count := if letter = 'x' then 2 else if letter = 'u' then 4 else 8
  bumpSkip
  if (← peek) = '{' then
    bumpSkip
    let digits ← takeAll isHexDigit
    if (← peek) ≠ '}' then failure
    bumpSkip
    return ⟨← charOfDigits digits, false⟩
  else return ⟨← charOfDigits (← hexDigits count), count == 2⟩

/-- The property that the text inside the braces of a class names, and whether it is negated. -/
def queryOfName (name : String) : PropertyQuery × Bool :=
  match name.splitOn "!=" with
  | property :: value :: more => (.valued property ("!=".intercalate (value :: more)), true)
  | _ =>
    let mark := if name.contains ':' then ":" else "="
    match name.splitOn mark with
    | property :: value :: more => (.valued property (mark.intercalate (value :: more)), false)
    | _ => (.named name, false)

/-- Reads a class of a property, after the letter that introduces it. -/
def propertyClass : Scanner Primitive := do
  let negated := (← peek) == 'P'
  bumpSkip
  let c ← peek
  if c = '{' then
    bumpSkip
    let name ← takeAll (· != '}')
    let _ ← peek
    bump
    let (query, inverted) := queryOfName (String.ofList name)
    return .property query (negated != inverted)
  else if c = '\\' then failure
  else
    bumpSkip
    return .property (.named (String.singleton c)) negated

/-- Characters that have a meaning of their own somewhere in a pattern. -/
def isMeta (c : Char) : Bool :=
  "\\.+*?()|[]\x7b\x7d^$#&-~".toList.contains c

/-- Characters that may stand after a backslash for themselves. -/
def isEscapable (c : Char) : Bool :=
  isMeta c || (c.toNat < 128 && !c.isAlphanum && c != '<' && c != '>')

/-- Reads the braces that make a word boundary one-sided. Nothing is taken if they hold something
else, which may be a repetition. -/
def boundarySide? : Scanner (Option Assertion) :=
  attempt do
    bumpSkip
    let isNameChar (c : Char) : Bool := c.isAlpha || c == '-'
    if !isNameChar (← peek) then return none
    let name ← takeAll isNameChar
    if (← peek) ≠ '}' then failure
    bump
    match String.ofList name with
    | "start" => return some .wordStart
    | "end" => return some .wordEnd
    | "start-half" => return some .wordStartHalf
    | "end-half" => return some .wordEndHalf
    | _ => failure

/-- Reads what follows a backslash. -/
def escape : Scanner Primitive := do
  let c ← peek
  let literal (c : Char) : Scanner Primitive := return .literal ⟨c, false⟩
  if c == 'x' || c == 'u' || c == 'U' then return .literal (← hexLiteral)
  else if c == 'p' || c == 'P' then propertyClass
  else
    bump
    match c with
    | 'd' => return .escape .digit false
    | 'D' => return .escape .digit true
    | 's' => return .escape .space false
    | 'S' => return .escape .space true
    | 'w' => return .escape .word false
    | 'W' => return .escape .word true
    | 'a' => literal '\x07'
    | 'f' => literal '\x0c'
    | 't' => literal '\t'
    | 'n' => literal '\n'
    | 'r' => literal '\r'
    | 'v' => literal '\x0b'
    | 'A' => return .assertion .textStart
    | 'z' => return .assertion .textEnd
    | 'b' =>
      if (← peek?) = some '{' then
        return .assertion ((← boundarySide?).getD .wordBoundary)
      else return .assertion .wordBoundary
    | 'B' => return .assertion .notWordBoundary
    | '<' => return .assertion .wordStart
    | '>' => return .assertion .wordEnd
    | c => if isEscapable c then literal c else failure

/-- Reads a character that stands for itself or for a class. -/
def primitive : Scanner Primitive := do
  let c ← peek
  bump
  match c with
  | '\\' => escape
  | '.' => return .dot
  | '^' => return .assertion .lineStart
  | '$' => return .assertion .lineEnd
  | c => return .literal ⟨c, false⟩

/-- The flag of a letter. -/
def flagOfLetter? : Char → Option Flag
  | 'i' => some .ignoreCase
  | 'm' => some .multiLine
  | 's' => some .dotAll
  | 'U' => some .swapGreed
  | 'u' => some .unicode
  | 'R' => some .crlf
  | 'x' => some .verbose
  | _ => none

/-- Reads flags up to a colon or a closing parenthesis, which stays. A flag may be given once, and
the sign that turns flags off has to stand before one. -/
def flagsFrom (negated : Bool) (found : FlagList) : List Char → Option (FlagList × List Char)
  | [] => none
  | c :: rest =>
    if c = ':' ∨ c = ')' then some (found, c :: rest)
    else if c = '-' then
      match rest with
      | next :: _ =>
        if negated || next == ':' || next == ')' then none else flagsFrom true found rest
      | [] => none
    else do
      let flag ← flagOfLetter? c
      if found.any (·.1 == flag) then none
      else flagsFrom negated (found ++ [(flag, !negated)]) rest

/-- Reads the flags of a group. -/
def flags : Scanner FlagList := do
  let s ← get
  match flagsFrom false [] s.rest with
  | some (found, rest) =>
    set { s with rest }
    return found
  | none => failure

/-- Whether a character may stand in the name of a group. -/
def isNameChar (first : Bool) (c : Char) : Bool :=
  let letter := c == '_' || (Unicode.characters? "alphabetic").any (·.contains c)
  if first then letter
  else letter || c == '.' || c == '[' || c == ']'
    || (Unicode.category? "n").any (·.contains c)

/-- Reads the name of a group up to its closing bracket; no other group may have it. -/
def groupName : Scanner Unit := do
  let s ← get
  let name := s.rest.takeWhile (· != '>')
  let valid := match name with
    | [] => false
    | c :: rest => isNameChar true c && rest.all (isNameChar false)
  if !valid || s.rest.length == name.length || s.names.contains name then failure
  set { s with rest := s.rest.drop (name.length + 1), names := name :: s.names }

/-- What an opening parenthesis begins. -/
inductive Opening
  | group (kind : GroupKind)
  | flags (flags : FlagList)

/-- Reads the opening of a group. -/
def opening : Scanner Opening := do
  bump
  skip
  for text in ["?=", "?!", "?<=", "?<!"] do
    if ← take? text.toList then failure
  if (← take? "?P<".toList) || (← take? "?<".toList) then
    groupName
    return .group .capture
  else if ← take? ['?'] then
    let found ← flags
    let final ← peek
    bump
    if final = ')' then
      if found.isEmpty then failure
      return .flags found
    else return .group (.plain found)
  else return .group .capture

end Scanner

end MethodTrace.Pattern
