/-!
Readers, which take a value from the front of a text and leave the rest.
-/

namespace MethodTrace

/-- A reader of a value. It fails or returns the value with the rest of the text. -/
abbrev TextReader := StateT (List Char) Option

namespace TextReader

/-- The text without a beginning, if it has that beginning. -/
def after? : (start text : List Char) → Option (List Char)
  | [], text => some text
  | c :: start, d :: text => if c = d then after? start text else none
  | _ :: _, [] => none

/-- The next character, which stays. -/
def peek? : TextReader (Option Char) := return (← get).head?

/-- Takes the next character. -/
def next : TextReader Char := do
  match ← get with
  | [] => failure
  | c :: rest =>
    set rest
    return c

/-- Takes a given text if it comes next, and says whether it did. -/
def accept (text : String) : TextReader Bool := do
  match after? text.toList (← get) with
  | some rest =>
    set rest
    return true
  | none => return false

/-- Takes a given text, which has to come next. -/
def expect (text : String) : TextReader Unit := do
  if !(← accept text) then failure

/-- Takes characters as long as they pass a test. -/
def takeWhile (test : Char → Bool) : TextReader (List Char) := do
  let rest ← get
  set (rest.dropWhile test)
  return rest.takeWhile test

/-- Takes one character or more that pass a test. -/
def takeSome (test : Char → Bool) : TextReader (List Char) := do
  let taken ← takeWhile test
  if taken.isEmpty then failure
  return taken

/-- Reads values as long as a reader returns them; it stops by returning none. `fuel` bounds their
number. -/
def manyUpTo (item : TextReader (Option α)) : (fuel : Nat) → (found : Array α) → TextReader (List α)
  | 0, found => return found.toList
  | fuel + 1, found => do
    match ← item with
    | some value => manyUpTo item fuel (found.push value)
    | none => return found.toList

/-- Reads values as long as a reader returns them, each of which has to take a character. -/
def many (item : TextReader (Option α)) : TextReader (List α) := do
  manyUpTo item ((← get).length + 1) #[]

/-- Reads a text as a whole. -/
def readAll (item : TextReader α) (text : String) : Option α :=
  match item text.toList with
  | some (value, []) => some value
  | _ => none

end TextReader

end MethodTrace
