import MethodTrace.Toml.Scalar
import MethodTrace.Toml.Table

/-!
Reading of TOML documents.
-/

namespace MethodTrace.Toml

open TextReader

/-- Reads one part of a key. -/
def keyPart : TextReader String := do
  match ← peek? with
  | some '"' => basicString
  | some '\'' => literalString
  | _ => return String.ofList (← takeSome fun c => c.isAlphanum || c == '-' || c == '_')

/-- Reads a key, whose parts are separated by dots. -/
def key : TextReader (List String) := do
  let part : TextReader String := do
    blanks
    let part ← keyPart
    blanks
    return part
  let first ← part
  let rest ← many do
    if ← accept "." then return some (← part) else return none
  return first :: rest

/-- Reads a key, an equals sign and a value. -/
def assignment (value : TextReader Value) : TextReader Assignment := do
  let parts ← key
  expect "="
  blanks
  let value ← value
  return ⟨parts.dropLast, parts.getLast?.getD "", value⟩

/-- Reads items that are separated by commas. Nothing is taken if there is none; a comma is taken
only with the item behind it. -/
def separated (item : TextReader α) : TextReader (List α) := do
  match ← optional item with
  | none => return []
  | some first =>
    let rest ← many <| optional do
      expect ","
      item
    return first :: rest

/-- Reads the rest of an array. A comma may follow the last item if there is one. -/
def arrayItems (value : TextReader Value) : TextReader Value := do
  if ← accept "]" then return .array []
  let items ← separated do
    spaces
    let item ← value
    spaces
    return item
  if !items.isEmpty then
    let _ ← accept ","
  spaces
  expect "]"
  return .array items

/-- Reads the rest of a table in braces. -/
def braced (value : TextReader Value) : TextReader Value := do
  if ← accept "\x7d" then return .table .inline []
  let assignments ← separated do
    let found ← assignment value
    blanks
    return found
  blanks
  expect "\x7d"
  match inlineTable assignments with
  | some table => return table
  | none => failure

/-- Reads a value, with readers for the rest of an array and of a table in braces. -/
def valueWith (array table : TextReader Value) : TextReader Value := do
  match ← peek? with
  | some '"' | some '\'' => return .string (← anyString)
  | some '[' =>
    let _ ← next
    array
  | some '{' =>
    let _ ← next
    table
  | some 't' =>
    expect "true"
    return .boolean true
  | some 'f' =>
    expect "false"
    return .boolean false
  | _ => numeric

/-- Reads a value in which arrays and tables may lie inside each other up to a depth. -/
def value : (depth : Nat) → TextReader Value
  | 0 => valueWith failure failure
  | depth + 1 => valueWith (arrayItems (value depth)) (braced (value depth))

/-- How deep arrays and tables may lie inside each other. -/
def maxDepth : Nat := 79

/-- A line of a document that says something. -/
inductive Line
  | header (header : Header)
  | assignment (assignment : Assignment)

/-- Reads a header. -/
def header : TextReader Header := do
  let several ← accept "[["
  if !several then expect "["
  let parts ← key
  expect (if several then "]]" else "]")
  let (path, name) := (parts.dropLast, parts.getLast?.getD "")
  return if several then .item path name else .table path name

/-- Reads the next line that says something, or none at the end of the text. -/
def line : TextReader (Option Line) := do
  let _ ← many (α := Unit) do
    blanks
    match ← peek? with
    | some '#' =>
      lineEnd
      return some ()
    | some '\n' | some '\r' =>
      let _ ← newline?
      return some ()
    | _ => return none
  match ← peek? with
  | none => return none
  | some '[' =>
    let found ← header
    lineEnd
    return some (.header found)
  | some _ =>
    let found ← assignment (value maxDepth)
    lineEnd
    return some (.assignment found)

/-- The assignments above all headers, and the sections, from the last line to the first. -/
def sections (lines : List Line) : List Assignment × List Section :=
  lines.foldr (fun line (above, parts) =>
    match line with
    | .header header => ([], ⟨header, above⟩ :: parts)
    | .assignment assignment => (assignment :: above, parts)) ([], [])

/-- The table that lines describe. -/
def tableOfLines (lines : List Line) : Option Value := do
  let (assignments, parts) := sections lines
  let top ← assignments.foldlM (assign .header) []
  return .table .header (← parts.foldlM addSection top)

/-- Reads the table that a text spells. It may begin with a byte order mark. -/
def parse? (text : String) : Option Value := do
  let document : TextReader (List Line) := do
    let _ ← accept "\ufeff"
    many line
  tableOfLines (← readAll document text)

end MethodTrace.Toml
