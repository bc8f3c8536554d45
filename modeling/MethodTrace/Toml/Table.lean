import MethodTrace.Toml.Value

/-!
Adding to tables.

A path leads through tables that are there and makes those that are not. What a path may pass
depends on whether a dotted key or a header names it.
-/

namespace MethodTrace.Toml

/-- Gives a name that is there another value. -/
def replaceField (name : String) (value : Value) (fields : Fields) : Fields :=
  fields.map fun field => if field.1 == name then (name, value) else field

/-- Changes the table at the end of a path. A dotted key cannot pass a table that has a header of
its own; neither it nor a header can pass other values than tables. -/
def editAt (dotted : Bool) (edit : Origin → Fields → Option Fields) :
    (path : List String) → Origin → Fields → Option Fields
  | [], origin, fields => edit origin fields
  | name :: path, _, fields =>
    match field? fields name with
    | none => do
      let origin := if dotted then Origin.dotted else .implied
      return fields ++ [(name, .table origin (← editAt dotted edit path origin []))]
    | some (.table origin inner) => do
      if origin = .inline ∨ (dotted ∧ origin = .header) then failure
      return replaceField name (.table origin (← editAt dotted edit path origin inner)) fields
    | some (.tables items) => do
      let last ← editAt dotted edit path .header (← items.getLast?)
      return replaceField name (.tables (items.dropLast ++ [last])) fields
    | some _ => none

/-- A key with its value; the last part of the key is the name of the field. -/
structure Assignment where
  path : List String
  name : String
  value : Value

/-- Adds a field that is new. A dotted key adds to a table that dotted keys have made, a simple one
to any other. -/
def addField (dottedKey : Bool) (name : String) (value : Value) (origin : Origin)
    (fields : Fields) : Option Fields :=
  if (origin == .dotted) != dottedKey || (field? fields name).isSome then none
  else some (fields ++ [(name, value)])

/-- Adds an assignment to a table. -/
def assign (origin : Origin) (fields : Fields) (assignment : Assignment) : Option Fields :=
  editAt true (addField (!assignment.path.isEmpty) assignment.name assignment.value)
    assignment.path origin fields

/-- What the header of a section names. -/
inductive Header
  | table (path : List String) (name : String)
  /-- One more table in a list of tables. -/
  | item (path : List String) (name : String)

/-- A header with the assignments below it. -/
structure Section where
  header : Header
  assignments : List Assignment

/-- Adds the table of a header, which no header and no key may have made before. -/
def addTable (name : String) (assignments : List Assignment) (fields : Fields) : Option Fields := do
  let inner ← match field? fields name with
    | none => some []
    | some (.table .implied inner) => some inner
    | some _ => none
  let others := fields.filter (·.1 != name)
  return others ++ [(name, .table .header (← assignments.foldlM (assign .header) inner))]

/-- Adds one more table to the list of a header. -/
def addItem (name : String) (assignments : List Assignment) (fields : Fields) : Option Fields := do
  let item ← assignments.foldlM (assign .header) []
  match field? fields name with
  | none => some (fields ++ [(name, .tables [item])])
  | some (.tables items) => some (replaceField name (.tables (items ++ [item])) fields)
  | some _ => none

/-- Adds a section to a document. -/
def addSection (document : Fields) (part : Section) : Option Fields :=
  match part.header with
  | .table path name =>
    editAt false (fun _ => addTable name part.assignments) path .header document
  | .item path name =>
    editAt false (fun _ => addItem name part.assignments) path .header document

mutual

/-- Closes a table that dotted keys have made. -/
def closeTable : Value → Value
  | .table .dotted fields => .table .inline (closeFields fields)
  | value => value

def closeFields : Fields → Fields
  | [] => []
  | (name, value) :: fields => (name, closeTable value) :: closeFields fields

end

/-- A table in braces from its assignments. It is closed with the tables that its keys make. -/
def inlineTable (assignments : List Assignment) : Option Value := do
  return .table .inline (closeFields (← assignments.foldlM (assign .inline) []))

end MethodTrace.Toml
