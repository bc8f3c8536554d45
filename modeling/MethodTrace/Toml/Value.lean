/-!
TOML values and tables.

A table remembers how it came to be, because that decides how a document may go on to add to it.
-/

namespace MethodTrace.Toml

/-- How a table came to be. -/
inductive Origin
  /-- By a header of its own; the table of the whole document counts as such. -/
  | header
  /-- By the header of a table inside it. -/
  | implied
  /-- By a dotted key. -/
  | dotted
  /-- As a value in braces, which cannot be added to. -/
  | inline
  deriving DecidableEq

/-- A value. -/
inductive Value
  | string (text : String)
  | integer (n : Int)
  | boolean (b : Bool)
  /-- A fractional number as it is written. -/
  | float (lexeme : String)
  /-- A date or a time as it is written. -/
  | moment (lexeme : String)
  | array (items : List Value)
  | table (origin : Origin) (fields : List (String × Value))
  /-- Tables that repeated headers in double brackets have added. -/
  | tables (items : List (List (String × Value)))

/-- The fields of a table in their order. -/
abbrev Fields := List (String × Value)

/-- The value of a field. -/
def field? (fields : Fields) (name : String) : Option Value :=
  (fields.find? (·.1 == name)).map (·.2)

namespace Value

/-- The items of an array; the tables under one header are one. -/
def toItems? : Value → Option (List Value)
  | array items => some items
  | tables items => some (items.map (table .header))
  | _ => none

def toText? : Value → Option String
  | string text => some text
  | _ => none

def toBool? : Value → Option Bool
  | boolean b => some b
  | _ => none

/-- A number from zero up to the greatest that is allowed. -/
def toNat? (greatest : Nat) : Value → Option Nat
  | integer n => if 0 ≤ n ∧ n.toNat ≤ greatest then some n.toNat else none
  | _ => none

/-- The values of a record's fields in the order of their names, none for those that are left out.
A record is a table without other names, or an array of its first fields. -/
def toFields? (names : List String) : Value → Option (List (Option Value))
  | table _ fields =>
    if fields.all fun field => names.contains field.1 then some (names.map (field? fields))
    else none
  | value => do
    let items ← value.toItems?
    return (List.range names.length).map fun place => items[place]?

/-- Whether a value holds nothing. -/
def isEmpty : Value → Bool
  | array items => items.isEmpty
  | table _ fields => fields.isEmpty
  | tables items => items.isEmpty
  | _ => false

/-- The name of a choice without content: a string, or a table whose first field has that name and
is empty. A table in braces may have no other field. -/
def toChoice? : Value → Option String
  | string text => some text
  | table .inline [(name, content)] => if content.isEmpty then some name else none
  | table .inline _ => none
  | table _ ((name, content) :: _) => if content.isEmpty then some name else none
  | _ => none

end Value

end MethodTrace.Toml
