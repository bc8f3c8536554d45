/-!
JSON values, and the reading of records from them.
-/

namespace MethodTrace

/-- A JSON value. -/
inductive JsonValue
  | null
  | bool (value : Bool)
  /-- A number as it is written. -/
  | number (lexeme : String)
  /-- A string; none if an escape in it names half of a surrogate pair, so it spells no text. -/
  | string (text : Option String)
  | array (items : List JsonValue)
  /-- The members in their order; names may be repeated, and spell no text as strings may. -/
  | object (members : List (Option String × JsonValue))

namespace JsonValue

/-- A string value. -/
def ofString (text : String) : JsonValue :=
  .string (some text)

/-- An object with given members. -/
def ofMembers (members : List (String × JsonValue)) : JsonValue :=
  .object (members.map fun (name, value) => (some name, value))

/-- The text of a string. -/
def toText? : JsonValue → Option String
  | string text => text
  | _ => none

/-- The items of an array. -/
def toItems? : JsonValue → Option (List JsonValue)
  | array items => some items
  | _ => none

/-- The members of an object whose names all spell texts. -/
def toMembers? : JsonValue → Option (List (String × JsonValue))
  | object members => members.mapM fun (name, value) => return (← name, value)
  | _ => none

/-- The value of the only member of a name. -/
def onlyMember? (members : List (String × JsonValue)) (name : String) : Option JsonValue :=
  match members.filter (·.1 == name) with
  | [(_, value)] => some value
  | _ => none

/-- The values of a record's fields in the order of their names. A record is an object that has
each field once and may have members of other names, or an array of exactly the fields. -/
def toFields? (names : List String) : JsonValue → Option (List JsonValue)
  | array items => if items.length = names.length then some items else none
  | value => do
    let members ← value.toMembers?
    names.mapM (onlyMember? members)

/-- The name of a choice without content: a string, or an object with a null of that name. -/
def toChoice? : JsonValue → Option String
  | string text => text
  | object [(name, null)] => name
  | _ => none

end JsonValue

end MethodTrace
