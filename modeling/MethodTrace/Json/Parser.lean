import MethodTrace.Json.Token

/-!
Reading of JSON values from tokens.

The reader takes one token after the other. It keeps the arrays and objects that are still open, so
that a text may nest them to any depth.
-/

namespace MethodTrace.JsonValue

/-- An array or object that is still open, with what it holds so far, the last one first. -/
inductive Container
  | array (items : List JsonValue)
  /-- An object with the name whose value comes next. -/
  | object (members : List (Option String × JsonValue)) (name : Option String)

/-- What has to come next. -/
inductive Expected
  | value
  /-- A value, or the end of the array that has just been opened. -/
  | firstItem
  | name (members : List (Option String × JsonValue))
  /-- A name, or the end of the object that has just been opened. -/
  | firstName
  | colon (members : List (Option String × JsonValue)) (name : Option String)
  /-- A comma or the end of what is open, after a value in it. -/
  | more (container : Container)
  /-- Nothing: a whole value has been read. -/
  | nothing (value : JsonValue)

/-- The state of the reader. -/
structure Parse where
  expected : Expected
  outer : List Container

namespace Parse

def start : Parse := ⟨.value, []⟩

/-- Adds a value to what is open. -/
def complete (value : JsonValue) : List Container → Parse
  | [] => ⟨.nothing value, []⟩
  | .array items :: outer => ⟨.more (.array (value :: items)), outer⟩
  | .object members name :: outer => ⟨.more (.object ((name, value) :: members) none), outer⟩

/-- Takes a token where a value is expected. -/
def value? (outer : List Container) : Token → Option Parse
  | .scalar value => some (complete value outer)
  | .openBracket => some ⟨.firstItem, outer⟩
  | .openBrace => some ⟨.firstName, outer⟩
  | _ => none

/-- Takes a token where a name is expected. -/
def name? (members : List (Option String × JsonValue)) (outer : List Container) :
    Token → Option Parse
  | .scalar (.string name) => some ⟨.colon members name, outer⟩
  | _ => none

/-- Takes a token behind a value in an array or object. -/
def more? (container : Container) (outer : List Container) : Token → Option Parse :=
  match container with
  | .array items => fun
    | .comma => some ⟨.value, .array items :: outer⟩
    | .closeBracket => some (complete (.array items.reverse) outer)
    | _ => none
  | .object members _ => fun
    | .comma => some ⟨.name members, outer⟩
    | .closeBrace => some (complete (.object members.reverse) outer)
    | _ => none

/-- Takes one token. -/
def step? (parse : Parse) (token : Token) : Option Parse :=
  match parse.expected, token with
  | .value, token => value? parse.outer token
  | .firstItem, .closeBracket => some (complete (.array []) parse.outer)
  | .firstItem, token => value? (.array [] :: parse.outer) token
  | .firstName, .closeBrace => some (complete (.object []) parse.outer)
  | .firstName, token => name? [] parse.outer token
  | .name members, token => name? members parse.outer token
  | .colon members name, .colon => some ⟨.value, .object members name :: parse.outer⟩
  | .colon _ _, _ => none
  | .more container, token => more? container parse.outer token
  | .nothing _, _ => none

/-- The value that has been read as a whole. -/
def result? (parse : Parse) : Option JsonValue :=
  match parse.expected with
  | .nothing value => some value
  | _ => none

end Parse

/-- Reads the value that a text spells. -/
def parse? (text : String) : Option JsonValue := do
  (← (← tokens? text).foldlM Parse.step? Parse.start).result?

end MethodTrace.JsonValue
