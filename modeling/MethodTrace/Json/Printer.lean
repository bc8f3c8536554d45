import MethodTrace.Bytes.Hex
import MethodTrace.Json.Value

/-!
Writing of JSON values, on one line or with an item a line.
-/

namespace MethodTrace.JsonValue

/-- The characters that stand for one character of a string. -/
def escapeChar (c : Char) : List Char :=
  match c with
  | '"' => ['\\', '"']
  | '\\' => ['\\', '\\']
  | '\x08' => ['\\', 'b']
  | '\x0c' => ['\\', 'f']
  | '\n' => ['\\', 'n']
  | '\r' => ['\\', 'r']
  | '\t' => ['\\', 't']
  | c => if c < ' ' then '\\' :: 'u' :: Bytes.hexDigits 4 c.toNat else [c]

/-- A text between quotes. -/
def quoted (text : String) : String :=
  String.ofList ('"' :: text.toList.flatMap escapeChar ++ ['"'])

/-- A name or string; one that spells no text is left empty. -/
def quotedOrEmpty (text : Option String) : String :=
  quoted (text.getD "")

mutual

/-- A value on one line without blanks. -/
def compact : JsonValue → String
  | null => "null"
  | bool value => if value then "true" else "false"
  | number lexeme => lexeme
  | string text => quotedOrEmpty text
  | array items => "[" ++ ",".intercalate (compactItems items) ++ "]"
  | object members => "\x7b" ++ ",".intercalate (compactMembers members) ++ "\x7d"

def compactItems : List JsonValue → List String
  | [] => []
  | item :: items => item.compact :: compactItems items

def compactMembers : List (Option String × JsonValue) → List String
  | [] => []
  | (name, value) :: members =>
    (quotedOrEmpty name ++ ":" ++ value.compact) :: compactMembers members

end

/-- The blanks before a line at some depth. -/
def indent (depth : Nat) : String :=
  String.ofList (List.replicate (2 * depth) ' ')

/-- Lines between two marks, or the marks alone if there are none. -/
def block (depth : Nat) (first final : String) (lines : List String) : String :=
  if lines.isEmpty then first ++ final
  else
    let line (text : String) : String := indent (depth + 1) ++ text
    first ++ "\n" ++ ",\n".intercalate (lines.map line) ++ "\n" ++ indent depth ++ final

mutual

/-- A value with a line for each item and member, at some depth. -/
def prettyAt (depth : Nat) : JsonValue → String
  | array items => block depth "[" "]" (prettyItems depth items)
  | object members => block depth "\x7b" "\x7d" (prettyMembers depth members)
  | null => compact null
  | bool value => compact (bool value)
  | number lexeme => compact (number lexeme)
  | string text => compact (string text)

def prettyItems (depth : Nat) : List JsonValue → List String
  | [] => []
  | item :: items => prettyAt (depth + 1) item :: prettyItems depth items

def prettyMembers (depth : Nat) : List (Option String × JsonValue) → List String
  | [] => []
  | (name, value) :: members =>
    (quotedOrEmpty name ++ ": " ++ prettyAt (depth + 1) value) :: prettyMembers depth members

end

/-- A value with a line for each item and member. -/
def pretty (value : JsonValue) : String :=
  prettyAt 0 value

end MethodTrace.JsonValue
