import MethodTrace.Bytes.Hex
import MethodTrace.Json.Value

/-!
Cutting of JSON texts into tokens.
-/

namespace MethodTrace.JsonValue

/-- A mark between values, or a value that is not made of others. -/
inductive Token
  | openBrace
  | closeBrace
  | openBracket
  | closeBracket
  | colon
  | comma
  | scalar (value : JsonValue)

/-- Whether a character may stand between tokens. -/
def isBlank (c : Char) : Bool :=
  c == ' ' || c == '\n' || c == '\t' || c == '\r'

/-- The text of characters and surrogates by their numbers; surrogates have to stand in pairs. -/
def textOfUnits? : List Nat → Option (List Char)
  | [] => some []
  | [unit] => if unit.isValidChar then some [Char.ofNat unit] else none
  | unit :: next :: units =>
    if 0xd800 ≤ unit ∧ unit < 0xdc00 ∧ 0xdc00 ≤ next ∧ next < 0xe000 then do
      let rest ← textOfUnits? units
      return Char.ofNat (0x10000 + (unit - 0xd800) * 0x400 + (next - 0xdc00)) :: rest
    else if unit.isValidChar then do
      return Char.ofNat unit :: (← textOfUnits? (next :: units))
    else none

/-- The character that an escape of one letter stands for. -/
def escapedChar? : Char → Option Char
  | '"' => some '"'
  | '\\' => some '\\'
  | '/' => some '/'
  | 'b' => some '\x08'
  | 'f' => some '\x0c'
  | 'n' => some '\n'
  | 'r' => some '\r'
  | 't' => some '\t'
  | _ => none

/-- Reads a string up to its closing quote, as the numbers of its characters and surrogates, the
last one first. -/
def stringUnits? (units : List Nat) : List Char → Option (List Nat × List Char)
  | [] => none
  | '"' :: rest => some (units, rest)
  | '\\' :: 'u' :: a :: b :: c :: d :: rest => do
    stringUnits? ((← Bytes.hexNumber? [a, b, c, d]) :: units) rest
  | '\\' :: letter :: rest => do stringUnits? ((← escapedChar? letter).toNat :: units) rest
  | c :: rest => if c < ' ' ∨ c = '\\' then none else stringUnits? (c.toNat :: units) rest

/-- Reads a string after its opening quote. -/
def string? (text : List Char) : Option (JsonValue × List Char) := do
  let (units, rest) ← stringUnits? [] text
  return (.string ((textOfUnits? units.reverse).map String.ofList), rest)

/-- Takes one digit or more. -/
def digits? (text : List Char) : Option (List Char × List Char) :=
  match text.takeWhile Char.isDigit with
  | [] => none
  | digits => some (digits, text.dropWhile Char.isDigit)

/-- Takes the digits before the point: a zero, or digits that do not begin with one. -/
def integerPart? : List Char → Option (List Char × List Char)
  | '0' :: rest => if rest.head?.any Char.isDigit then none else some (['0'], rest)
  | text => digits? text

/-- Takes a point with the digits behind it, if there is a point. -/
def fractionPart? : List Char → Option (List Char × List Char)
  | '.' :: rest => do
    let (digits, rest) ← digits? rest
    return ('.' :: digits, rest)
  | text => some ([], text)

/-- Takes an exponent, if there is one. -/
def exponentPart? : List Char → Option (List Char × List Char)
  | mark :: rest =>
    if mark = 'e' ∨ mark = 'E' then do
      let (sign, rest) := match rest with
        | '+' :: rest => (['+'], rest)
        | '-' :: rest => (['-'], rest)
        | rest => ([], rest)
      let (digits, rest) ← digits? rest
      return (mark :: sign ++ digits, rest)
    else some ([], mark :: rest)
  | [] => some ([], [])

/-- Reads a number. -/
def number? (text : List Char) : Option (JsonValue × List Char) := do
  let (sign, text) := match text with
    | '-' :: rest => (['-'], rest)
    | text => ([], text)
  let (whole, text) ← integerPart? text
  let (fraction, text) ← fractionPart? text
  let (exponent, text) ← exponentPart? text
  return (.number (String.ofList (sign ++ whole ++ fraction ++ exponent)), text)

/-- Reads the token that begins a text. -/
def token? : List Char → Option (Token × List Char)
  | '{' :: rest => some (.openBrace, rest)
  | '}' :: rest => some (.closeBrace, rest)
  | '[' :: rest => some (.openBracket, rest)
  | ']' :: rest => some (.closeBracket, rest)
  | ':' :: rest => some (.colon, rest)
  | ',' :: rest => some (.comma, rest)
  | 'n' :: 'u' :: 'l' :: 'l' :: rest => some (.scalar .null, rest)
  | 't' :: 'r' :: 'u' :: 'e' :: rest => some (.scalar (.bool true), rest)
  | 'f' :: 'a' :: 'l' :: 's' :: 'e' :: rest => some (.scalar (.bool false), rest)
  | '"' :: rest => (string? rest).map fun (value, rest) => (.scalar value, rest)
  | text => (number? text).map fun (value, rest) => (.scalar value, rest)

/-- Cuts a text into tokens, after those that have been found. Each token takes a character, so
`fuel` may be any bound on what is left. -/
def tokensFrom? : (fuel : Nat) → (found : Array Token) → List Char → Option (List Token)
  | 0, _, _ => none
  | fuel + 1, found, text =>
    match text.dropWhile isBlank with
    | [] => some found.toList
    | text =>
      match token? text with
      | some (token, rest) => tokensFrom? fuel (found.push token) rest
      | none => none

/-- The tokens of a text. -/
def tokens? (text : String) : Option (List Token) :=
  tokensFrom? (text.length + 1) #[] text.toList

end MethodTrace.JsonValue
