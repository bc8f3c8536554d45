import MethodTrace.Bytes.Hex
import MethodTrace.Text.Reader
import MethodTrace.Toml.Value

/-!
Reading of blanks, comments, strings, numbers and dates.
-/

namespace MethodTrace.Toml

open TextReader

def isBlank (c : Char) : Bool := c == ' ' || c == '\t'

/-- Whether a character may stand in comments and, apart from quotes, in strings. -/
def isPrintable (c : Char) : Bool :=
  c == '\t' || (' ' ≤ c && c.toNat != 127)

def blanks : TextReader Unit := do
  let _ ← takeWhile isBlank

/-- Takes the end of a line if there is one here. A carriage return has to be followed by a line
feed. -/
def newline? : TextReader Bool := do
  if ← accept "\r" then
    expect "\n"
    return true
  else accept "\n"

/-- Takes a comment, which begins here. -/
def comment : TextReader Unit := do
  expect "#"
  let _ ← takeWhile isPrintable

/-- Takes what may follow at the end of a line, and the end itself or that of the text. -/
def lineEnd : TextReader Unit := do
  blanks
  if (← peek?) = some '#' then comment
  if !(← newline?) then
    if (← peek?).isSome then failure

/-- Takes blanks, ends of lines, and comments that end with their lines. -/
def spaces : TextReader Unit := do
  let _ ← many (α := Unit) do
    match ← peek? with
    | some '#' =>
      comment
      if !(← newline?) then failure
      return some ()
    | some c =>
      if isBlank c then
        blanks
        return some ()
      else if ← newline? then return some ()
      else return none
    | none => return none

/-- Reads the character with a number of exactly `count` digits. -/
def codedChar (count : Nat) : TextReader (List Char) := do
  let digits := (← get).take count
  set ((← get).drop count)
  match Bytes.hexNumber? digits with
  | some n => if digits.length = count ∧ n.isValidChar then return [Char.ofNat n] else failure
  | none => failure

/-- Reads the character that an escape stands for, after the backslash. -/
def escape : TextReader (List Char) := do
  match ← next with
  | 'b' => return ['\x08']
  | 'f' => return ['\x0c']
  | 'n' => return ['\n']
  | 'r' => return ['\r']
  | 't' => return ['\t']
  | 'u' => codedChar 4
  | 'U' => codedChar 8
  | '\\' => return ['\\']
  | '"' => return ['"']
  | _ => failure

/-- Reads characters that stand for themselves between quotes of a kind, in which a backslash may
have a meaning. -/
def plainChars (quote : Char) (escapes : Bool) : TextReader (List Char) :=
  takeSome fun c => isPrintable c && c != quote && !(escapes && c == '\\')

/-- Reads a string of one line in double quotes. -/
def basicString : TextReader String := do
  expect "\""
  let pieces ← many do
    if ← accept "\"" then return none
    if ← accept "\\" then return some (← escape)
    return some (← plainChars '"' true)
  return String.ofList pieces.flatten

/-- Reads a string of one line in single quotes. -/
def literalString : TextReader String := do
  expect "'"
  let text ← takeWhile fun c => isPrintable c && c != '\''
  expect "'"
  return String.ofList text

/-- Takes the blanks and ends of lines after a backslash at the end of a line. -/
def continuation : TextReader (List Char) := do
  blanks
  if !(← newline?) then failure
  let _ ← many (α := Unit) do
    match ← peek? with
    | some c =>
      if isBlank c then
        blanks
        return some ()
      else if ← newline? then return some ()
      else return none
    | none => return none
  return []

/-- Reads what stands between a backslash and the text that goes on behind it. -/
def longEscape : TextReader (List Char) :=
  continuation <|> escape

/-- Takes the quotes at the end of a string of several lines. One or two of them may belong to the
string, which ends with the last three. -/
def closingQuotes (quote : Char) : TextReader (Option (List Char)) := do
  let rest ← get
  let quotes := rest.takeWhile (· == quote)
  if quotes.isEmpty then return none
  else if quotes.length < 3 then
    set (rest.drop quotes.length)
    return some quotes
  else
    set (rest.drop (min quotes.length 5))
    return some (quotes.take (min quotes.length 5 - 3))

/-- Reads the pieces of a string of several lines up to its end; `fuel` bounds their number. -/
def longPieces (quote : Char) (escapes : Bool) :
    (fuel : Nat) → (found : List (List Char)) → TextReader String
  | 0, _ => failure
  | fuel + 1, found => do
    let closes := (← get).take 3 == [quote, quote, quote]
    match ← closingQuotes quote with
    | some quotes =>
      if closes then return String.ofList (quotes :: found).reverse.flatten
      else longPieces quote escapes fuel (quotes :: found)
    | none =>
      if ← newline? then longPieces quote escapes fuel (['\n'] :: found)
      else if escapes && (← accept "\\") then
        longPieces quote escapes fuel ((← longEscape) :: found)
      else longPieces quote escapes fuel ((← plainChars quote escapes) :: found)

/-- Reads a string of several lines after its opening quotes. An end of line right behind them does
not belong to it. -/
def longString (quote : Char) (escapes : Bool) : TextReader String := do
  let _ ← newline?
  longPieces quote escapes ((← get).length + 1) []

/-- Reads a string of any kind. -/
def anyString : TextReader String := do
  if ← accept "\"\"\"" then longString '"' true
  else if ← accept "'''" then longString '\'' false
  else if (← peek?) = some '"' then basicString
  else literalString

/-- Takes digits of a kind, between any two of which an underscore may stand. -/
def separatedDigits (isDigit : Char → Bool) : TextReader (List Char) := do
  let first ← next
  if !isDigit first then failure
  let rest ← many do
    match ← get with
    | '_' :: c :: rest =>
      if isDigit c then
        set rest
        return some c
      else return none
    | c :: rest =>
      if isDigit c then
        set rest
        return some c
      else return none
    | [] => return none
  return first :: rest

/-- The number of integers of either sign, where zero counts as positive. -/
def integerLimit : Nat := UInt64.size / 2

/-- Reads a number in another base than ten. -/
def basedInteger (base : Nat) : TextReader Int := do
  let value (c : Char) : Nat := (Bytes.hexValue? c).getD base
  let digits ← separatedDigits (value · < base)
  let n := digits.foldl (fun n c => n * base + value c) 0
  if n < integerLimit then return Int.ofNat n else failure

def sign : TextReader (List Char) := do
  if ← accept "+" then return ['+']
  else if ← accept "-" then return ['-']
  else return []

/-- Takes a sign and the digits before a point: a zero, or digits that do not begin with one. -/
def wholePart : TextReader (List Char) := do
  let sign ← sign
  if ← accept "0" then return sign ++ ['0']
  else return sign ++ (← separatedDigits Char.isDigit)

/-- Reads a number in base ten, which has to fit into 64 bits. -/
def decimalInteger : TextReader Int := do
  let text ← wholePart
  let digits := text.filter Char.isDigit
  let n := digits.foldl (fun n c => n * 10 + (c.toNat - 48)) 0
  if text.head? = some '-' then
    if n ≤ integerLimit then return -Int.ofNat n else failure
  else if n < integerLimit then return Int.ofNat n
  else failure

def integer : TextReader Int := do
  if ← accept "0x" then basedInteger 16
  else if ← accept "0o" then basedInteger 8
  else if ← accept "0b" then basedInteger 2
  else decimalInteger

/-- Takes an exponent, which begins here. -/
def exponent : TextReader (List Char) := do
  let mark ← next
  if mark ≠ 'e' ∧ mark ≠ 'E' then failure
  let sign ← sign
  return mark :: sign ++ (← separatedDigits Char.isDigit)

/-- Reads a fractional number. -/
def float : TextReader String := do
  let special : TextReader (List Char) := do
    let sign ← sign
    if ← accept "inf" then return sign ++ "inf".toList
    expect "nan"
    return sign ++ "nan".toList
  let fractional : TextReader (List Char) := do
    let whole ← wholePart
    if ← accept "." then
      let digits ← separatedDigits Char.isDigit
      return whole ++ '.' :: digits ++ ((← optional exponent).getD [])
    else return whole ++ (← exponent)
  return String.ofList (← fractional <|> special)

/-- Reads a number of exactly `count` digits. -/
def fixedNumber (count : Nat) : TextReader Nat := do
  let digits := (← get).take count
  if digits.length ≠ count ∨ !digits.all Char.isDigit then failure
  set ((← get).drop count)
  return digits.foldl (fun n c => n * 10 + (c.toNat - 48)) 0

/-- The number of days in a month. -/
def daysInMonth (year month : Nat) : Nat :=
  if month = 2 then
    if year % 4 = 0 ∧ (year % 100 ≠ 0 ∨ year % 400 = 0) then 29 else 28
  else if [4, 6, 9, 11].contains month then 30
  else 31

/-- Takes a date. -/
def date : TextReader Unit := do
  let year ← fixedNumber 4
  expect "-"
  let month ← fixedNumber 2
  if month = 0 ∨ 12 < month then failure
  expect "-"
  let day ← fixedNumber 2
  if day = 0 ∨ daysInMonth year month < day then failure

/-- Takes a time of the day. -/
def time : TextReader Unit := do
  let hour ← fixedNumber 2
  expect ":"
  let minute ← fixedNumber 2
  expect ":"
  let second ← fixedNumber 2
  if 23 < hour ∨ 59 < minute ∨ 60 < second then failure
  if ← accept "." then
    let _ ← takeSome Char.isDigit

/-- Takes the distance of a time from the standard one. -/
def offset : TextReader Unit := do
  if (← accept "Z") || (← accept "z") then return
  let _ ← takeSome fun c => c == '+' || c == '-'
  let hour ← fixedNumber 2
  expect ":"
  let minute ← fixedNumber 2
  if 23 < hour ∨ 59 < minute then failure

/-- Reads a date, a time or both. -/
def moment : TextReader String := do
  let text ← get
  let dated : TextReader Unit := do
    date
    let _ ← optional do
      let mark ← next
      unless ['T', 't', ' '].contains mark do failure
      time
      optional offset
  dated <|> time
  return String.ofList (text.take (text.length - (← get).length))

/-- Reads a value that begins as a number does. -/
def numeric : TextReader Value :=
  .moment <$> moment <|> .float <$> float <|> .integer <$> integer

end MethodTrace.Toml
