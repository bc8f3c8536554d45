/-!
The grammar of arguments.

An argument with two dashes is an option by its name; one with a single dash is made of options of
one character. The value of an option follows it in the same argument or is the next one. Behind two
dashes alone every argument is an operand.
-/

namespace MethodTrace.CommandLine

/-- Options without a value. -/
inductive Flag
  | quiet
  | verbose
  | incremental
  | disable
  | help
  | version
  deriving DecidableEq

/-- Options with a value. -/
inductive Parameter
  | settings
  | archive
  | directory
  | intermediate
  | output
  | includes
  | excludes
  | changes
  | jobs
  | report
  deriving DecidableEq

/-- An option of either sort. -/
inductive Meaning
  | flag (flag : Flag)
  | parameter (parameter : Parameter)
  deriving DecidableEq

/-- An option with its names. -/
structure Switch where
  long : String
  short : Option Char
  meaning : Meaning
  deriving DecidableEq

/-- What the first option of some kind means. -/
def meaning? (switches : List Switch) (isMeant : Switch → Bool) : Option Meaning :=
  (switches.find? isMeant).map (·.meaning)

/-- What arguments say, piece by piece. -/
inductive Item
  | flag (flag : Flag)
  | value (parameter : Parameter) (text : String)
  /-- An operand with the arguments behind it. -/
  | operand (text : String) (behind : List String)
  /-- An operand behind two dashes. -/
  | escaped (text : String)
  /-- Something that does not make sense; what follows is not looked at. -/
  | invalid
  deriving DecidableEq

/-- What one argument says. -/
inductive Reading
  | items (items : List Item)
  /-- Some items, and an option whose value has to be the next argument. -/
  | awaiting (items : List Item) (parameter : Parameter)
  deriving DecidableEq

namespace Reading

/-- An item before others. -/
def cons (item : Item) : Reading → Reading
  | items rest => items (item :: rest)
  | awaiting rest parameter => awaiting (item :: rest) parameter

/-- Reads an option by its name, with or without a value behind an equals sign. -/
def ofLong (switches : List Switch) (text : List Char) : Reading :=
  let (name, rest) := text.span (· != '=')
  match meaning? switches (·.long.toList == name), rest with
  | some (.flag flag), [] => items [.flag flag]
  | some (.parameter parameter), [] => awaiting [] parameter
  | some (.parameter parameter), _ :: value => items [.value parameter (String.ofList value)]
  | _, _ => items [.invalid]

/-- Reads options of one character; the first one that takes a value takes the rest. -/
def ofShort (switches : List Switch) : List Char → Reading
  | [] => items []
  | c :: rest =>
    match meaning? switches (·.short == some c), rest with
    | some (.flag flag), rest => (ofShort switches rest).cons (.flag flag)
    | some (.parameter parameter), [] => awaiting [] parameter
    | some (.parameter parameter), '=' :: value => items [.value parameter (String.ofList value)]
    | some (.parameter parameter), value => items [.value parameter (String.ofList value)]
    | none, _ => items [.invalid]

/-- Reads an argument, if it is not an operand. -/
def ofArgument? (switches : List Switch) (argument : String) : Option Reading :=
  match argument.toList with
  | '-' :: '-' :: text => some (ofLong switches text)
  | ['-'] => none
  | '-' :: text => some (ofShort switches text)
  | _ => none

end Reading

/-- Whether an argument cannot be the value of the option before it. -/
def isOption (argument : String) : Bool :=
  argument.startsWith "-" && argument != "-"

/-- What arguments say if some options are known. -/
def items (switches : List Switch) : List String → List Item
  | [] => []
  | "--" :: rest => rest.map .escaped
  | argument :: rest =>
    match Reading.ofArgument? switches argument, rest with
    | none, rest => .operand argument rest :: items switches rest
    | some (.items found), rest => found ++ items switches rest
    | some (.awaiting found parameter), value :: rest =>
      if isOption value then found ++ [.invalid]
      else found ++ .value parameter value :: items switches rest
    | some (.awaiting found _), [] => found ++ [.invalid]

end MethodTrace.CommandLine
