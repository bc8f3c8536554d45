import MethodTrace.CommandLine.Arguments

/-!
Commands: what arguments ask for.
-/

namespace MethodTrace.CommandLine

/-- Why arguments ask for no command. -/
inductive Stop
  | usage
  | help
  | version
  deriving DecidableEq

/-- What is said before or behind the name of a command. -/
structure Given where
  flags : List Flag := []
  values : List (Parameter × String) := []
  operands : List String := []
  deriving DecidableEq

/-- The options that are known in some part of the arguments, and whether operands are. -/
structure Grammar where
  switches : List Switch
  takesOperands : Bool

/-- How the report of a run is given. -/
inductive ReportFormat
  | text
  | json
  deriving DecidableEq

/-- The options of every command. -/
structure GlobalOptions where
  quiet : Bool
  verbose : Bool
  settings : Option String
  deriving DecidableEq

/-- Patterns that replace those of the settings. -/
structure PatternOptions where
  includes : List String
  excludes : List String
  deriving DecidableEq

/-- The options of a run. -/
structure RunOptions where
  archives : List String
  directories : List String
  intermediate : String
  output : String
  patterns : PatternOptions
  changes : Option String
  incremental : Bool
  jobs : Option Nat
  disable : Bool
  report : ReportFormat
  deriving DecidableEq

/-- A command with its options. -/
inductive Command
  /-- Traces the inputs of a build. -/
  | run (options : RunOptions)
  /-- Tells which tags the patterns select. -/
  | matchTags (patterns : PatternOptions) (tags : List String)
  deriving DecidableEq

namespace ReportFormat

def ofName? : String → Option ReportFormat
  | "text" => some text
  | "json" => some json
  | _ => none

end ReportFormat

namespace Parameter

/-- Whether an option may be given several times. -/
def isRepeatable : Parameter → Bool
  | archive | directory | includes | excludes => true
  | settings | intermediate | output | changes | jobs | report => false

/-- A number of workers: digits, perhaps behind a plus sign. -/
def jobsOf? (text : String) : Option Nat :=
  let digits := match text.toList with
    | '+' :: digits => digits
    | digits => digits
  if digits.isEmpty || !digits.all Char.isDigit then none
  else
    let n := digits.foldl (fun n c => 10 * n + (c.toNat - '0'.toNat)) 0
    if n < UInt64.size then some n else none

/-- Whether a text is a value of an option. -/
def accepts (parameter : Parameter) (text : String) : Bool :=
  match parameter with
  | settings | archive | directory | intermediate | output | changes => text != ""
  | includes | excludes => true
  | jobs => (jobsOf? text).isSome
  | report => (ReportFormat.ofName? text).isSome

end Parameter

namespace Given

/-- Adds what a piece of the arguments says. -/
def add (grammar : Grammar) (given : Given) : Item → Except Stop Given
  | .flag .help => .error .help
  | .flag .version => .error .version
  | .flag flag =>
    if given.flags.contains flag then .error .usage
    else .ok { given with flags := given.flags ++ [flag] }
  | .value parameter text =>
    if !parameter.accepts text
        || (!parameter.isRepeatable && given.values.any (·.1 == parameter)) then .error .usage
    else .ok { given with values := given.values ++ [(parameter, text)] }
  | .operand text _ | .escaped text =>
    if grammar.takesOperands then .ok { given with operands := given.operands ++ [text] }
    else .error .usage
  | .invalid => .error .usage

def has (given : Given) (flag : Flag) : Bool :=
  given.flags.contains flag

/-- All values of an option. -/
def all (given : Given) (parameter : Parameter) : List String :=
  (given.values.filter (·.1 == parameter)).map (·.2)

/-- The value of an option that is not repeated. -/
def value? (given : Given) (parameter : Parameter) : Option String :=
  (given.all parameter).head?

/-- The value of an option that is required. -/
def require (given : Given) (parameter : Parameter) : Except Stop String :=
  match given.value? parameter with
  | some text => .ok text
  | none => .error .usage

/-- The patterns that are given. -/
def patterns (given : Given) : PatternOptions :=
  ⟨given.all .includes, given.all .excludes⟩

end Given

namespace Grammar

/-- What arguments say up to the first operand, and that with the arguments behind it. -/
def leading (grammar : Grammar) : Given → List Item →
    Except Stop (Given × String × List String)
  | given, .operand text behind :: _ => .ok (given, text, behind)
  | given, item :: items => do leading grammar (← given.add grammar item) items
  | _, [] => .error .usage

/-- What arguments say. -/
def read (grammar : Grammar) (arguments : List String) : Except Stop Given :=
  (items grammar.switches arguments).foldlM (Given.add grammar) {}

end Grammar

namespace Command

def flagSwitch (long : String) (short : Option Char) (flag : Flag) : Switch :=
  ⟨long, short, .flag flag⟩

def valueSwitch (long : String) (short : Option Char) (parameter : Parameter) : Switch :=
  ⟨long, short, .parameter parameter⟩

/-- The options of every command. -/
def globalSwitches : List Switch := [
  flagSwitch "quiet" (some 'q') .quiet,
  flagSwitch "verbose" (some 'v') .verbose,
  valueSwitch "config" none .settings,
  flagSwitch "help" (some 'h') .help]

def patternSwitches : List Switch := [
  valueSwitch "include" none .includes,
  valueSwitch "exclude" none .excludes]

def runSwitches : List Switch := [
  valueSwitch "archive" none .archive,
  valueSwitch "dir" none .directory,
  valueSwitch "intermediate" none .intermediate,
  valueSwitch "output" (some 'o') .output,
  valueSwitch "changes" none .changes,
  flagSwitch "incremental" none .incremental,
  valueSwitch "jobs" (some 'j') .jobs,
  flagSwitch "disable" none .disable,
  valueSwitch "report" none .report]

/-- What may stand before the name of a command. -/
def frontGrammar : Grammar :=
  ⟨globalSwitches ++ [flagSwitch "version" (some 'V') .version], false⟩

def runGrammar : Grammar :=
  ⟨globalSwitches ++ patternSwitches ++ runSwitches, false⟩

def matchGrammar : Grammar :=
  ⟨globalSwitches ++ patternSwitches, true⟩

/-- The options of every command, given before or behind its name; behind it counts more. -/
def globals (front behind : Given) : GlobalOptions where
  quiet := front.has .quiet || behind.has .quiet
  verbose := front.has .verbose || behind.has .verbose
  settings := behind.value? .settings <|> front.value? .settings

/-- The run that is asked for. -/
def runOf (given : Given) : Except Stop Command := do
  return .run {
    archives := given.all .archive
    directories := given.all .directory
    intermediate := ← given.require .intermediate
    output := ← given.require .output
    patterns := given.patterns
    changes := given.value? .changes
    incremental := given.has .incremental
    jobs := (given.value? .jobs).bind Parameter.jobsOf?
    disable := given.has .disable
    report := ((given.value? .report).bind ReportFormat.ofName?).getD .text }

/-- The tags that are asked for, of which there has to be one. -/
def matchOf (given : Given) : Except Stop Command :=
  if given.operands.isEmpty then .error .usage
  else .ok (.matchTags given.patterns given.operands)

/-- Whether a request for help names nothing or one command. -/
def isHelpRequest (arguments : List String) : Bool :=
  match arguments with
  | [] => true
  | [name] => ["run", "match", "help"].contains name
  | _ => false

/-- What arguments ask for. -/
def parse (arguments : List String) : Except Stop (GlobalOptions × Command) := do
  let (front, name, rest) ← frontGrammar.leading {} (items frontGrammar.switches arguments)
  match name with
  | "run" =>
    let given ← runGrammar.read rest
    return (globals front given, ← runOf given)
  | "match" =>
    let given ← matchGrammar.read rest
    return (globals front given, ← matchOf given)
  | "help" => throw (if isHelpRequest rest then .help else .usage)
  | _ => throw .usage

end Command

end MethodTrace.CommandLine
