import MethodTrace.CommandLine.Command
import MethodTrace.Json.Printer
import MethodTrace.Run
import MethodTrace.Settings.File

/-!
The commands of the tool.
-/

namespace MethodTrace.CommandLine

/-- What a command leaves: its exit code, its output and its messages. -/
structure Outcome where
  code : Nat
  output : String := ""
  messages : String := ""
  deriving DecidableEq

/-- Why a command fails. -/
inductive CommandError
  | run (error : RunError)
  | pattern (fault : InvalidPattern)
  deriving DecidableEq

namespace CommandError

def message : CommandError → String
  | run error => error.message
  | pattern fault => fault.message

end CommandError

namespace Outcome

/-- The outcome of a failure after some messages. -/
def failed (messages : String) (error : CommandError) : Outcome :=
  { code := 1, messages := messages ++ "error: " ++ error.message ++ "\n" }

end Outcome

/-- How the tool is used. -/
def usageText : String :=
  "Usage: tracex [-q] [-v] [--config FILE] run --intermediate DIR --output FILE "
    ++ "[--archive FILE]... [--dir DIR]... [--include PATTERN]... [--exclude PATTERN]... "
    ++ "[--changes FILE] [--incremental] [--jobs N] [--disable] [--report text|json]\n"
    ++ "       tracex [-q] [-v] [--config FILE] match TAG... [--include PATTERN]... "
    ++ "[--exclude PATTERN]...\n"

/-- The outcome of arguments that ask for no command. -/
def Stop.outcome : Stop → Outcome
  | .usage => { code := 2, messages := usageText }
  | .help => { code := 0, output := usageText }
  | .version => { code := 0, output := "tracex " ++ toolVersion ++ "\n" }

/-- The settings of a command. -/
def settingsOf (workspace : Workspace) (globals : GlobalOptions) (patterns : PatternOptions) :
    Except CommandError Settings := do
  let settings ← (Settings.find workspace globals.settings).mapError (.run ∘ .settings)
  return { settings with rules := settings.rules.override patterns.includes patterns.excludes }

/-- What is known about changes. A change feed makes a run incremental. -/
def inputChanges (workspace : Workspace) (options : RunOptions) :
    Except CommandError InputChanges := do
  match options.changes with
  | some path => return .listed (← (ChangeFeed.ofFile workspace path).mapError .run)
  | none => return if options.incremental then .listed [] else .unknown

/-- The run that is asked for. -/
def invocation (workspace : Workspace) (globals : GlobalOptions) (options : RunOptions) :
    Except CommandError Invocation := do
  let settings ← settingsOf workspace globals options.patterns
  let changes ← inputChanges workspace options
  return {
    archives := options.archives
    directories := options.directories
    changes
    intermediate := options.intermediate
    output := options.output
    settings := { settings with
      jobs := options.jobs.getD settings.jobs
      rules := { settings.rules with enabled := settings.rules.enabled && !options.disable } } }

/-- What is said before a run. -/
def announcement (invocation : Invocation) : String :=
  let count := invocation.directories.length
  "  Instrumenting " ++ Nat.repr invocation.archives.length ++ " archive(s), " ++ Nat.repr count
    ++ " director" ++ (if count = 1 then "y" else "ies") ++ " -> " ++ invocation.output ++ "\n"

/-- The outcome of a finished run, whose messages are given without the last one. -/
def finished (globals : GlobalOptions) (options : RunOptions) (messages : String)
    (report : RunReport) : Outcome :=
  match options.report with
  | .text =>
    let final := if globals.quiet then "" else "    Finished " ++ report.summary ++ "\n"
    { code := 0, messages := messages ++ final }
  | .json => { code := 0, output := report.toJson.pretty ++ "\n", messages }

/-- Runs what is asked for and reports on it. -/
def executeRun (globals : GlobalOptions) (options : RunOptions) : StateM Workspace Outcome := do
  match invocation (← get) globals options with
  | .error error => return .failed "" error
  | .ok invocation =>
    let messages := if globals.quiet then "" else announcement invocation
    match ← invocation.run.run with
    | .error error => return .failed messages (.run error)
    | .ok report => return finished globals options messages report

/-- A line that tells whether a tag is selected. -/
def verdict (filter : TagFilter) (tag : String) : String :=
  (if filter.selects tag then "trace" else "skip") ++ "\t" ++ tag ++ "\n"

/-- The filter that tags are checked against. It counts even if the settings do not enable it. -/
def filterOf (rules : Rules) : Except CommandError TagFilter :=
  (TagFilter.ofPatterns rules.includes rules.excludes).mapError .pattern

/-- Tells which tags are selected. -/
def executeMatch (workspace : Workspace) (globals : GlobalOptions) (patterns : PatternOptions)
    (tags : List String) : Outcome :=
  match settingsOf workspace globals patterns >>= fun settings => filterOf settings.rules with
  | .error error => .failed "" error
  | .ok filter => { code := 0, output := String.join (tags.map (verdict filter)) }

/-- Does what arguments ask for. -/
def execute (arguments : List String) : StateM Workspace Outcome := do
  match Command.parse arguments with
  | .error stop => return stop.outcome
  | .ok (globals, .run options) => executeRun globals options
  | .ok (globals, .matchTags patterns tags) =>
    return executeMatch (← get) globals patterns tags

end MethodTrace.CommandLine
