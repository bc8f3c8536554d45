import MethodTrace.Archive.Compression
import MethodTrace.TagFilter
import MethodTrace.Trace.Hooks

/-!
The settings of a run: what is traced, which methods traced code calls, how the output is written
and how many workers there are.
-/

namespace MethodTrace

/-- The rules that select methods. -/
structure Rules where
  enabled : Bool := true
  includes : List String := []
  excludes : List String := []
  deriving DecidableEq

/-- The settings of a run. Zero workers stand for as many as the machine has. -/
structure Settings where
  rules : Rules := {}
  hooks : Hooks := {}
  archive : ArchiveSettings := {}
  jobs : Nat := 0
  deriving DecidableEq

/-- Why settings cannot be used. -/
inductive SettingsError
  | unreadable
  | malformed
  | pattern (fault : InvalidPattern)
  | emptyField (name : String)
  | dottedOwner (owner : String)
  | levelTooHigh (level : UInt32)
  deriving DecidableEq

namespace SettingsError

/-- What is said about an error. -/
def message : SettingsError → String
  | unreadable => "failed to read configuration: the file cannot be read"
  | malformed => "failed to parse configuration: the text is not as it should be"
  | pattern fault => "invalid trace rule: " ++ fault.message
  | emptyField name => "validation error: " ++ name ++ " is empty"
  | dottedOwner owner =>
    "validation error: hooks.owner must use '/' separators, got '" ++ owner ++ "'"
  | levelTooHigh level =>
    "validation error: archive.level must be 0-9, got " ++ Nat.repr level.toNat

end SettingsError

namespace Rules

/-- The filter of the rules. Patterns count only if the rules are enabled. -/
def toFilter (rules : Rules) : Except InvalidPattern TagFilter :=
  if rules.enabled then TagFilter.ofPatterns rules.includes rules.excludes
  else .ok TagFilter.disabled

/-- The rules with other patterns; an empty list leaves the patterns as they are. -/
def override (rules : Rules) (includes excludes : List String) : Rules :=
  { rules with
    includes := if includes.isEmpty then rules.includes else includes
    excludes := if excludes.isEmpty then rules.excludes else excludes }

end Rules

namespace Settings

/-- Checks the names of the hooks: first that there are any, then their form. -/
def checkHooks (hooks : Hooks) : Except SettingsError Unit := do
  if hooks.owner.isEmpty then throw (.emptyField "hooks.owner")
  if hooks.beginName.isEmpty then throw (.emptyField "hooks.begin")
  if hooks.endName.isEmpty then throw (.emptyField "hooks.end")
  if hooks.owner.contains '.' then throw (.dottedOwner hooks.owner)

/-- Checks the level of a compression that has levels. -/
def checkArchive (archive : ArchiveSettings) : Except SettingsError Unit := do
  if archive.compression = .deflate ∧ 9 < archive.level then throw (.levelTooHigh archive.level)

/-- Checks settings. Patterns have to compile even if they are not used. -/
def check (settings : Settings) : Except SettingsError Unit := do
  checkHooks settings.hooks
  checkArchive settings.archive
  match TagFilter.ofPatterns settings.rules.includes settings.rules.excludes with
  | .ok _ => pure ()
  | .error fault => throw (.pattern fault)

/-- A hash of everything that the output depends on besides the inputs, where `filter` is the
filter of the rules. -/
def fingerprint (settings : Settings) (filter : TagFilter) : ContentHash :=
  ContentHash.ofParts [
    filter.fingerprint.bytes,
    Bytes.ofString settings.hooks.owner,
    Bytes.ofString settings.hooks.beginName,
    Bytes.ofString settings.hooks.endName,
    Bytes.ofString settings.archive.compression.name,
    Bytes.littleEndian 4 settings.archive.level.toNat]

end Settings

end MethodTrace
