import MethodTrace.Settings
import MethodTrace.Toml.Parser
import MethodTrace.Workspace

/-!
Settings files, and where settings come from. A file has a section for each part of the settings;
what it leaves out has its default.
-/

namespace MethodTrace

open Toml

/-- Reads a field that may be left out. -/
def fieldOr (default : α) (read : Value → Option α) : Option Value → Option α
  | none => some default
  | some value => read value

/-- The texts of an array. -/
def textsOf? (value : Value) : Option (List String) := do
  (← value.toItems?).mapM Value.toText?

namespace Rules

def ofToml? (value : Value) : Option Rules := do
  match ← value.toFields? ["enabled", "include", "exclude"] with
  | [enabled, includes, excludes] =>
    return {
      enabled := ← fieldOr true Value.toBool? enabled
      includes := ← fieldOr [] textsOf? includes
      excludes := ← fieldOr [] textsOf? excludes }
  | _ => none

end Rules

namespace Hooks

def ofToml? (value : Value) : Option Hooks := do
  let default : Hooks := {}
  match ← value.toFields? ["owner", "begin", "end"] with
  | [owner, beginName, endName] =>
    return {
      owner := ← fieldOr default.owner Value.toText? owner
      beginName := ← fieldOr default.beginName Value.toText? beginName
      endName := ← fieldOr default.endName Value.toText? endName }
  | _ => none

end Hooks

namespace ArchiveSettings

/-- Reads a compression. -/
def compressionOf? (value : Value) : Option Compression := do
  Compression.ofName? (← value.toChoice?)

def ofToml? (value : Value) : Option ArchiveSettings := do
  let default : ArchiveSettings := {}
  match ← value.toFields? ["compression", "level"] with
  | [compression, level] =>
    return {
      compression := ← fieldOr default.compression compressionOf? compression
      level := ← fieldOr default.level (fun value =>
        (value.toNat? (UInt32.size - 1)).map UInt32.ofNat) level }
  | _ => none

end ArchiveSettings

namespace Settings

/-- Reads the number of workers. -/
def jobsOf? (value : Value) : Option Nat := do
  match ← value.toFields? ["jobs"] with
  | [jobs] => fieldOr 0 (Value.toNat? (UInt64.size - 1)) jobs
  | _ => none

def ofToml? (value : Value) : Option Settings := do
  match ← value.toFields? ["trace", "hooks", "archive", "executor"] with
  | [rules, hooks, archive, jobs] =>
    return {
      rules := ← fieldOr {} Rules.ofToml? rules
      hooks := ← fieldOr {} Hooks.ofToml? hooks
      archive := ← fieldOr {} ArchiveSettings.ofToml? archive
      jobs := ← fieldOr 0 jobsOf? jobs }
  | _ => none

/-- The name of the settings file of a directory. -/
def fileName : String := "tracex.toml"

/-- Reads and checks the settings in the text of a file. -/
def ofText (text : String) : Except SettingsError Settings := do
  match (Toml.parse? text).bind ofToml? with
  | some settings =>
    settings.check
    return settings
  | none => throw .malformed

/-- Reads and checks the settings in the bytes of a file. -/
def ofBytes (bytes : Bytes) : Except SettingsError Settings :=
  match bytes.toString? with
  | some text => ofText text
  | none => .error .unreadable

end Settings

end MethodTrace

namespace MethodTrace.Settings

/-- Reads the settings in a file. -/
def ofFile (workspace : Workspace) (path : String) : Except SettingsError Settings := do
  ofBytes (← workspace.readOr .unreadable path)

/-- Reads the settings file of a directory. -/
def ofDirectory (workspace : Workspace) (directory : String) : Except SettingsError Settings :=
  ofFile workspace (Path.join directory fileName)

/-- Reads the settings in a given file, else in the settings file of the working directory, if there
is one; otherwise everything has its default. -/
def find (workspace : Workspace) (path : Option String) : Except SettingsError Settings :=
  match path with
  | some path => ofFile workspace path
  | none => if workspace.isFile fileName then ofDirectory workspace "." else .ok {}

end MethodTrace.Settings
