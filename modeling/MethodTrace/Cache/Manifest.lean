import MethodTrace.Cache.Error
import MethodTrace.Cache.Fingerprints
import MethodTrace.ContentHash.Json
import MethodTrace.Json.Parser
import MethodTrace.Json.Printer
import MethodTrace.Workspace

/-!
Manifests: what a successful run leaves behind for the next one.
-/

namespace MethodTrace

/-- The fingerprints of a run and what makes them comparable to those of another run. -/
structure Manifest where
  /-- The version of the tool. -/
  version : String
  settings : ContentHash
  archives : List String
  members : Fingerprints

namespace Manifest

def toJson (manifest : Manifest) : JsonValue :=
  .ofMembers [
    ("tracex_version", .ofString manifest.version),
    ("settings", manifest.settings.toJson),
    ("archives", .array (manifest.archives.map .ofString)),
    ("members", .ofMembers (manifest.members.toList.map fun (identity, hash) =>
      (identity, hash.toJson)))]

/-- Reads fingerprints. Of several with the same name the last one counts. -/
def membersOfJson? (value : JsonValue) : Option Fingerprints := do
  let members ← (← value.toMembers?).mapM fun (identity, hash) =>
    return (identity, ← ContentHash.ofJson? hash)
  return members.foldl (fun known (identity, hash) => known.insert identity hash) ∅

def ofJson? (value : JsonValue) : Option Manifest := do
  match ← value.toFields? ["tracex_version", "settings", "archives", "members"] with
  | [version, settings, archives, members] =>
    return {
      version := ← version.toText?
      settings := ← ContentHash.ofJson? settings
      archives := ← (← archives.toItems?).mapM JsonValue.toText?
      members := ← membersOfJson? members }
  | _ => none

/-- The path of the manifest in a directory. -/
def pathIn (directory : String) : String :=
  Path.join directory "fingerprints.json"

/-- The path of the manifest while it is written. -/
def temporaryPathIn (directory : String) : String :=
  Path.join directory "fingerprints.json.tmp"

/-- The manifest that a text spells. -/
def ofText? (text : String) : Option Manifest := do
  ofJson? (← JsonValue.parse? text)

/-- Reads the manifest in a directory, if there is one. -/
def find (workspace : Workspace) (directory : String) : Except CacheError (Option Manifest) :=
  let path := pathIn directory
  match workspace.read path with
  | .error .missing => .ok none
  | .error _ => .error (.io path)
  | .ok bytes =>
    match bytes.toString? with
    | none => .error (.io path)
    | some text =>
      match ofText? text with
      | none => .error (.unreadableManifest path)
      | some manifest => .ok (some manifest)

/-- Writes the manifest to a directory, which is made if it is not there. -/
def save (manifest : Manifest) (directory : String) : Action CacheError Unit := do
  let (path, temporary) := (pathIn directory, temporaryPathIn directory)
  Action.createDirectories (.io directory) directory
  let bytes := Bytes.ofString manifest.toJson.pretty
  Action.change (.io temporary) (·.write temporary bytes)
  Action.change (.io path) (·.rename temporary path)

/-- Removes the manifest from a directory, if there is one. -/
def remove (directory : String) : Action CacheError Unit :=
  let path := pathIn directory
  Action.clear (.io path) (·.remove path)

end Manifest

end MethodTrace
