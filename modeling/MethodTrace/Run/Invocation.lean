import MethodTrace.Json.Parser
import MethodTrace.Run.Error
import MethodTrace.Unit.Json
import MethodTrace.Workspace

/-!
What a run is asked to do, and what a host knows about the files that have changed since the last
run.
-/

namespace MethodTrace

/-- A change of one file under an input directory. -/
structure FileChange where
  root : String
  /-- The path of the file, from the root or with the root in front. -/
  path : String
  kind : ChangeKind
  deriving DecidableEq

namespace FileChange

/-- The path of the file from its root. -/
def relativePath (change : FileChange) : String :=
  (Path.stripPrefix? change.path change.root).getD change.path

def toJson (change : FileChange) : JsonValue :=
  .ofMembers [
    ("root", .ofString change.root),
    ("path", .ofString change.path),
    ("kind", change.kind.toJson)]

def ofJson? (value : JsonValue) : Option FileChange := do
  match ← value.toFields? ["root", "path", "kind"] with
  | [root, path, kind] =>
    return { root := ← root.toText?, path := ← path.toText?, kind := ← ChangeKind.ofJson? kind }
  | _ => none

end FileChange

namespace ChangeFeed

/-- The changes that a text lists. -/
def ofText? (text : String) : Option (List FileChange) := do
  (← (← JsonValue.parse? text).toItems?).mapM FileChange.ofJson?

/-- Reads the changes that a file lists. -/
def ofFile (workspace : Workspace) (path : String) : Except RunError (List FileChange) := do
  match (← workspace.readOr (.io path) path).toString? with
  | none => throw (.io path)
  | some text =>
    match ofText? text with
    | none => throw (.changeFeed path)
    | some changes => return changes

end ChangeFeed

/-- What is known about changes of loose files. Archives are compared by fingerprints anyway. -/
inductive InputChanges
  /-- Nothing is known, so everything is built anew. -/
  | unknown
  | listed (feed : List FileChange)
  deriving DecidableEq

/-- The inputs of a run, and where its results go. -/
structure Invocation where
  /-- Input archives; an earlier one comes before a later one. -/
  archives : List String
  /-- Input directories, which come after the archives. -/
  directories : List String
  changes : InputChanges
  /-- The directory for what is kept between runs. -/
  intermediate : String
  output : String
  settings : Settings
  deriving DecidableEq

end MethodTrace
