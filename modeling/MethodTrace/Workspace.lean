import Std.Data.ExtTreeMap
import MethodTrace.Bytes
import MethodTrace.Path

/-!
The files and directories that a run works with.

A workspace is a map from places to what is there. Paths are followed from the working directory,
one step at a time and through directories only.
-/

namespace MethodTrace

/-- A place: the names on the way to it from the working directory, or from the root if the first
one is a slash. It may begin with steps upwards. -/
abbrev Place := List String

/-- What is at a place. -/
inductive Node
  | directory
  | file (bytes : Bytes)
  deriving DecidableEq

/-- Why an operation on files fails. -/
inductive FileFault
  | missing
  | notDirectory
  | isDirectory
  | badName
  deriving DecidableEq

/-- Files and directories by their places. -/
structure Workspace where
  nodes : Std.ExtTreeMap Place Node

namespace Place

/-- The places that are always directories: the working directory, what is above it, and the
root. -/
def isTop (place : Place) : Bool :=
  place.all (· == "..") || place == ["/"]

/-- The directory that holds a place. -/
def up (place : Place) : Place :=
  if place = ["/"] then place
  else if isTop place then place ++ [".."]
  else place.dropLast

/-- The names that lead from a directory down to a place. -/
def namesFrom? (directory place : Place) : Option (List String) :=
  if directory.isPrefixOf place then
    match place.drop directory.length with
    | ".." :: _ | "/" :: _ => none
    | names => some names
  else none

end Place

namespace Workspace

/-- The workspace without any files. -/
def empty : Workspace := ⟨∅⟩

/-- What is at a place. -/
def node? (workspace : Workspace) (place : Place) : Option Node :=
  if place.isTop then some .directory else workspace.nodes[place]?

/-- The longest name of a file, in bytes. -/
def maxName : Nat := 255

/-- The length in bytes that paths do not reach. -/
def pathLimit : Nat := 4096

/-- Takes one step of a path from a place, which has to be a directory. -/
def follow (workspace : Workspace) (place : Place) (step : String) : Except FileFault Place :=
  match workspace.node? place with
  | none => .error .missing
  | some (.file _) => .error .notDirectory
  | some .directory =>
    if Path.isBlank step then .ok place
    else if step = ".." then .ok place.up
    else if maxName < step.utf8ByteSize then .error .badName
    else .ok (place ++ [step])

/-- Whether a text is no path at all. -/
def isBadPath (path : String) : Bool :=
  path.contains '\x00' || pathLimit ≤ path.utf8ByteSize

/-- The place to which some steps of a path lead. -/
def followAll (workspace : Workspace) (path : String) (steps : List String) :
    Except FileFault Place :=
  if isBadPath path then .error .badName
  else steps.foldlM workspace.follow (if Path.isAbsolute path then ["/"] else [])

/-- The place that a path names; the directories on the way have to be there. -/
def place (workspace : Workspace) (path : String) : Except FileFault Place :=
  if path = "" then .error .missing
  else workspace.followAll path (Path.segments path.toList)

/-- What a path names. -/
def find (workspace : Workspace) (path : String) : Except FileFault Node := do
  match workspace.node? (← workspace.place path) with
  | some node => return node
  | none => throw .missing

/-- Whether a path names a file or directory. -/
def contains (workspace : Workspace) (path : String) : Bool :=
  (workspace.find path).isOk

/-- Whether a path names a file. -/
def isFile (workspace : Workspace) (path : String) : Bool :=
  match workspace.find path with
  | .ok (.file _) => true
  | _ => false

/-- The bytes of a file. -/
def read (workspace : Workspace) (path : String) : Except FileFault Bytes := do
  match ← workspace.find path with
  | .file bytes => return bytes
  | .directory => throw .isDirectory

/-- The bytes of a file; every fault is the same error. -/
def readOr (workspace : Workspace) (error : ε) (path : String) : Except ε Bytes :=
  (workspace.read path).mapError fun _ => error

/-- Puts something at a place. -/
def insert (workspace : Workspace) (place : Place) (node : Node) : Workspace :=
  ⟨workspace.nodes.insert place node⟩

/-- Empties a place. -/
def erase (workspace : Workspace) (place : Place) : Workspace :=
  ⟨workspace.nodes.erase place⟩

/-- Gives a file some bytes, whether or not it was there; its directory has to be. -/
def write (workspace : Workspace) (path : String) (bytes : Bytes) :
    Except FileFault Workspace := do
  let place ← workspace.place path
  match workspace.node? place with
  | some .directory => throw .isDirectory
  | _ => return workspace.insert place (.file bytes)

/-- Removes a file. -/
def remove (workspace : Workspace) (path : String) : Except FileFault Workspace := do
  let place ← workspace.place path
  match workspace.node? place with
  | some (.file _) => return workspace.erase place
  | some .directory => throw .isDirectory
  | none => throw .missing

/-- Gives a file another path, where it replaces a file. -/
def rename (workspace : Workspace) (source target : String) : Except FileFault Workspace := do
  let bytes ← workspace.read source
  let cleared ← workspace.remove source
  cleared.write target bytes

/-- Removes a directory with all that is in it. -/
def removeTree (workspace : Workspace) (path : String) : Except FileFault Workspace := do
  let place ← workspace.place path
  match workspace.node? place with
  | some .directory =>
    return ⟨workspace.nodes.filter fun other _ => (place.namesFrom? other).isNone⟩
  | some (.file _) => throw .notDirectory
  | none => throw .missing

/-- Makes a directory, if there is none, in a directory that is there. Slashes at the end of the
path do not count. -/
def makeDirectory (workspace : Workspace) (path : String) : Except FileFault Workspace := do
  let steps := Path.segments path.toList
  let place ← workspace.followAll path (steps.reverse.dropWhile (· == "")).reverse
  match workspace.node? place with
  | some .directory => return workspace
  | some (.file _) => throw .notDirectory
  | none => return workspace.insert place .directory

/-- The files below a place, in the order in which a walk meets them that takes the names in each
directory in ascending order; each with the names that lead to it. -/
def filesBelow (workspace : Workspace) (place : Place) : List (List String × Bytes) :=
  workspace.nodes.toList.filterMap fun (other, node) =>
    match node with
    | .file bytes => (place.namesFrom? other).map fun names => (names, bytes)
    | .directory => none

end Workspace

/-- What is done in a workspace and may fail; what was done before a failure stays done. -/
abbrev Action (ε : Type) := ExceptT ε (StateM Workspace)

namespace Action

/-- Looks at the workspace. -/
def look (question : Workspace → Except ε α) : Action ε α := do
  question (← get)

/-- Changes the workspace; every fault is the same error. -/
def change (error : ε) (operation : Workspace → Except FileFault Workspace) : Action ε Unit := do
  match operation (← get) with
  | .ok workspace => set workspace
  | .error _ => throw error

/-- Changes the workspace by the removal of something, which may be missing. -/
def clear (error : ε) (operation : Workspace → Except FileFault Workspace) : Action ε Unit := do
  match operation (← get) with
  | .ok workspace => set workspace
  | .error .missing => pure ()
  | .error _ => throw error

/-- Changes the workspace if that is possible. -/
def changeIfPossible (operation : Workspace → Except FileFault Workspace) : Action ε Unit :=
  modify fun workspace => (operation workspace).toOption.getD workspace

/-- Makes a directory and those that lead to it. -/
def createDirectories (error : ε) (path : String) : Action ε Unit := do
  if Workspace.isBadPath path then throw error
  (Path.ancestors path).forM fun directory => change error (·.makeDirectory directory)

end Action

end MethodTrace
