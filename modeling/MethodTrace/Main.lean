import MethodTrace.CommandLine

/-!
The program.

What a command may need is loaded from the disk into a workspace, and what the command has changed
in it is written back.
-/

namespace MethodTrace.Disk

open CommandLine

/-- The place to which a path leads, if every step on the way is a directory. -/
def placeOf (path : String) : Place :=
  (Path.segments path.toList).foldl
    (fun place step =>
      if Path.isBlank step then place
      else if step = ".." then place.up
      else place ++ [step])
    (if Path.isAbsolute path then ["/"] else [])

/-- A path to a place. -/
def pathOf (place : Place) : String :=
  place.foldl Path.join "."

/-- The files that a command may read or write. -/
def files (globals : GlobalOptions) (command : Command) : List String :=
  let settings := globals.settings.getD Settings.fileName
  match command with
  | .run options =>
    settings :: options.output :: Assembly.temporaryPath options.output
      :: options.changes.toList ++ options.archives
  | .matchTags _ _ => [settings]

/-- The directories of which a command may need everything. -/
def trees (command : Command) : List String :=
  match command with
  | .run options => options.intermediate :: options.directories
  | .matchTags _ _ => []

/-- Loads what is at a place; what cannot be read is left out. -/
def loadNode (workspace : Workspace) (place : Place) : IO Workspace := do
  let path := (← IO.currentDir) / pathOf place
  try
    if ← path.isDir then return workspace.insert place .directory
    else return workspace.insert place (.file (← IO.FS.readBinFile path).toList)
  catch _ => return workspace

/-- Loads a file and the directories that lead to it. -/
def loadFile (workspace : Workspace) (path : String) : IO Workspace := do
  let place := placeOf path
  let way := (List.range (place.length + 1)).map place.take
  way.foldlM loadNode workspace

/-- Loads a directory with all that is in it. -/
partial def loadTree (workspace : Workspace) (place : Place) : IO Workspace := do
  let workspace ← loadNode workspace place
  match workspace.node? place with
  | some .directory =>
    let path := (← IO.currentDir) / pathOf place
    if !(← path.isDir) then return workspace
    (← path.readDir).foldlM (fun workspace entry => loadTree workspace (place ++ [entry.fileName]))
      workspace
  | _ => return workspace

/-- Loads what a command may need. -/
def load (globals : GlobalOptions) (command : Command) : IO Workspace := do
  let workspace ← (files globals command ++ trees command).foldlM loadFile Workspace.empty
  (trees command).foldlM (fun workspace path => loadTree workspace (placeOf path)) workspace

/-- Whether two nodes are both directories or both files. -/
def sameKind : Option Node → Node → Bool
  | some .directory, .directory | some (.file _), .file _ => true
  | _, _ => false

/-- Writes back what has changed: first what is gone, the innermost first, then what is new. -/
def save (before after : Workspace) : IO Unit := do
  let directory ← IO.currentDir
  for (place, node) in before.nodes.toList.reverse do
    if !sameKind after.nodes[place]? node && !place.isTop then
      match node with
      | .file _ => IO.FS.removeFile (directory / pathOf place)
      | .directory => IO.FS.removeDir (directory / pathOf place)
  for (place, node) in after.nodes.toList do
    if before.nodes[place]? != some node && !place.isTop then
      match node with
      | .file bytes => IO.FS.writeBinFile (directory / pathOf place) bytes.toByteArray
      | .directory => IO.FS.createDirAll (directory / pathOf place)

/-- Does what arguments ask for on the disk. -/
def execute (arguments : List String) : IO Outcome := do
  match Command.parse arguments with
  | .error stop => return stop.outcome
  | .ok (globals, command) =>
    let before ← load globals command
    let (outcome, after) := (CommandLine.execute arguments).run before
    save before after
    return outcome

end MethodTrace.Disk

def main (arguments : List String) : IO UInt32 := do
  let outcome ← MethodTrace.Disk.execute arguments
  IO.print outcome.output
  IO.eprint outcome.messages
  return UInt32.ofNat outcome.code
