import MethodTrace.Archive.Assembly
import MethodTrace.Workspace

/-!
Archives in files.

An archive is published under a temporary name next to its own and renamed at the end, so that a
failure leaves alone what was there.
-/

namespace MethodTrace

namespace Archive

/-- Reads the archive in a file. -/
def ofFile (workspace : Workspace) (path : String) : Except ArchiveError Archive := do
  ofBytes path (← workspace.readOr (.io path) path)

end Archive

namespace Assembly

/-- The temporary name of an archive that is published at a path. -/
def temporaryPath (path : String) : String :=
  Path.withFileName path ("." ++ (Path.fileName? path).getD "" ++ ".tmp")

/-- Writes the archive to a file. -/
def writeTo (assembly : Assembly) (path : String) : Action ArchiveError Unit := do
  Action.change (.io path) (·.write path [])
  let bytes ← assembly.toBytes path
  Action.change (.io path) (·.write path bytes)

/-- Writes the archive to a temporary file and renames that. -/
def replace (assembly : Assembly) (temporary path : String) : Action ArchiveError Unit := do
  assembly.writeTo temporary
  Action.change (.io path) (·.rename temporary path)

/-- Publishes the archive at a path, with the directories that lead there. The answer is the number
of its entries. After a failure the temporary file is removed. -/
def publish (assembly : Assembly) (path : String) : Action ArchiveError Nat := do
  let temporary := temporaryPath path
  if let some directory := Path.parent? temporary then
    Action.createDirectories (.io directory) directory
  tryCatch (assembly.replace temporary path) fun error => do
    Action.changeIfPossible (·.remove temporary)
    throw error
  return assembly.size

end Assembly

end MethodTrace
