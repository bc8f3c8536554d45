import Std.Data.ExtTreeMap
import MethodTrace.Archive.Writer

/-!
Assemblies: the entries of the next archive by name.

An entry is carried over from an archive as it is, or has new content. Entries are written in the
order of their names, so that the archive does not depend on the order in which they came.
-/

namespace MethodTrace

/-- An entry to be written. -/
inductive PendingEntry
  | carried (entry : ArchiveEntry)
  | fresh (content : Bytes)
  deriving DecidableEq

/-- The entries of the next archive by name, and how it is written. -/
structure Assembly where
  entries : Std.ExtTreeMap String PendingEntry
  settings : ArchiveSettings

namespace Assembly

def empty (settings : ArchiveSettings) : Assembly := ⟨∅, settings⟩

/-- Carries an entry over unless it is a directory or its name is taken. -/
def carry (assembly : Assembly) (entry : ArchiveEntry) : Assembly :=
  if entry.isDirectory || assembly.entries.contains entry.name then assembly
  else { assembly with entries := assembly.entries.insert entry.name (.carried entry) }

/-- Carries over the entries of an archive. -/
def ofArchive (archive : Archive) (settings : ArchiveSettings) : Assembly :=
  archive.foldl carry (empty settings)

def size (assembly : Assembly) : Nat :=
  assembly.entries.size

def contains (assembly : Assembly) (name : String) : Bool :=
  assembly.entries.contains name

/-- Gives an entry new content, whether or not it was there. -/
def insert (assembly : Assembly) (name : String) (content : Bytes) : Assembly :=
  { assembly with entries := assembly.entries.insert name (.fresh content) }

def remove (assembly : Assembly) (name : String) : Assembly :=
  { assembly with entries := assembly.entries.erase name }

/-- Adds an entry to an archive. -/
def writeEntry (writer : ArchiveWriter) : String × PendingEntry → Except ArchiveError ArchiveWriter
  | (_, .carried entry) => writer.add entry
  | (name, .fresh content) => writer.addContent name content

/-- The bytes of the archive; the path is for messages only. -/
def toBytes (assembly : Assembly) (path : String) : Except ArchiveError Bytes := do
  let writer ← assembly.entries.toList.foldlM writeEntry (.start path assembly.settings)
  writer.finish

end Assembly

end MethodTrace
