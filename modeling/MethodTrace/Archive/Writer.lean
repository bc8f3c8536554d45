import MethodTrace.Archive.Reader

/-!
Writing of archives.

Entries are written in the order in which they are added, each behind a header, and the directory
behind all of them. Headers hold nothing that does not follow from the entries.
-/

namespace MethodTrace

/-- An archive that is being written. -/
structure ArchiveWriter where
  /-- The path for messages. -/
  path : String
  settings : ArchiveSettings
  /-- The entries so far, the last one first. -/
  written : List ArchiveEntry := []
  /-- The number of bytes of the entries so far. -/
  offset : Nat := 0

namespace ArchiveEntry

/-- The time stamp of every entry: midnight on the first day that the format knows. -/
def timeStamp : Bytes := Bytes.littleEndian 2 0 ++ Bytes.littleEndian 2 33

/-- The flag that says that a name is not plain ASCII. -/
def nameFlags (entry : ArchiveEntry) : Nat :=
  if entry.name.toList.all fun c => c.toNat < 128 then 0 else 0x800

/-- The version of the format that a reader has to know. -/
def versionNeeded (entry : ArchiveEntry) : Nat :=
  if entry.method = Compression.deflate.method then 20 else 10

def nameBytes (entry : ArchiveEntry) : Bytes := Bytes.ofString entry.name

/-- The fields that the header of an entry and the directory have in common. -/
def sharedFields (entry : ArchiveEntry) : Bytes :=
  Bytes.littleEndian 2 entry.versionNeeded ++ Bytes.littleEndian 2 entry.nameFlags
    ++ Bytes.littleEndian 2 entry.method.toNat ++ timeStamp
    ++ Bytes.littleEndian 4 entry.checksum.toNat ++ Bytes.littleEndian 4 entry.stored.length
    ++ Bytes.littleEndian 4 entry.size.toNat ++ Bytes.littleEndian 2 entry.nameBytes.length
    ++ Bytes.littleEndian 2 0

/-- The header of an entry with the stored content behind it. -/
def localRecord (entry : ArchiveEntry) : Bytes :=
  Bytes.littleEndian 4 Archive.localSignature ++ entry.sharedFields ++ entry.nameBytes
    ++ entry.stored

/-- The number of bytes of the header and the stored content. -/
def recordSize (entry : ArchiveEntry) : Nat :=
  30 + entry.nameBytes.length + entry.stored.length

/-- An entry in the directory, with the offset of its header. -/
def centralRecord (entry : ArchiveEntry) (offset : Nat) : Bytes :=
  Bytes.littleEndian 4 Archive.centralSignature ++ Bytes.littleEndian 2 20 ++ entry.sharedFields
    ++ Bytes.littleEndian 2 0 ++ Bytes.littleEndian 2 0 ++ Bytes.littleEndian 2 0
    ++ Bytes.littleEndian 4 0 ++ Bytes.littleEndian 4 offset ++ entry.nameBytes

end ArchiveEntry

namespace Archive

/-- The directory of entries whose headers begin at an offset. -/
def centralDirectory (offset : Nat) : Archive → Bytes
  | [] => []
  | entry :: entries =>
    entry.centralRecord offset ++ centralDirectory (offset + entry.recordSize) entries

/-- The record at the end of an archive. -/
def endRecord (count size offset : Nat) : Bytes :=
  Bytes.littleEndian 4 endSignature ++ Bytes.littleEndian 2 0 ++ Bytes.littleEndian 2 0
    ++ Bytes.littleEndian 2 count ++ Bytes.littleEndian 2 count ++ Bytes.littleEndian 4 size
    ++ Bytes.littleEndian 4 offset ++ Bytes.littleEndian 2 0

end Archive

namespace ArchiveWriter

def start (path : String) (settings : ArchiveSettings) : ArchiveWriter :=
  { path, settings }

/-- The entries so far in their order. -/
def entries (writer : ArchiveWriter) : Archive :=
  writer.written.reverse

def unsupported (writer : ArchiveWriter) : Except ArchiveError α :=
  throw (.fault writer.path (.unsupported .zip64))

/-- Adds an entry as it is. -/
def add (writer : ArchiveWriter) (entry : ArchiveEntry) : Except ArchiveError ArchiveWriter := do
  if UInt32.size ≤ writer.offset ∨ UInt32.size ≤ entry.stored.length then writer.unsupported
  if UInt16.size ≤ entry.nameBytes.length then
    throw (.fault writer.path (.malformed (.nameTooLong entry.name)))
  return { writer with
    written := entry :: writer.written
    offset := writer.offset + entry.recordSize }

/-- Adds an entry with some content. -/
def addContent (writer : ArchiveWriter) (name : String) (content : Bytes) :
    Except ArchiveError ArchiveWriter := do
  if UInt32.size ≤ content.length then writer.unsupported
  writer.add (ArchiveEntry.ofContent writer.settings name content)

/-- The bytes of the whole archive. -/
def finish (writer : ArchiveWriter) : Except ArchiveError Bytes := do
  let directory := Archive.centralDirectory 0 writer.entries
  if UInt16.size ≤ writer.written.length ∨ UInt32.size ≤ writer.offset
      ∨ UInt32.size ≤ directory.length then
    writer.unsupported
  return writer.entries.flatMap ArchiveEntry.localRecord ++ directory
    ++ Archive.endRecord writer.written.length directory.length writer.offset

end ArchiveWriter

end MethodTrace
