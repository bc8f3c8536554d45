import MethodTrace.Archive.Entry

/-!
Reading of archives.

A record at the end of an archive tells where its directory is. The directory lists the entries
with their sizes, and where the stored content of each lies behind a header of its own.
-/

namespace MethodTrace

/-- A place in an archive: its offset and what follows it. -/
structure ArchiveCursor where
  offset : Nat
  rest : Bytes

/-- Readers of what follows a place. -/
abbrev ArchiveReader := StateT ArchiveCursor (Except ArchiveFault)

namespace ArchiveReader

/-- Takes an exact number of bytes. -/
def take (count : Nat) : ArchiveReader Bytes := do
  let cursor ← get
  let taken := cursor.rest.take count
  if taken.length < count then throw (.malformed (.truncated cursor.offset))
  set (ArchiveCursor.mk (cursor.offset + count) (cursor.rest.drop count))
  return taken

def skip (count : Nat) : ArchiveReader Unit := do
  let _ ← take count

/-- Takes a little-endian number of a fixed width. -/
def number (width : Nat) : ArchiveReader Nat := do
  return Bytes.ofLittleEndian (← take width)

/-- Reports a breach of the format at the present place. -/
def malformed (fault : Nat → Malformation) : ArchiveReader α := do
  throw (.malformed (fault (← get).offset))

/-- What a reader makes of an archive from an offset on. -/
def runAt (reader : ArchiveReader α) (archive : Bytes) (offset : Nat) : Except ArchiveFault α :=
  (·.1) <$> reader.run ⟨offset, archive.drop offset⟩

end ArchiveReader

namespace Archive

open ArchiveReader

def localSignature : Nat := 0x04034b50
def centralSignature : Nat := 0x02014b50
def endSignature : Nat := 0x06054b50
def zip64Signature : Nat := 0x07064b50

/-- The number of bytes of the record at the end, apart from its comment. -/
def endLength : Nat := 22

/-- Whether the record at the end may begin here: its signature is there and so is its comment. -/
def isEndRecord (rest : Bytes) : Bool :=
  rest.take 4 == Bytes.littleEndian 4 endSignature
    && endLength + Bytes.ofLittleEndian ((rest.drop 20).take 2) ≤ rest.length

/-- The last offset from `first` on where the record at the end may begin; `offset` is that of the
bytes given. -/
def lastEndRecord? (first : Nat) : (offset : Nat) → (found : Option Nat) → Bytes → Option Nat
  | _, found, [] => found
  | offset, found, byte :: rest =>
    let here := first ≤ offset && isEndRecord (byte :: rest)
    lastEndRecord? first (offset + 1) (if here then some offset else found) rest

/-- The offset of the record at the end. Its comment can have any length of two bytes. -/
def endOffset? (archive : Bytes) : Option Nat :=
  lastEndRecord? (archive.length - endLength - 0xffff) 0 none archive

/-- Whether the marker of the 64-bit format stands before an offset. -/
def hasZip64Marker (archive : Bytes) (offset : Nat) : Bool :=
  20 ≤ offset && (archive.drop (offset - 20)).take 4 == Bytes.littleEndian 4 zip64Signature

/-- Where the directory is: the number of its entries and its offset. -/
structure Directory where
  count : Nat
  offset : Nat

/-- Reads the record at the end, after its signature. -/
def directory : ArchiveReader Directory := do
  let disk ← number 2
  let centralDisk ← number 2
  let countHere ← number 2
  let count ← number 2
  let size ← number 4
  let offset ← number 4
  if disk ≠ 0 ∨ centralDisk ≠ 0 ∨ countHere ≠ count then throw (.unsupported .severalDisks)
  if count = 0xffff ∨ size = 0xffffffff ∨ offset = 0xffffffff then throw (.unsupported .zip64)
  return ⟨count, offset⟩

/-- Reads the header of an entry and the stored content behind it. -/
def storedContent (size : Nat) : ArchiveReader Bytes := do
  if (← number 4) ≠ localSignature then malformed .badLocalSignature
  skip 22
  let nameLength ← number 2
  let extraLength ← number 2
  skip (nameLength + extraLength)
  take size

/-- Reads an entry of the directory. -/
def entry (archive : Bytes) : ArchiveReader ArchiveEntry := do
  if (← number 4) ≠ centralSignature then malformed .badCentralSignature
  skip 4
  let flags ← number 2
  let method ← number 2
  skip 4
  let checksum ← number 4
  let storedSize ← number 4
  let size ← number 4
  let nameLength ← number 2
  let extraLength ← number 2
  let commentLength ← number 2
  skip 8
  let offset ← number 4
  let name ← match (← take nameLength).toString? with
    | some name => pure name
    | none => malformed .nameNotText
  skip (extraLength + commentLength)
  if storedSize = 0xffffffff ∨ size = 0xffffffff ∨ offset = 0xffffffff then
    throw (.unsupported .zip64)
  if flags % 2 = 1 then throw (.unsupported .encryption)
  let method := UInt16.ofNat method
  if (Compression.ofMethod? method).isNone then throw (.unsupported (.method method name))
  let stored ← (storedContent storedSize).runAt archive offset
  return ⟨name, method, UInt32.ofNat checksum, UInt32.ofNat size, stored⟩

/-- The entries of an archive. -/
def entries (archive : Bytes) : Except ArchiveFault Archive := do
  match endOffset? archive with
  | none => throw (.malformed .noEndRecord)
  | some offset =>
    if hasZip64Marker archive offset then throw (.unsupported .zip64)
    let directory ← directory.runAt archive (offset + 4)
    let all : ArchiveReader Archive :=
      (List.replicate directory.count ()).mapM fun _ => entry archive
    all.runAt archive directory.offset

/-- Reads an archive; the path is for messages only. -/
def ofBytes (path : String) (archive : Bytes) : Except ArchiveError Archive :=
  (entries archive).mapError (.fault path)

end Archive

end MethodTrace
