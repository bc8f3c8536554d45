import MethodTrace.Archive.Compression
import MethodTrace.Archive.Error
import MethodTrace.Deflate.Compress
import MethodTrace.Deflate.Inflate
import MethodTrace.Digest.Crc32

/-!
Archive entries: a name and content, which is kept as the archive stores it.
-/

namespace MethodTrace

/-- An entry of an archive, with the size and the checksum of its content. -/
structure ArchiveEntry where
  name : String
  method : UInt16
  checksum : UInt32
  size : UInt32
  /-- The content as it is stored. -/
  stored : Bytes
  deriving DecidableEq

/-- The entries of an archive in the order of its directory. -/
abbrev Archive := List ArchiveEntry

namespace Compression

/-- The number of a compression in archives. -/
def method : Compression → UInt16
  | stored => 0
  | deflate => 8

/-- The compression of a number. -/
def ofMethod? (method : UInt16) : Option Compression :=
  if method = 0 then some stored
  else if method = 8 then some deflate
  else none

/-- Content as it is stored. -/
def pack (level : UInt32) (content : Bytes) : Compression → Bytes
  | stored => content
  | deflate => Deflate.deflate level.toNat content

/-- The content that is stored as some bytes. -/
def unpack? (bytes : Bytes) : Compression → Option Bytes
  | stored => some bytes
  | deflate => Deflate.inflate? bytes

end Compression

namespace ArchiveEntry

/-- An entry for some content. -/
def ofContent (settings : ArchiveSettings) (name : String) (content : Bytes) : ArchiveEntry where
  name
  method := settings.compression.method
  checksum := Crc32.checksum content
  size := UInt32.ofNat content.length
  stored := settings.compression.pack settings.level content

/-- Whether an entry stands for a directory. -/
def isDirectory (entry : ArchiveEntry) : Bool :=
  entry.name.endsWith "/"

/-- The content of an entry. Its size is checked before its checksum. -/
def content (entry : ArchiveEntry) : Except ArchiveError Bytes := do
  match Compression.ofMethod? entry.method with
  | none => throw (.unknownMethod entry.name entry.method)
  | some compression =>
    match compression.unpack? entry.stored with
    | none => throw (.undecodable entry.name)
    | some content =>
      if content.length ≠ entry.size.toNat then
        throw (.wrongSize entry.name entry.size.toNat content.length)
      let actual := Crc32.checksum content
      if actual ≠ entry.checksum then
        throw (.wrongChecksum entry.name entry.checksum actual)
      return content

end ArchiveEntry

end MethodTrace
