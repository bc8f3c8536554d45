import MethodTrace.Bytes.Hex

/-!
What can be wrong with archives.
-/

namespace MethodTrace

/-- A breach of the format, with the offset up to which the archive had been read. -/
inductive Malformation
  | noEndRecord
  | truncated (offset : Nat)
  | badCentralSignature (offset : Nat)
  | badLocalSignature (offset : Nat)
  | nameNotText (offset : Nat)
  | nameTooLong (name : String)
  deriving DecidableEq

/-- A feature of archives that is not supported. -/
inductive ArchiveFeature
  | zip64
  | severalDisks
  | encryption
  | method (method : UInt16) (name : String)
  deriving DecidableEq

/-- What is wrong with an archive, apart from its path. -/
inductive ArchiveFault
  | malformed (fault : Malformation)
  | unsupported (feature : ArchiveFeature)
  deriving DecidableEq

/-- Why an archive cannot be read or written. -/
inductive ArchiveError
  | io (path : String)
  | fault (path : String) (fault : ArchiveFault)
  | undecodable (entry : String)
  | unknownMethod (entry : String) (method : UInt16)
  | wrongSize (entry : String) (expected actual : Nat)
  | wrongChecksum (entry : String) (expected actual : UInt32)
  deriving DecidableEq

namespace Malformation

def message : Malformation → String
  | noEndRecord => "end of central directory not found"
  | truncated offset => "unexpected end of archive" ++ place offset
  | badCentralSignature offset => "bad central directory signature" ++ place offset
  | badLocalSignature offset => "bad local header signature" ++ place offset
  | nameNotText offset => "entry name is not UTF-8" ++ place offset
  | nameTooLong name => "entry name too long: " ++ name
where
  place (offset : Nat) : String := " at offset " ++ Nat.repr offset

end Malformation

namespace ArchiveFeature

def message : ArchiveFeature → String
  | zip64 => "zip64"
  | severalDisks => "multi-disk archive"
  | encryption => "encryption"
  | method code name => "compression method " ++ Nat.repr code.toNat ++ " in " ++ name

end ArchiveFeature

namespace ArchiveError

/-- A checksum as eight digits. -/
def checksumText (checksum : UInt32) : String :=
  String.ofList (Bytes.hexDigits 8 checksum.toNat)

/-- What is said about an error. -/
def message : ArchiveError → String
  | io path => "archive I/O error at " ++ path ++ ": the operation failed"
  | fault path (.malformed breach) => "malformed archive " ++ path ++ ": " ++ breach.message
  | fault path (.unsupported feature) =>
    "unsupported archive feature in " ++ path ++ ": " ++ feature.message
  | undecodable entry => "corrupt entry " ++ entry ++ ": corrupt deflate stream"
  | unknownMethod entry method =>
    "corrupt entry " ++ entry ++ ": unknown compression method " ++ Nat.repr method.toNat
  | wrongSize entry expected actual =>
    "corrupt entry " ++ entry ++ ": expected " ++ Nat.repr expected ++ " bytes, got "
      ++ Nat.repr actual
  | wrongChecksum entry expected actual =>
    "CRC mismatch in entry " ++ entry ++ ": expected " ++ checksumText expected ++ ", got "
      ++ checksumText actual

end ArchiveError

end MethodTrace
