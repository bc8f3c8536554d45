/-!
How the entries of an archive are written.
-/

namespace MethodTrace

/-- What is done with the content of an entry. -/
inductive Compression
  | stored
  | deflate
  deriving DecidableEq

namespace Compression

/-- The word for a compression in data files. -/
def name : Compression → String
  | stored => "stored"
  | deflate => "deflate"

/-- The compression that a word stands for. -/
def ofName? : String → Option Compression
  | "stored" => some stored
  | "deflate" => some deflate
  | _ => none

end Compression

/-- The settings of an archive that is written. The level counts for compressed entries only. -/
structure ArchiveSettings where
  compression : Compression := .stored
  level : UInt32 := 6
  deriving DecidableEq

end MethodTrace
