import MethodTrace.ContentHash

/-!
What can go wrong with the state that is kept between runs.
-/

namespace MethodTrace

/-- What is wrong with the file of a stored unit. -/
inductive UnitFlaw
  | tooShort
  | headerTooLong
  | undecodable
  | badMagic
  | wrongChecksum (actual recorded : ContentHash)
  deriving DecidableEq

/-- Why the state of a previous run cannot be read or written. -/
inductive CacheError
  | io (path : String)
  | unreadableManifest (path : String)
  | corruptUnit (identity : String) (flaw : UnitFlaw)
  /-- A stored unit of another format. -/
  | staleUnit (identity : String) (expected found : UInt32)
  deriving DecidableEq

namespace UnitFlaw

def message : UnitFlaw → String
  | tooShort => "file shorter than header length"
  | headerTooLong => "header length exceeds file size"
  | undecodable => "header cannot be decoded"
  | badMagic => "bad magic bytes"
  | wrongChecksum actual recorded =>
    "payload hashes to " ++ actual.toString ++ ", header records " ++ recorded.toString

end UnitFlaw

namespace CacheError

/-- What is said about an error. -/
def message : CacheError → String
  | io path => "cache I/O error at " ++ path ++ ": the operation failed"
  | unreadableManifest path =>
    "unreadable fingerprint manifest " ++ path ++ ": the text is not as it should be"
  | corruptUnit identity flaw => "stored unit " ++ identity ++ " is corrupt: " ++ flaw.message
  | staleUnit identity expected found =>
    "stored unit " ++ identity ++ " has format version " ++ Nat.repr found.toNat ++ ", expected "
      ++ Nat.repr expected.toNat

end CacheError

end MethodTrace
