import MethodTrace.Bytes.Varint
import MethodTrace.ContentHash

/-!
Headers of stored units.
-/

namespace MethodTrace

/-- What is stored with a unit. -/
structure UnitHeader where
  magic : Bytes
  format : UInt32
  /-- The version of the tool. -/
  version : String
  checksum : ContentHash
  deriving DecidableEq

namespace UnitHeader

/-- The four bytes with which headers begin. -/
def magicBytes : Bytes := Bytes.ofString "TRCX"

/-- The version of the format that is written. -/
def currentFormat : UInt32 := 1

/-- The header of some content. -/
def ofContent (version : String) (content : Bytes) : UnitHeader :=
  ⟨magicBytes, currentFormat, version, ContentHash.ofBytes content⟩

/-- A text after its length. -/
def encodeText (text : String) : Bytes :=
  let bytes := Bytes.ofString text
  Varint.encode bytes.length ++ bytes

def encode (header : UnitHeader) : Bytes :=
  header.magic ++ Varint.encode header.format.toNat ++ encodeText header.version
    ++ encodeText header.checksum.toString

/-- Readers of the front of some bytes. -/
abbrev Decoder := StateT Bytes Option

/-- Takes an exact number of bytes. -/
def take (count : Nat) : Decoder Bytes := do
  let bytes ← get
  if bytes.length < count then failure
  set (bytes.drop count)
  return bytes.take count

/-- Takes a number of limited width. -/
def decodeNumber (maxWidth : Nat) : Decoder Nat := do
  let (n, rest) ← Varint.decode? maxWidth (← get)
  set rest
  return n

def decodeText : Decoder String := do
  let bytes ← take (← decodeNumber 8)
  bytes.toString?

/-- Takes a header. -/
def decode : Decoder UnitHeader := do
  let magic ← take 4
  let format ← decodeNumber 4
  let version ← decodeText
  let checksum ← ContentHash.ofString? (← decodeText)
  return ⟨magic, UInt32.ofNat format, version, checksum⟩

/-- The header at the front of some bytes. -/
def decode? (bytes : Bytes) : Option UnitHeader :=
  (·.1) <$> decode.run bytes

end UnitHeader

end MethodTrace
