import MethodTrace.Bytes.Hex
import MethodTrace.Digest.Sha256

/-!
Content hashes: the SHA-256 digests by which two builds compare the bytes of a unit.
-/

namespace MethodTrace

/-- The digest of some content. -/
structure ContentHash where
  bytes : Bytes
  size : bytes.length = 32
  deriving DecidableEq

namespace ContentHash

/-- The hash of a byte string. -/
def ofBytes (content : Bytes) : ContentHash :=
  ⟨Sha256.digest content, Sha256.digest_length content⟩

/-- A byte string after its length, so that a list of them can be told apart from any other. -/
def framed (part : Bytes) : Bytes :=
  Bytes.littleEndian 8 part.length ++ part

/-- The hash of several parts, each after its length. -/
def ofParts (parts : List Bytes) : ContentHash :=
  ofBytes (parts.flatMap framed)

/-- The hash as sixty-four lower-case digits. -/
def toString (hash : ContentHash) : String :=
  hash.bytes.toHex

/-- The short form that messages for developers use. -/
def summary (hash : ContentHash) : String :=
  "ContentHash(" ++ Bytes.toHex (hash.bytes.take 2) ++ "..)"

/-- A byte as two characters: two digits, or one digit after a plus sign. -/
def byteOfPair? (first second : Char) : Option UInt8 :=
  (Bytes.hexNumber? (if first = '+' then [second] else [first, second])).map UInt8.ofNat

/-- The bytes that a text spells, two characters a byte. -/
def bytesOfPairs? : List Char → Option Bytes
  | [] => some []
  | first :: second :: rest => do
    let byte ← byteOfPair? first second
    let bytes ← bytesOfPairs? rest
    return byte :: bytes
  | [_] => none

/-- The hash that a text of sixty-four characters spells. -/
def ofString? (text : String) : Option ContentHash := do
  let bytes ← bytesOfPairs? text.toList
  if size : bytes.length = 32 then return ⟨bytes, size⟩ else none

/-- What is said of a text that spells no hash. -/
def invalidMessage (text : String) : String :=
  "invalid content hash '" ++ text ++ "'"

end ContentHash

end MethodTrace
