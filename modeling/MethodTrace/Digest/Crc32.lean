import MethodTrace.Bytes

/-!
The CRC-32 checksum that archives record for each entry.
-/

namespace MethodTrace.Crc32

/-- One bit of the division by the reflected polynomial. -/
def shift (register : UInt32) : UInt32 :=
  if register &&& 1 = 1 then (register >>> 1) ^^^ 0xedb88320 else register >>> 1

/-- The register after one more byte. -/
def step (register : UInt32) (byte : UInt8) : UInt32 :=
  Nat.repeat shift 8 (register ^^^ byte.toUInt32)

/-- The checksum of a byte string. -/
def checksum (bytes : Bytes) : UInt32 :=
  ~~~ bytes.foldl step 0xffffffff

end MethodTrace.Crc32
