import MethodTrace.ClassFile.Error

/-!
Readers of big-endian binary structures.

A reader works on a slice of known extent and takes bytes from the front of what is left of it.
A slice that ends too early is reported with its extent, however much had been read before.
-/

namespace MethodTrace

/-- A reader: it knows the extent of its slice and consumes what is left of it. -/
abbrev Reader := ReaderT Nat (StateT Bytes (Except ClassFileError))

namespace Reader

/-- Takes an exact number of bytes. -/
def take (count : Nat) : Reader Bytes := do
  let rest ← get
  let taken := rest.take count
  if taken.length < count then throw (.truncated (← read))
  set (rest.drop count)
  return taken

/-- Takes a big-endian number of a fixed width. -/
def number (width : Nat) : Reader Nat := do
  return Bytes.ofBigEndian (← take width)

def u8 : Reader UInt8 := return UInt8.ofNat (← number 1)

def u16 : Reader UInt16 := return UInt16.ofNat (← number 2)

def u32 : Reader UInt32 := return UInt32.ofNat (← number 4)

def u64 : Reader UInt64 := return UInt64.ofNat (← number 8)

def i32 : Reader Int32 := return (← u32).toInt32

/-- Reads a value as often as asked. -/
def times (count : Nat) (reader : Reader α) : Reader (List α) :=
  (List.replicate count ()).mapM fun _ => reader

/-- Reads a list after its length, a number of two bytes. -/
def counted (reader : Reader α) : Reader (List α) := do
  let count ← u16
  times count.toNat reader

/-- What a reader makes of the front of a slice, and what it leaves. -/
def onPart (reader : Reader α) (extent : Nat) (slice : Bytes) :
    Except ClassFileError (α × Bytes) :=
  (reader.run extent).run slice

/-- What a reader makes of a whole slice, and what it leaves. -/
def onSlice (reader : Reader α) (slice : Bytes) : Except ClassFileError (α × Bytes) :=
  reader.onPart slice.length slice

end Reader

namespace Bytes

def ofUInt8 (value : UInt8) : Bytes := bigEndian 1 value.toNat

def ofUInt16 (value : UInt16) : Bytes := bigEndian 2 value.toNat

def ofUInt32 (value : UInt32) : Bytes := bigEndian 4 value.toNat

def ofUInt64 (value : UInt64) : Bytes := bigEndian 8 value.toNat

/-- The lowest bytes of an integer in two's complement. -/
def ofInt (width : Nat) (value : Int) : Bytes :=
  bigEndian width (value % (limit width : Nat)).toNat

/-- A list after its length, of which two bytes are written. -/
def counted (write : α → Bytes) (items : List α) : Bytes :=
  bigEndian 2 items.length ++ items.flatMap write

end Bytes

end MethodTrace
