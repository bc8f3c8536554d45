import MethodTrace.ClassFile.Member

/-!
Method bodies as they are stored: bytecode, exception table and attributes.
-/

namespace MethodTrace

/-- A row of the exception table, in offsets. A catch type of zero stands for any exception. -/
structure ExceptionRow where
  start : UInt16
  stop : UInt16
  handler : UInt16
  catchType : UInt16
  deriving DecidableEq

namespace ExceptionRow

def read : Reader ExceptionRow := do
  let start ← Reader.u16
  let stop ← Reader.u16
  let handler ← Reader.u16
  return ⟨start, stop, handler, ← Reader.u16⟩

def write (row : ExceptionRow) : Bytes :=
  Bytes.ofUInt16 row.start ++ Bytes.ofUInt16 row.stop ++ Bytes.ofUInt16 row.handler
    ++ Bytes.ofUInt16 row.catchType

end ExceptionRow

/-- The payload of a `Code` attribute. -/
structure Body where
  maxStack : UInt16
  maxLocals : UInt16
  code : Bytes
  exceptions : List ExceptionRow
  attributes : List Attribute
  deriving DecidableEq

namespace Body

def read : Reader Body := do
  let maxStack ← Reader.u16
  let maxLocals ← Reader.u16
  let length ← Reader.u32
  let code ← Reader.take length.toNat
  let exceptions ← Reader.counted ExceptionRow.read
  return { maxStack, maxLocals, code, exceptions, attributes := ← Reader.counted Attribute.read }

/-- Reads a whole payload. -/
def parse (info : Bytes) : Except ClassFileError Body := do
  let (body, rest) ← read.onSlice info
  if rest ≠ [] then throw (.code .trailingCode)
  return body

/-- The payload of a body. -/
def toBytes (body : Body) : Bytes :=
  Bytes.ofUInt16 body.maxStack ++ Bytes.ofUInt16 body.maxLocals
    ++ Bytes.bigEndian 4 body.code.length ++ body.code
    ++ Bytes.counted ExceptionRow.write body.exceptions
    ++ Bytes.counted Attribute.write body.attributes

end Body

end MethodTrace
