import MethodTrace.ClassFile.Reader

/-!
The constants of a class file, each in the form in which it is stored.
-/

namespace MethodTrace

/-- One slot of a constant pool. -/
inductive Constant
  /-- Slot zero, and the slot after every long or double. -/
  | unusable
  /-- The bytes of a text in modified UTF-8. -/
  | utf8 (bytes : Bytes)
  | integer (bits : UInt32)
  | float (bits : UInt32)
  | long (bits : UInt64)
  | double (bits : UInt64)
  | classRef (name : UInt16)
  | string (text : UInt16)
  | fieldref (owner nameAndType : UInt16)
  | methodref (owner nameAndType : UInt16)
  | interfaceMethodref (owner nameAndType : UInt16)
  | nameAndType (name descriptor : UInt16)
  | methodHandle (kind : UInt8) (reference : UInt16)
  | methodType (descriptor : UInt16)
  | dynamic (bootstrap nameAndType : UInt16)
  | invokeDynamic (bootstrap nameAndType : UInt16)
  | module (name : UInt16)
  | package (name : UInt16)
  deriving DecidableEq

namespace Constant

/-- Whether a constant takes two slots. -/
def isWide : Constant → Bool
  | long _ | double _ => true
  | _ => false

/-- The slots that a constant fills: itself, and an unusable one if it is wide. -/
def slots (constant : Constant) : List Constant :=
  if constant.isWide then [constant, unusable] else [constant]

/-- Reads the constant that goes into the slot `index`. -/
def read (index : UInt16) : Reader Constant := do
  match ← Reader.u8 with
  | 1 =>
    let length ← Reader.u16
    return utf8 (← Reader.take length.toNat)
  | 3 => return integer (← Reader.u32)
  | 4 => return float (← Reader.u32)
  | 5 => return long (← Reader.u64)
  | 6 => return double (← Reader.u64)
  | 7 => return classRef (← Reader.u16)
  | 8 => return string (← Reader.u16)
  | 9 => return fieldref (← Reader.u16) (← Reader.u16)
  | 10 => return methodref (← Reader.u16) (← Reader.u16)
  | 11 => return interfaceMethodref (← Reader.u16) (← Reader.u16)
  | 12 => return nameAndType (← Reader.u16) (← Reader.u16)
  | 15 => return methodHandle (← Reader.u8) (← Reader.u16)
  | 16 => return methodType (← Reader.u16)
  | 17 => return dynamic (← Reader.u16) (← Reader.u16)
  | 18 => return invokeDynamic (← Reader.u16) (← Reader.u16)
  | 19 => return module (← Reader.u16)
  | 20 => return package (← Reader.u16)
  | tag => throw (.badConstantTag tag index)

/-- The bytes of a constant: its tag and its payload. An unusable slot has none. -/
def write : Constant → Bytes
  | unusable => []
  | utf8 bytes => 1 :: Bytes.bigEndian 2 bytes.length ++ bytes
  | integer bits => 3 :: Bytes.ofUInt32 bits
  | float bits => 4 :: Bytes.ofUInt32 bits
  | long bits => 5 :: Bytes.ofUInt64 bits
  | double bits => 6 :: Bytes.ofUInt64 bits
  | classRef name => 7 :: Bytes.ofUInt16 name
  | string text => 8 :: Bytes.ofUInt16 text
  | fieldref owner member => 9 :: Bytes.ofUInt16 owner ++ Bytes.ofUInt16 member
  | methodref owner member => 10 :: Bytes.ofUInt16 owner ++ Bytes.ofUInt16 member
  | interfaceMethodref owner member => 11 :: Bytes.ofUInt16 owner ++ Bytes.ofUInt16 member
  | nameAndType name descriptor => 12 :: Bytes.ofUInt16 name ++ Bytes.ofUInt16 descriptor
  | methodHandle kind reference => 15 :: kind :: Bytes.ofUInt16 reference
  | methodType descriptor => 16 :: Bytes.ofUInt16 descriptor
  | dynamic bootstrap member => 17 :: Bytes.ofUInt16 bootstrap ++ Bytes.ofUInt16 member
  | invokeDynamic bootstrap member => 18 :: Bytes.ofUInt16 bootstrap ++ Bytes.ofUInt16 member
  | module name => 19 :: Bytes.ofUInt16 name
  | package name => 20 :: Bytes.ofUInt16 name

end Constant

end MethodTrace
