import MethodTrace.ClassFile.Member

/-!
Class files.

`ClassFile.parse` reads a whole file into its parts and `ClassFile.toBytes` writes them again; only
the constant pool is decoded, all else is carried as it is.
-/

namespace MethodTrace

/-- A class file. -/
structure ClassFile where
  minorVersion : UInt16
  majorVersion : UInt16
  pool : ConstantPool
  access : UInt16
  thisClass : UInt16
  /-- The superclass, or zero where there is none. -/
  superClass : UInt16
  interfaces : List UInt16
  fields : List Member
  methods : List Member
  attributes : List Attribute
  deriving DecidableEq

namespace ClassFile

/-- The number that every class file begins with. -/
def magic : UInt32 := 0xcafebabe

def read : Reader ClassFile := do
  let found ← Reader.u32
  if found ≠ magic then throw (.badMagic found)
  let minorVersion ← Reader.u16
  let majorVersion ← Reader.u16
  let pool ← ConstantPool.read
  let access ← Reader.u16
  let thisClass ← Reader.u16
  let superClass ← Reader.u16
  let interfaces ← Reader.counted Reader.u16
  let fields ← Reader.counted Member.read
  let methods ← Reader.counted Member.read
  let attributes ← Reader.counted Attribute.read
  return { minorVersion, majorVersion, pool, access, thisClass, superClass, interfaces, fields,
           methods, attributes }

/-- The name of the class. -/
def name (file : ClassFile) : Except ClassFileError String :=
  file.pool.className file.thisClass

/-- The name of the superclass, if there is one. -/
def superName (file : ClassFile) : Except ClassFileError (Option String) :=
  if file.superClass = 0 then .ok none else some <$> file.pool.className file.superClass

/-- Reads a whole class file, whose name has to resolve. -/
def parse (data : Bytes) : Except ClassFileError ClassFile := do
  let (file, rest) ← read.onSlice data
  if rest ≠ [] then throw (.trailingBytes rest.length)
  let _ ← file.name
  return file

/-- The bytes of a class file. -/
def toBytes (file : ClassFile) : Bytes :=
  Bytes.ofUInt32 magic ++ Bytes.ofUInt16 file.minorVersion ++ Bytes.ofUInt16 file.majorVersion
    ++ file.pool.write ++ Bytes.ofUInt16 file.access ++ Bytes.ofUInt16 file.thisClass
    ++ Bytes.ofUInt16 file.superClass ++ Bytes.counted Bytes.ofUInt16 file.interfaces
    ++ Bytes.counted Member.write file.fields ++ Bytes.counted Member.write file.methods
    ++ Bytes.counted Attribute.write file.attributes

end ClassFile

end MethodTrace
