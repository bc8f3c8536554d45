import MethodTrace.ClassFile
import MethodTrace.Code.Body

/-!
Construction of small class files from their methods.
-/

namespace MethodTrace

/-- The body of a method to be built. -/
structure MethodBody where
  maxStack : UInt16
  maxLocals : UInt16
  code : Bytes
  exceptions : List ExceptionRow := []
  /-- Offsets and the source lines that begin there. -/
  lines : List (UInt16 × UInt16) := []
  /-- The payload of the frame table, if there is one. -/
  frames : Option Bytes := none

/-- A public class under construction. -/
structure ClassBuilder where
  majorVersion : UInt16
  pool : ConstantPool
  thisClass : UInt16
  superClass : UInt16
  methods : List Member

namespace ClassBuilder

/-- Steps of a construction; they fail when the constant pool is full. -/
abbrev Build := StateT ClassBuilder (Except ClassFileError)

/-- The class every class extends here. -/
def rootName : String := "java/lang/Object"

/-- A class without methods. -/
def start (name : String) : Except ClassFileError ClassBuilder := do
  let steps : ConstantPool.Extend (UInt16 × UInt16) := do
    let thisClass ← ConstantPool.classIndex name
    return (thisClass, ← ConstantPool.classIndex rootName)
  let (indices, pool) := ConstantPool.empty.extend steps
  let (thisClass, superClass) ← indices
  return { majorVersion := 52, pool, thisClass, superClass, methods := [] }

/-- Extends the constant pool. -/
def extendPool (steps : ConstantPool.Extend α) : Build α := do
  let (result, pool) := (← get).pool.extend steps
  let value ← result
  modify ({ · with pool })
  return value

/-- Sets the version of the class file. -/
def setVersion (majorVersion : UInt16) : Build Unit :=
  modify ({ · with majorVersion })

/-- The constant of a method reference. -/
def methodref (method : MemberRef) : Build UInt16 :=
  extendPool (ConstantPool.methodrefIndex method)

/-- The constant of a class. -/
def classRef (name : String) : Build UInt16 :=
  extendPool (ConstantPool.classIndex name)

/-- The constant of a string. -/
def string (text : String) : Build UInt16 :=
  extendPool (ConstantPool.stringIndex text)

/-- An attribute of a name. -/
def makeAttribute (name : String) (info : Bytes) : Build Attribute := do
  return ⟨← extendPool (ConstantPool.utf8Index name), info⟩

/-- Adds a method with its attributes. -/
def addMember (access : UInt16) (name descriptor : String) (attributes : List Attribute) :
    Build Unit := do
  let name ← extendPool (ConstantPool.utf8Index name)
  let descriptor ← extendPool (ConstantPool.utf8Index descriptor)
  modify fun builder =>
    { builder with methods := builder.methods ++ [⟨access, name, descriptor, attributes⟩] }

/-- Adds a method without a body. -/
def addAbstract (access : UInt16) (name descriptor : String) : Build Unit :=
  addMember access name descriptor []

/-- The attribute with the line numbers of a body, which has none without them. -/
def lineAttributes (lines : List (UInt16 × UInt16)) : Build (List Attribute) := do
  if lines.isEmpty then return []
  let row (line : UInt16 × UInt16) : Bytes := Bytes.ofUInt16 line.1 ++ Bytes.ofUInt16 line.2
  return [← makeAttribute "LineNumberTable" (Bytes.counted row lines)]

/-- The attribute with the frames of a body. -/
def frameAttributes : Option Bytes → Build (List Attribute)
  | some info => return [← makeAttribute "StackMapTable" info]
  | none => return []

/-- Adds a method with a body. -/
def addMethod (access : UInt16) (name descriptor : String) (body : MethodBody) : Build Unit := do
  let lines ← lineAttributes body.lines
  let frames ← frameAttributes body.frames
  let stored : Body := {
    maxStack := body.maxStack
    maxLocals := body.maxLocals
    code := body.code
    exceptions := body.exceptions
    attributes := lines ++ frames }
  addMember access name descriptor [← makeAttribute "Code" stored.toBytes]

/-- Adds a public constructor that only calls the one of the root class. -/
def addConstructor : Build Unit := do
  let super ← methodref ⟨rootName, "<init>", "()V"⟩
  let code := [0x2a, 0xb7] ++ Bytes.ofUInt16 super ++ [0xb1]
  addMethod 0x0001 "<init>" "()V" ⟨1, 1, code, [], [], none⟩

/-- The class file that has been built. -/
def file (builder : ClassBuilder) : ClassFile where
  minorVersion := 0
  majorVersion := builder.majorVersion
  pool := builder.pool
  access := 0x0021
  thisClass := builder.thisClass
  superClass := builder.superClass
  interfaces := []
  fields := []
  methods := builder.methods
  attributes := []

/-- The bytes of a class of some name that is built by steps. -/
def build (name : String) (steps : Build Unit) : Except ClassFileError Bytes := do
  let (_, builder) ← steps.run (← start name)
  return builder.file.toBytes

end ClassBuilder

end MethodTrace
