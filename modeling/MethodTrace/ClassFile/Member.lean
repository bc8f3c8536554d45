import MethodTrace.ClassFile.ConstantPool

/-!
Attributes, fields and methods of a class file, with their payloads left as bytes.
-/

namespace MethodTrace

/-- A named payload. -/
structure Attribute where
  name : UInt16
  info : Bytes
  deriving DecidableEq

namespace Attribute

def read : Reader Attribute := do
  let name ← Reader.u16
  let length ← Reader.u32
  return ⟨name, ← Reader.take length.toNat⟩

def write (attr : Attribute) : Bytes :=
  Bytes.ofUInt16 attr.name ++ Bytes.bigEndian 4 attr.info.length ++ attr.info

/-- Whether the attribute has a name that can be resolved and is the given one. -/
def hasName (pool : ConstantPool) (name : String) (attr : Attribute) : Bool :=
  match pool.utf8 attr.name with
  | .ok found => found == name
  | .error _ => false

end Attribute

/-- A field or a method. -/
structure Member where
  access : UInt16
  name : UInt16
  descriptor : UInt16
  attributes : List Attribute
  deriving DecidableEq

namespace Member

def read : Reader Member := do
  let access ← Reader.u16
  let name ← Reader.u16
  let descriptor ← Reader.u16
  return ⟨access, name, descriptor, ← Reader.counted Attribute.read⟩

def write (member : Member) : Bytes :=
  Bytes.ofUInt16 member.access ++ Bytes.ofUInt16 member.name ++ Bytes.ofUInt16 member.descriptor
    ++ Bytes.counted Attribute.write member.attributes

/-- The place of the first attribute of a name. -/
def attributeIndex? (member : Member) (pool : ConstantPool) (name : String) : Option Nat :=
  member.attributes.findIdx? (Attribute.hasName pool name)

end Member

end MethodTrace
