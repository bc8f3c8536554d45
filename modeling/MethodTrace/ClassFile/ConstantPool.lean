import MethodTrace.ClassFile.Constant
import MethodTrace.ClassFile.ModifiedUtf8

/-!
Constant pools: the numbered constants of a class file.

A pool is read and written as a whole, its constants are resolved by number, and new ones are only
ever appended, so that a number that once meant something keeps its meaning.
-/

namespace MethodTrace

/-- The slots of a constant pool, from slot zero on. -/
structure ConstantPool where
  slots : Array Constant
  deriving DecidableEq

/-- A method or field that a constant names. -/
structure MemberRef where
  owner : String
  name : String
  descriptor : String
  deriving DecidableEq

namespace ConstantPool

/-- The pool that holds nothing but its reserved slot. -/
def empty : ConstantPool := ⟨#[.unusable]⟩

/-- The number of slots. -/
def size (pool : ConstantPool) : Nat := pool.slots.size

/-- Reads constants until the slot counter, a word of two bytes, reaches `count`. As each constant
takes at least one byte, `fuel` may be any bound on the bytes that are left. -/
def readSlots (count : UInt16) : (fuel : Nat) → (index : UInt16) → Array Constant →
    Reader (Array Constant)
  | 0, _, slots => return slots
  | fuel + 1, index, slots => do
    if index < count then
      let constant ← Constant.read index
      readSlots count fuel (if constant.isWide then index + 2 else index + 1)
        (slots ++ constant.slots)
    else return slots

/-- Reads a pool: the count of its slots, then the constants. -/
def read : Reader ConstantPool := do
  let count ← Reader.u16
  let extent ← MonadReader.read
  return ⟨← readSlots count (extent + 1) 1 #[.unusable]⟩

/-- The bytes of a pool. -/
def write (pool : ConstantPool) : Bytes :=
  Bytes.bigEndian 2 pool.size ++ (pool.slots.toList.drop 1).flatMap Constant.write

/-- The constant in a slot. -/
def get? (pool : ConstantPool) (index : UInt16) : Option Constant :=
  pool.slots[index.toNat]?

/-- The text in a slot. -/
def utf8 (pool : ConstantPool) (index : UInt16) : Except ClassFileError String :=
  match pool.get? index with
  | some (.utf8 bytes) => .ok (ModifiedUtf8.decode bytes)
  | _ => .error (.badConstantIndex index .utf8)

/-- The name of the class in a slot. -/
def className (pool : ConstantPool) (index : UInt16) : Except ClassFileError String :=
  match pool.get? index with
  | some (.classRef name) => pool.utf8 name
  | _ => .error (.badConstantIndex index .classRef)

/-- The name and the descriptor in a slot. -/
def nameAndType (pool : ConstantPool) (index : UInt16) :
    Except ClassFileError (String × String) :=
  match pool.get? index with
  | some (.nameAndType name descriptor) => do
    return (← pool.utf8 name, ← pool.utf8 descriptor)
  | _ => .error (.badConstantIndex index .nameAndType)

/-- The owner, name and descriptor that a pair of slots names. -/
def resolveMember (pool : ConstantPool) (owner nameAndType : UInt16) :
    Except ClassFileError MemberRef := do
  let (name, descriptor) ← pool.nameAndType nameAndType
  return ⟨← pool.className owner, name, descriptor⟩

/-- The field, method or interface method in a slot. -/
def memberRef (pool : ConstantPool) (index : UInt16) : Except ClassFileError MemberRef :=
  match pool.get? index with
  | some (.fieldref owner member) => pool.resolveMember owner member
  | some (.methodref owner member) => pool.resolveMember owner member
  | some (.interfaceMethodref owner member) => pool.resolveMember owner member
  | _ => .error (.badConstantIndex index .memberRef)

/-- The descriptor of the dynamic constant or call site in a slot. -/
def dynamicDescriptor (pool : ConstantPool) (index : UInt16) : Except ClassFileError String :=
  match pool.get? index with
  | some (.invokeDynamic _ member) => return (← pool.nameAndType member).2
  | some (.dynamic _ member) => return (← pool.nameAndType member).2
  | _ => .error (.badConstantIndex index .invokeDynamic)

/-- Steps that extend a pool. A step that fails keeps what was added before. -/
abbrev Extend := ExceptT ClassFileError (StateM ConstantPool)

/-- Appends a constant, unless the pool is full. -/
def append (constant : Constant) : Extend UInt16 := do
  let pool ← get
  if 65535 ≤ pool.size then throw .constantPoolOverflow
  set (ConstantPool.mk (pool.slots.push constant))
  return UInt16.ofNat pool.size

/-- The first slot that holds a constant. -/
def find? (pool : ConstantPool) (constant : Constant) : Option UInt16 :=
  (pool.slots.findIdx? (· == constant)).map UInt16.ofNat

/-- The slot of a constant, appended if no slot holds it. -/
def findOrAppend (constant : Constant) : Extend UInt16 := do
  match (← get).find? constant with
  | some index => return index
  | none => append constant

/-- The slot of a text. -/
def utf8Index (text : String) : Extend UInt16 :=
  findOrAppend (.utf8 (ModifiedUtf8.encode text))

/-- The slot of a class. -/
def classIndex (name : String) : Extend UInt16 := do
  findOrAppend (.classRef (← utf8Index name))

/-- The slot of a string constant. -/
def stringIndex (text : String) : Extend UInt16 := do
  findOrAppend (.string (← utf8Index text))

/-- The slot of a method reference. -/
def methodrefIndex (method : MemberRef) : Extend UInt16 := do
  let owner ← classIndex method.owner
  let name ← utf8Index method.name
  let descriptor ← utf8Index method.descriptor
  let member ← findOrAppend (.nameAndType name descriptor)
  findOrAppend (.methodref owner member)

/-- The result of extending a pool, with the pool that it leaves. -/
def extend (pool : ConstantPool) (steps : Extend α) : Except ClassFileError α × ConstantPool :=
  steps.run.run pool

end ConstantPool

end MethodTrace
