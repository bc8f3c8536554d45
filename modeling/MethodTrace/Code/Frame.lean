import MethodTrace.ClassFile.ConstantPool
import MethodTrace.ClassFile.Descriptor
import MethodTrace.Code.Decoded

/-!
Stack map frames, expanded to whole states at labels.

A table stores each frame as a difference to the one before; `Frame.decodeTable` expands it and
`Frame.encodeTable` compresses it again. The frame before the first is the state at method entry.
-/

namespace MethodTrace

/-- The type of a local variable or of an item on the stack. -/
inductive VerificationType
  | top
  | int
  | float
  | double
  | long
  | null
  /-- The object under construction before its superclass constructor has run. -/
  | uninitializedThis
  | object (classRef : UInt16)
  /-- The result of the `new` instruction at a label before its constructor has run. -/
  | uninitialized (label : Label)
  deriving DecidableEq

/-- The state that holds when an instruction is reached. -/
structure Frame where
  label : Label
  locals : List VerificationType
  stack : List VerificationType
  deriving DecidableEq

namespace VerificationType

def read (code : Decoded) : Reader VerificationType := do
  match ← Reader.u8 with
  | 0 => return top
  | 1 => return int
  | 2 => return float
  | 3 => return double
  | 4 => return long
  | 5 => return null
  | 6 => return uninitializedThis
  | 7 => return object (← Reader.u16)
  | 8 =>
    let offset ← Reader.u16
    return uninitialized (← code.labelAt offset.toNat)
  | tag => throw (.code (.unknownVerificationType tag))

def write (offsets : Array Nat) : VerificationType → Bytes
  | top => [0]
  | int => [1]
  | float => [2]
  | double => [3]
  | long => [4]
  | null => [5]
  | uninitializedThis => [6]
  | object classRef => 7 :: Bytes.ofUInt16 classRef
  | uninitialized label => 8 :: Bytes.bigEndian 2 (offsets[label]?.getD 0)

/-- Applies a function to the label of a type that has one. -/
def mapLabel (f : Label → Label) : VerificationType → VerificationType
  | uninitialized label => uninitialized (f label)
  | other => other

/-- The type of a parameter; a class that it names is added to the pool. -/
def ofField (type : FieldType) : ConstantPool.Extend VerificationType :=
  match type with
  | ⟨0, .object name⟩ => return object (← ConstantPool.classIndex (String.ofList name))
  | ⟨0, .float⟩ => return float
  | ⟨0, .long⟩ => return long
  | ⟨0, .double⟩ => return double
  | ⟨0, _⟩ => return int
  | array => return object (← ConstantPool.classIndex (String.ofList array.render))

end VerificationType

/-- A method as far as its state at entry depends on it. -/
structure MethodSignature where
  className : String
  name : String
  descriptor : String
  access : UInt16

namespace MethodSignature

/-- The flag of methods without a receiver. -/
def staticFlag : UInt16 := 0x0008

/-- The name of constructors. -/
def constructorName : String := "<init>"

/-- The type of the receiver at method entry. -/
def receiver (method : MethodSignature) : ConstantPool.Extend (List VerificationType) := do
  if method.access &&& staticFlag ≠ 0 then return []
  else if method.name = constructorName ∧ method.className ≠ "java/lang/Object" then
    return [.uninitializedThis]
  else return [.object (← ConstantPool.classIndex method.className)]

/-- The locals at method entry: the receiver and the parameters. -/
def initialLocals (method : MethodSignature) : ConstantPool.Extend (List VerificationType) := do
  let receiver ← method.receiver
  let descriptor ← MonadExcept.ofExcept (MethodDescriptor.parse method.descriptor)
  return receiver ++ (← descriptor.params.mapM VerificationType.ofField)

end MethodSignature

namespace Frame

/-- Applies a function to every label of a frame. -/
def mapLabels (f : Label → Label) (frame : Frame) : Frame where
  label := f frame.label
  locals := frame.locals.map (·.mapLabel f)
  stack := frame.stack.map (·.mapLabel f)

/-- Reads a frame after its form: the step to its offset, its locals and its stack. -/
def readForm (code : Decoded) (locals : List VerificationType) (form : UInt8) :
    Reader (UInt16 × List VerificationType × List VerificationType) := do
  if form < 64 then return (form.toUInt16, locals, [])
  else if form < 128 then
    return (form.toUInt16 - 64, locals, [← VerificationType.read code])
  else if form < 247 then throw (.code (.reservedFrame form))
  else if form = 247 then
    let step ← Reader.u16
    return (step, locals, [← VerificationType.read code])
  else if form < 251 then
    let removed := 251 - form.toNat
    if locals.length < removed then throw (.code .chopTooMany)
    return (← Reader.u16, locals.take (locals.length - removed), [])
  else if form < 255 then
    let step ← Reader.u16
    let added ← Reader.times (form.toNat - 251) (VerificationType.read code)
    return (step, locals ++ added, [])
  else
    let step ← Reader.u16
    let locals ← Reader.counted (VerificationType.read code)
    return (step, locals, ← Reader.counted (VerificationType.read code))

/-- What is known after a frame: the offset that the next step counts from, and the locals. -/
structure Cursor where
  nextOffset : Nat
  locals : List VerificationType

/-- Reads the next frame. -/
def readNext (code : Decoded) (cursor : Cursor) : Reader (Frame × Cursor) := do
  let (step, locals, stack) ← readForm code cursor.locals (← Reader.u8)
  let offset := cursor.nextOffset + step.toNat
  let label ← code.labelAt offset
  return (⟨label, locals, stack⟩, ⟨offset + 1, locals⟩)

/-- Reads a number of frames and adds them to those before, the last one first. -/
def readAll (code : Decoded) : (count : Nat) → Cursor → List Frame → Reader (List Frame)
  | 0, _, before => return before.reverse
  | count + 1, cursor, before => do
    let (frame, cursor) ← readNext code cursor
    readAll code count cursor (frame :: before)

/-- Expands a table. -/
def decodeTable (info : Bytes) (initial : List VerificationType) (code : Decoded) :
    Except ClassFileError (List Frame) := do
  let reader : Reader (List Frame) := do
    let count ← Reader.u16
    readAll code count.toNat ⟨0, initial⟩ []
  let (frames, rest) ← reader.onSlice info
  if rest ≠ [] then throw (.code .trailingFrames)
  return frames

/-- The bytes of a frame that follows other locals, in the shortest form that fits. `step` is the
distance to the offset after the frame before. -/
def write (offsets : Array Nat) (previous : List VerificationType) (step : UInt16)
    (frame : Frame) : Bytes :=
  let types (list : List VerificationType) : Bytes := list.flatMap (·.write offsets)
  let known := previous.length
  let count := frame.locals.length
  match frame.stack, frame.locals == previous with
  | [], true => if step < 64 then [step.toUInt8] else 251 :: Bytes.ofUInt16 step
  | [item], true =>
    (if step < 64 then [64 + step.toUInt8] else 247 :: Bytes.ofUInt16 step) ++ item.write offsets
  | stack, _ =>
    if stack.isEmpty && known < count && count ≤ known + 3
        && previous.isPrefixOf frame.locals then
      UInt8.ofNat (251 + (count - known)) :: Bytes.ofUInt16 step
        ++ types (frame.locals.drop known)
    else if stack.isEmpty && count < known && known ≤ count + 3
        && frame.locals.isPrefixOf previous then
      UInt8.ofNat (251 - (known - count)) :: Bytes.ofUInt16 step
    else
      255 :: Bytes.ofUInt16 step ++ Bytes.bigEndian 2 count ++ types frame.locals
        ++ Bytes.bigEndian 2 stack.length ++ types stack

/-- The bytes of frames that follow a cursor. -/
def writeAll (offsets : Array Nat) (nextOffset : Int) (previous : List VerificationType) :
    List Frame → Bytes
  | [] => []
  | frame :: rest =>
    let offset := offsets[frame.label]?.getD 0
    let step := UInt16.ofNat ((offset - nextOffset) % 65536).toNat
    frame.write offsets previous step ++ writeAll offsets (offset + 1) frame.locals rest

/-- Compresses frames to a table. -/
def encodeTable (frames : List Frame) (initial : List VerificationType) (offsets : Array Nat) :
    Bytes :=
  Bytes.bigEndian 2 frames.length ++ writeAll offsets 0 initial frames

end Frame

end MethodTrace
