import MethodTrace.ClassFile.ConstantPool
import MethodTrace.ClassFile.Descriptor
import MethodTrace.Code.Decoded
import MethodTrace.Code.Exploration

/-!
Operand stack depths.

Each instruction pops and pushes a number of slots. The depths before all instructions follow from
exploring the flow of control; the greatest depth that follows an instruction is what a body has
to declare.
-/

namespace MethodTrace

/-- The slots that an instruction pops and pushes. -/
structure StackEffect where
  pops : UInt16
  pushes : UInt16
  deriving DecidableEq

namespace StackEffect

/-- Effects by runs of opcodes: the last opcode of each run, its pops and its pushes. Operations
whose effect hangs on their operands have none. -/
def runs : List (Opcode × Option StackEffect) :=
  [(0x00, some ⟨0, 0⟩), (0x08, some ⟨0, 1⟩), (0x0a, some ⟨0, 2⟩), (0x0d, some ⟨0, 1⟩),
   (0x0f, some ⟨0, 2⟩), (0x13, some ⟨0, 1⟩), (0x14, some ⟨0, 2⟩),
   -- loads
   (0x15, some ⟨0, 1⟩), (0x16, some ⟨0, 2⟩), (0x17, some ⟨0, 1⟩), (0x18, some ⟨0, 2⟩),
   (0x1d, some ⟨0, 1⟩), (0x21, some ⟨0, 2⟩), (0x25, some ⟨0, 1⟩), (0x29, some ⟨0, 2⟩),
   (0x2d, some ⟨0, 1⟩), (0x2e, some ⟨2, 1⟩), (0x2f, some ⟨2, 2⟩), (0x30, some ⟨2, 1⟩),
   (0x31, some ⟨2, 2⟩), (0x35, some ⟨2, 1⟩),
   -- stores
   (0x36, some ⟨1, 0⟩), (0x37, some ⟨2, 0⟩), (0x38, some ⟨1, 0⟩), (0x39, some ⟨2, 0⟩),
   (0x3e, some ⟨1, 0⟩), (0x42, some ⟨2, 0⟩), (0x46, some ⟨1, 0⟩), (0x4a, some ⟨2, 0⟩),
   (0x4e, some ⟨1, 0⟩), (0x4f, some ⟨3, 0⟩), (0x50, some ⟨4, 0⟩), (0x51, some ⟨3, 0⟩),
   (0x52, some ⟨4, 0⟩), (0x56, some ⟨3, 0⟩),
   -- stack
   (0x57, some ⟨1, 0⟩), (0x58, some ⟨2, 0⟩), (0x59, some ⟨1, 2⟩), (0x5a, some ⟨2, 3⟩),
   (0x5b, some ⟨3, 4⟩), (0x5c, some ⟨2, 4⟩), (0x5d, some ⟨3, 5⟩), (0x5e, some ⟨4, 6⟩),
   (0x5f, some ⟨2, 2⟩),
   -- arithmetic, in the order int, long, float, double
   (0x60, some ⟨2, 1⟩), (0x61, some ⟨4, 2⟩), (0x62, some ⟨2, 1⟩), (0x63, some ⟨4, 2⟩),
   (0x64, some ⟨2, 1⟩), (0x65, some ⟨4, 2⟩), (0x66, some ⟨2, 1⟩), (0x67, some ⟨4, 2⟩),
   (0x68, some ⟨2, 1⟩), (0x69, some ⟨4, 2⟩), (0x6a, some ⟨2, 1⟩), (0x6b, some ⟨4, 2⟩),
   (0x6c, some ⟨2, 1⟩), (0x6d, some ⟨4, 2⟩), (0x6e, some ⟨2, 1⟩), (0x6f, some ⟨4, 2⟩),
   (0x70, some ⟨2, 1⟩), (0x71, some ⟨4, 2⟩), (0x72, some ⟨2, 1⟩), (0x73, some ⟨4, 2⟩),
   (0x74, some ⟨1, 1⟩), (0x75, some ⟨2, 2⟩), (0x76, some ⟨1, 1⟩), (0x77, some ⟨2, 2⟩),
   (0x78, some ⟨2, 1⟩), (0x79, some ⟨3, 2⟩), (0x7a, some ⟨2, 1⟩), (0x7b, some ⟨3, 2⟩),
   (0x7c, some ⟨2, 1⟩), (0x7d, some ⟨3, 2⟩), (0x7e, some ⟨2, 1⟩), (0x7f, some ⟨4, 2⟩),
   (0x80, some ⟨2, 1⟩), (0x81, some ⟨4, 2⟩), (0x82, some ⟨2, 1⟩), (0x83, some ⟨4, 2⟩),
   (0x84, some ⟨0, 0⟩),
   -- conversions and comparisons
   (0x85, some ⟨1, 2⟩), (0x86, some ⟨1, 1⟩), (0x87, some ⟨1, 2⟩), (0x89, some ⟨2, 1⟩),
   (0x8a, some ⟨2, 2⟩), (0x8b, some ⟨1, 1⟩), (0x8d, some ⟨1, 2⟩), (0x8e, some ⟨2, 1⟩),
   (0x8f, some ⟨2, 2⟩), (0x90, some ⟨2, 1⟩), (0x93, some ⟨1, 1⟩), (0x94, some ⟨4, 1⟩),
   (0x96, some ⟨2, 1⟩), (0x98, some ⟨4, 1⟩),
   -- jumps and returns
   (0x9e, some ⟨1, 0⟩), (0xa6, some ⟨2, 0⟩), (0xa7, some ⟨0, 0⟩), (0xa8, some ⟨0, 1⟩),
   (0xa9, some ⟨0, 0⟩), (0xac, some ⟨1, 0⟩), (0xad, some ⟨2, 0⟩), (0xae, some ⟨1, 0⟩),
   (0xaf, some ⟨2, 0⟩), (0xb0, some ⟨1, 0⟩), (0xb1, some ⟨0, 0⟩),
   -- fields and calls, then objects
   (0xba, none), (0xbb, some ⟨0, 1⟩), (0xbe, some ⟨1, 1⟩), (0xbf, some ⟨1, 0⟩),
   (0xc1, some ⟨1, 1⟩), (0xc3, some ⟨1, 0⟩), (0xc5, none), (0xc7, some ⟨1, 0⟩),
   (0xc8, some ⟨0, 0⟩), (0xc9, some ⟨0, 1⟩)]

/-- The effect of an operation that does not hang on its operands. -/
def fixed? (opcode : Opcode) : Option StackEffect :=
  (runs.find? fun run => opcode ≤ run.1).bind (·.2)

/-- The effect of an instruction after `wide`. -/
def ofWide : Instruction → StackEffect
  | .plain _ (inner :: _) =>
    if Opcode.isLoad inner || Opcode.isStore inner then (fixed? inner).getD ⟨0, 0⟩ else ⟨0, 0⟩
  | _ => ⟨0, 0⟩

/-- The constant that a field instruction or a call names. -/
def constantOf (insn : Instruction) : Except ClassFileError UInt16 :=
  match insn.indexOperand? with
  | some index => .ok index
  | none => .error (.code .noConstantOperand)

/-- The effect of reading or writing a field. -/
def ofField (pool : ConstantPool) (insn : Instruction) : Except ClassFileError StackEffect := do
  let field ← pool.memberRef (← constantOf insn)
  let size := FieldType.slotsOfText field.descriptor
  return match insn.opcode with
    | 0xb2 => ⟨0, size⟩
    | 0xb3 => ⟨size, 0⟩
    | 0xb4 => ⟨1, size⟩
    | _ => ⟨1 + size, 0⟩

/-- The effect of a call; all but static and dynamic calls pop a receiver. -/
def ofCall (pool : ConstantPool) (insn : Instruction) : Except ClassFileError StackEffect := do
  let index ← constantOf insn
  let descriptor ←
    if insn.opcode = Opcode.invokedynamic then pool.dynamicDescriptor index
    else (·.descriptor) <$> pool.memberRef index
  let parsed ← MethodDescriptor.parse descriptor
  let receiver : UInt16 :=
    if insn.opcode = Opcode.invokestatic ∨ insn.opcode = Opcode.invokedynamic then 0 else 1
  return ⟨parsed.argumentSlots + receiver, parsed.resultSlots⟩

/-- The effect of creating an array of several dimensions. -/
def ofMultiArray : Instruction → Except ClassFileError StackEffect
  | .plain _ [_, _, dimensions] => .ok ⟨dimensions.toUInt16, 1⟩
  | _ => .error (.code .noDimensions)

/-- The effect of an instruction. -/
def ofInstruction (pool : ConstantPool) (insn : Instruction) :
    Except ClassFileError StackEffect :=
  match fixed? insn.opcode with
  | some effect => .ok effect
  | none =>
    if Opcode.between 0xb2 0xb5 insn.opcode then ofField pool insn
    else if Opcode.between 0xb6 0xba insn.opcode then ofCall pool insn
    else if insn.opcode = Opcode.wide then .ok (ofWide insn)
    else if insn.opcode = Opcode.multianewarray then ofMultiArray insn
    else .error (.code (.noStackEffect insn.opcode))

/-- The depth after an instruction that is reached with `depth` slots. -/
def apply (effect : StackEffect) (depth : UInt16) : UInt16 :=
  depth - effect.pops + effect.pushes

end StackEffect

namespace StackDepth

/-- The depth that an instruction leaves behind, which it must be able to pop. -/
def after (pool : ConstantPool) (insn : Instruction) (label : Label) (depth : UInt16) :
    Except ClassFileError UInt16 := do
  let effect ← StackEffect.ofInstruction pool insn
  if depth < effect.pops then throw (.code (.stackUnderflow label))
  return effect.apply depth

/-- Where an instruction leads to, and with which depths. A subroutine sees the return address
that its call pushed; the caller goes on without it. -/
def next (pool : ConstantPool) (insn : Instruction) (label : Label) (depth : UInt16) :
    Except ClassFileError (List (Label × UInt16)) := do
  let after ← after pool insn label depth
  let jumps := insn.targets.map fun target => (target, after)
  return if insn.opcode.isSubroutineCall then jumps ++ [(label + 1, depth)]
    else if insn.endsBlock then jumps
    else jumps ++ [(label + 1, after)]

/-- The handlers that can be entered: those that cover something. -/
def entered (handlers : List Handler) : List Handler :=
  handlers.filter fun handler => handler.start < handler.stop

/-- Where execution can begin: at the first instruction with an empty stack, and at each handler
with the thrown exception. -/
def roots (instructions : Array Instruction) (handlers : List Handler) : List (Label × UInt16) :=
  (if instructions.isEmpty then [] else [(0, 0)])
    ++ (entered handlers).map fun handler => (handler.handler, 1)

/-- The depth before each instruction that can be reached. -/
def table (instructions : Array Instruction) (handlers : List Handler) (pool : ConstantPool) :
    Except ClassFileError (Array (Option UInt16)) :=
  Exploration.explore
    (fun label depth =>
      match instructions[label]? with
      | some insn => next pool insn label depth
      | none => .ok [])
    (fun _ _ => .code .fallsOffEnd)
    (fun label seen found => .code (.inconsistentDepth label seen found))
    (roots instructions handlers).reverse
    (Array.replicate instructions.size none)

/-- The depth after an instruction that was met with `depth`; nothing for one never met. -/
def depthAfter (pool : ConstantPool) (insn : Instruction) : Option UInt16 → UInt16
  | some depth =>
    match StackEffect.ofInstruction pool insn with
    | .ok effect => effect.apply depth
    | .error _ => 0
  | none => 0

/-- The greatest depth that can be reached. -/
def maximum (instructions : Array Instruction) (handlers : List Handler) (pool : ConstantPool) :
    Except ClassFileError UInt16 := do
  let depths ← table instructions handlers pool
  let start : UInt16 := if (entered handlers).isEmpty then 0 else 1
  return (instructions.toList.zip depths.toList).foldl
    (fun greatest (insn, depth) => max greatest (depthAfter pool insn depth)) start

end StackDepth

end MethodTrace
