import MethodTrace.Code.Frame
import MethodTrace.Trace.Hooks

/-!
Where the tracing of a method begins, and whether it begins there already.

An ordinary method is traced from its first instruction on, a constructor from the call that
initializes its object.
-/

namespace MethodTrace.Entry

/-- The constant that a call of a superclass or private method names. -/
def callee (pool : ConstantPool) (insn : Instruction) : Except ClassFileError MemberRef :=
  match insn.indexOperand? with
  | some index => pool.memberRef index
  | none => .error (.code .noCalleeOperand)

/-- Looks for the first constructor call that no `new` before it calls for; `pending` such
instructions are waiting for theirs. -/
def constructorCallFrom (pool : ConstantPool) (label : Label) (pending : Nat) :
    List Instruction → Except ClassFileError (Option Label)
  | [] => .ok none
  | insn :: rest =>
    if insn.opcode = Opcode.new then constructorCallFrom pool (label + 1) (pending + 1) rest
    else if insn.opcode = Opcode.invokespecial then
      match callee pool insn with
      | .error e => .error e
      | .ok callee =>
        if callee.name ≠ MethodSignature.constructorName then
          constructorCallFrom pool (label + 1) pending rest
        else
          match pending with
          | 0 => .ok (some label)
          | pending + 1 => constructorCallFrom pool (label + 1) pending rest
    else constructorCallFrom pool (label + 1) pending rest

/-- The call by which a constructor initializes its object. -/
def constructorCall? (pool : ConstantPool) (instructions : Array Instruction) :
    Except ClassFileError (Option Label) :=
  constructorCallFrom pool 0 0 instructions.toList

/-- The label before which a method of some name is entered. -/
def anchor (pool : ConstantPool) (name : String) (instructions : Array Instruction) :
    Except ClassFileError Label := do
  if name ≠ MethodSignature.constructorName then return 0
  match ← constructorCall? pool instructions with
  | some call => return call + 1
  | none => return 0

/-- The constant that an instruction loads. -/
def loadedIndex? : Instruction → Option UInt16
  | .plain opcode operands =>
    if opcode = Opcode.ldc then
      match operands with
      | [index] => some index.toUInt16
      | _ => none
    else if opcode = Opcode.ldcW then (Instruction.plain opcode operands).indexOperand?
    else none
  | _ => none

/-- Whether an instruction loads a text. -/
def loadsText (pool : ConstantPool) (text : String) (insn : Instruction) :
    Except ClassFileError Bool :=
  match (loadedIndex? insn).bind pool.get? with
  | some (.string index) => return (← pool.utf8 index) == text
  | _ => return false

/-- Whether an instruction is a static call of a method. -/
def callsMethod (pool : ConstantPool) (method : MemberRef) (insn : Instruction) :
    Except ClassFileError Bool :=
  if insn.opcode = Opcode.invokestatic then
    match insn.indexOperand? with
    | some index => return (← pool.memberRef index) == method
    | none => return false
  else return false

/-- Whether a method is traced already: whether it loads its tag and calls the begin hook where it
is entered. -/
def isTraced (pool : ConstantPool) (hooks : Hooks) (name tag : String)
    (instructions : Array Instruction) : Except ClassFileError Bool := do
  let anchor ← anchor pool name instructions
  match instructions[anchor]?, instructions[anchor + 1]? with
  | some load, some call =>
    if ← loadsText pool tag load then callsMethod pool hooks.beginHook call else return false
  | _, _ => return false

end MethodTrace.Entry
