import MethodTrace.ClassFile.Reader
import MethodTrace.Code.Body
import MethodTrace.Code.Instruction

/-!
Decoding of bytecode into instructions.

A first pass cuts the bytes into instructions whose targets are still offsets; a second one turns
every offset into a label, which fails for an offset that is no instruction boundary.
-/

namespace MethodTrace

/-- An exception handler in labels; it covers the labels from `start` up to but not `stop`. -/
structure Handler where
  start : Label
  stop : Label
  handler : Label
  catchType : UInt16
  deriving DecidableEq

/-- Whether a handler covers a label. -/
def Handler.covers (handler : Handler) (label : Label) : Bool :=
  handler.start ≤ label && label < handler.stop

/-- Instructions and the offsets they were found at. -/
structure Decoded where
  instructions : Array Instruction
  /-- The offset of each instruction, and the length of the code. -/
  offsets : Array Nat
  deriving DecidableEq

namespace Decoded

/-- The place of a value in an ascending array, looked for from `low` up to but not `high`. -/
def search (values : Array Nat) (value low high : Nat) : Option Nat :=
  if low < high then
    let middle := (low + high) / 2
    let found := values[middle]?.getD 0
    if found = value then some middle
    else if found < value then search values value (middle + 1) high
    else search values value low middle
  else none
termination_by high - low

/-- The instruction that starts at an offset; the length of the code leads to the end label. -/
def labelAt (decoded : Decoded) (offset : Nat) : Except ClassFileError Label :=
  match search decoded.offsets offset 0 decoded.offsets.size with
  | some label => .ok label
  | none => .error (.code (.notBoundary offset))

/-- The exception table in labels. -/
def handlers (decoded : Decoded) (rows : List ExceptionRow) :
    Except ClassFileError (List Handler) :=
  rows.mapM fun row => do
    let start ← decoded.labelAt row.start.toNat
    let stop ← decoded.labelAt row.stop.toNat
    let handler ← decoded.labelAt row.handler.toNat
    return ⟨start, stop, handler, row.catchType⟩

end Decoded

namespace Instruction

/-- The offset that a jump from `offset` by `delta` leads to, in code of `total` bytes. -/
def jump (total offset : Nat) (delta : Int) : Except ClassFileError Nat :=
  let target := offset + delta
  if target < 0 ∨ total < target then .error (.code (.branchOutside offset target))
  else .ok target.toNat

/-- Reads a jump of two bytes. -/
def readShortJump (total offset : Nat) : Reader Nat := do
  jump total offset (← Reader.u16).toInt16.toInt

/-- Reads a jump of four bytes. -/
def readLongJump (total offset : Nat) : Reader Nat := do
  jump total offset (← Reader.i32).toInt

def readTableSwitch (total offset : Nat) : Reader Instruction := do
  let _ ← Reader.take (padding offset)
  let fallback ← readLongJump total offset
  let low ← Reader.i32
  let high ← Reader.i32
  if high < low then throw (.code (.emptyTable offset high low))
  let count := (high.toInt - low.toInt + 1).toNat
  if total < count then throw (.truncated total)
  return tableSwitch fallback low (← Reader.times count (readLongJump total offset))

def readLookupSwitch (total offset : Nat) : Reader Instruction := do
  let _ ← Reader.take (padding offset)
  let fallback ← readLongJump total offset
  let count ← Reader.i32
  if count < 0 ∨ total < count.toInt.toNat then throw (.code (.pairCount offset count))
  let pair : Reader (Int32 × Label) := do
    let key ← Reader.i32
    return (key, ← readLongJump total offset)
  return lookupSwitch fallback (← Reader.times count.toInt.toNat pair)

/-- Reads the modified instruction after `wide`, whose end is checked against the whole code. -/
def readWide (total offset : Nat) : Reader Instruction := do
  let rest ← get
  let inner : Opcode ← Reader.u8
  if !inner.takesWide then throw (.code (.wideOpcode offset inner))
  let length := if inner = Opcode.iinc then 5 else 3
  let operands := rest.take length
  if operands.length < length then throw (.truncated total)
  return plain Opcode.wide operands

/-- Reads what follows an opcode at `offset`; the targets of the result are offsets. -/
def readAfter (total offset : Nat) (opcode : Opcode) : Reader Instruction := do
  if opcode.isShortBranch then return branch opcode (← readShortJump total offset)
  else if opcode.isLongBranch then return branch opcode (← readLongJump total offset)
  else if opcode = Opcode.tableswitch then readTableSwitch total offset
  else if opcode = Opcode.lookupswitch then readLookupSwitch total offset
  else if opcode = Opcode.wide then readWide total offset
  else
    match opcode.operandLength? with
    | some length => return plain opcode (← Reader.take length)
    | none => throw (.code (.unknownOpcode offset opcode))

end Instruction

namespace Decoded

/-- Cuts code from `offset` on into instructions and adds them to those before. -/
def cut (total offset : Nat) (code : Bytes) (before : Decoded) :
    Except ClassFileError Decoded :=
  match code with
  | [] => .ok { before with offsets := before.offsets.push total }
  | opcode :: rest => do
    let (insn, _) ←
      (Instruction.readAfter total offset opcode).onPart (total - offset - 1) rest
    let next := offset + insn.size offset
    if total < next then throw (.truncated total)
    cut total next (rest.drop (insn.size offset - 1))
      { instructions := before.instructions.push insn, offsets := before.offsets.push offset }
termination_by code.length
decreasing_by simp only [List.length_drop, List.length_cons]; omega

/-- Decodes a code array. -/
def ofCode (code : Bytes) : Except ClassFileError Decoded := do
  let raw ← cut code.length 0 code ⟨#[], #[]⟩
  let labelled ← raw.instructions.toList.mapM (·.mapTargetsM raw.labelAt)
  return { raw with instructions := labelled.toArray }

end Decoded

/-- Instructions and their handlers in the order of their priority. -/
structure Flow where
  instructions : Array Instruction
  handlers : List Handler
  deriving DecidableEq

end MethodTrace
