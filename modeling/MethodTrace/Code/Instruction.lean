import MethodTrace.Bytes
import MethodTrace.Code.Opcode

/-!
Instructions whose jumps name other instructions by their place in the list, never by an offset.
-/

namespace MethodTrace

/-- The place of an instruction in its list; the length of the list stands for the end of code. -/
abbrev Label := Nat

/-- One instruction. -/
inductive Instruction
  /-- An instruction without jumps; `wide` has the opcode that it modifies as its first operand. -/
  | plain (opcode : Opcode) (operands : Bytes)
  | branch (opcode : Opcode) (target : Label)
  /-- The targets belong to `low` and the keys that follow it. -/
  | tableSwitch (fallback : Label) (low : Int32) (targets : List Label)
  | lookupSwitch (fallback : Label) (pairs : List (Int32 × Label))
  deriving DecidableEq

namespace Instruction

/-- An instruction with a constant as its operand. -/
def withIndex (opcode : Opcode) (index : UInt16) : Instruction :=
  plain opcode (Bytes.bigEndian 2 index.toNat)

def opcode : Instruction → Opcode
  | plain opcode _ => opcode
  | branch opcode _ => opcode
  | tableSwitch _ _ _ => Opcode.tableswitch
  | lookupSwitch _ _ => Opcode.lookupswitch

/-- The constant that the first two operand bytes name. -/
def indexOperand? : Instruction → Option UInt16
  | plain _ (high :: low :: _) => some (UInt16.ofNat (Bytes.ofBigEndian [high, low]))
  | _ => none

/-- Whether execution never goes on to the next instruction. -/
def endsBlock : Instruction → Bool
  | plain opcode operands =>
    opcode.isReturn || opcode == Opcode.athrow || opcode == Opcode.ret
      || (opcode == Opcode.wide && operands.head? == some Opcode.ret)
  | branch opcode _ => opcode == Opcode.goto || opcode == Opcode.gotoW
  | tableSwitch _ _ _ | lookupSwitch _ _ => true

/-- The labels that an instruction can jump to, the fallback of a switch first. -/
def targets : Instruction → List Label
  | plain _ _ => []
  | branch _ target => [target]
  | tableSwitch fallback _ targets => fallback :: targets
  | lookupSwitch fallback pairs => fallback :: pairs.map (·.2)

/-- Applies a function to every target, in the order of `targets`. -/
def mapTargetsM [Monad m] (f : Label → m Label) : Instruction → m Instruction
  | plain opcode operands => return plain opcode operands
  | branch opcode target => return branch opcode (← f target)
  | tableSwitch fallback low targets => do
    let fallback ← f fallback
    return tableSwitch fallback low (← targets.mapM f)
  | lookupSwitch fallback pairs => do
    let fallback ← f fallback
    return lookupSwitch fallback (← pairs.mapM fun (key, target) => return (key, ← f target))

/-- Applies a function to every target. -/
def mapTargets (f : Label → Label) : Instruction → Instruction
  | plain opcode operands => plain opcode operands
  | branch opcode target => branch opcode (f target)
  | tableSwitch fallback low targets => tableSwitch (f fallback) low (targets.map f)
  | lookupSwitch fallback pairs => lookupSwitch (f fallback) (pairs.map fun p => (p.1, f p.2))

/-- The zeros between a switch at an offset and its operands, which are aligned to four bytes. -/
def padding (offset : Nat) : Nat :=
  3 - offset % 4

/-- The size of an instruction at an offset. -/
def size (offset : Nat) : Instruction → Nat
  | plain _ operands => 1 + operands.length
  | branch opcode _ => if opcode.isLongBranch then 5 else 3
  | tableSwitch _ _ targets => 1 + padding offset + 12 + 4 * targets.length
  | lookupSwitch _ pairs => 1 + padding offset + 8 + 8 * pairs.length

theorem one_le_size (offset : Nat) (insn : Instruction) : 1 ≤ insn.size offset := by
  cases insn <;> simp only [size] <;> (try split) <;> omega

end Instruction

end MethodTrace
