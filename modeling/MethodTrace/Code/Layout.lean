import MethodTrace.Code.Decoded

/-!
Layout: the offsets that instructions get, and the bytes they are written as.

Jumps that do not fit into two bytes are widened where a wide form exists. Each widening moves what
comes after it, so passes are repeated until one of them finds nothing left to widen.
-/

namespace MethodTrace

/-- A list of instructions in its final widths, with the offset of each and the total length. -/
structure Layout where
  instructions : Array Instruction
  offsets : Array Nat
  deriving DecidableEq

namespace Layout

/-- The offsets of instructions that begin at `offset`, and the offset behind the last. -/
def offsetsFrom (offset : Nat) (instructions : List Instruction) (before : Array Nat) :
    Array Nat :=
  match instructions with
  | [] => before.push offset
  | insn :: rest => offsetsFrom (offset + insn.size offset) rest (before.push offset)

/-- The offsets of a list of instructions, and its total length at the end. -/
def offsetsOf (instructions : Array Instruction) : Array Nat :=
  offsetsFrom 0 instructions.toList #[]

/-- The distance between two labels. -/
def delta (offsets : Array Nat) (source target : Label) : Int :=
  (offsets[target]?.getD 0 : Int) - offsets[source]?.getD 0

/-- Whether a distance fits into two bytes. -/
def fitsShort (distance : Int) : Bool :=
  -32768 ≤ distance && distance ≤ 32767

/-- Whether an instruction is a short branch that does not reach its target. -/
def overflows (offsets : Array Nat) (label : Label) : Instruction → Bool
  | .branch opcode target => opcode.isShortBranch && !fitsShort (delta offsets label target)
  | _ => false

/-- The wide form of a jump that has one. -/
def wideForm? (opcode : Opcode) : Option Opcode :=
  if opcode = Opcode.goto then some Opcode.gotoW
  else if opcode = Opcode.jsr then some Opcode.jsrW
  else none

/-- Widens an instruction if it does not reach its target. -/
def widen (offsets : Array Nat) (insn : Instruction) (label : Label) :
    Except ClassFileError Instruction :=
  match insn with
  | .branch opcode target =>
    if overflows offsets label insn then
      match wideForm? opcode with
      | some wide => .ok (.branch wide target)
      | none =>
        .error (.tooLarge (.conditionalSpan opcode (delta offsets label target)))
    else .ok insn
  | _ => .ok insn

/-- Whether an instruction is a jump that could still be widened. -/
def isNarrow : Instruction → Bool
  | .branch opcode _ => (wideForm? opcode).isSome
  | _ => false

/-- One pass: every jump that does not reach its target is widened. -/
def pass (offsets : Array Nat) (instructions : Array Instruction) :
    Except ClassFileError (Array Instruction) := do
  let widened ← instructions.toList.zipIdx.mapM fun (insn, label) => widen offsets insn label
  return widened.toArray

end Layout

/-- Lays out instructions. A pass that leaves fewer narrow jumps is followed by another one. -/
def layout (instructions : Array Instruction) : Except ClassFileError Layout :=
  let offsets := Layout.offsetsOf instructions
  let total := offsets.back?.getD 0
  if maxCodeLength < total then .error (.tooLarge (.length total))
  else
    match Layout.pass offsets instructions with
    | .error e => .error e
    | .ok widened =>
      if widened.countP Layout.isNarrow < instructions.countP Layout.isNarrow then layout widened
      else .ok ⟨instructions, offsets⟩
termination_by instructions.countP Layout.isNarrow

namespace Layout

/-- The operand bytes of an instruction at a label. -/
def operands (offsets : Array Nat) (label : Label) : Instruction → Bytes
  | .plain _ operands => operands
  | .branch opcode target =>
    Bytes.ofInt (if opcode.isLongBranch then 4 else 2) (delta offsets label target)
  | .tableSwitch fallback low targets =>
    List.replicate (Instruction.padding (offsets[label]?.getD 0)) 0
      ++ Bytes.ofInt 4 (delta offsets label fallback) ++ Bytes.ofInt 4 low.toInt
      ++ Bytes.ofInt 4 (low + Int32.ofNat targets.length - 1).toInt
      ++ targets.flatMap fun target => Bytes.ofInt 4 (delta offsets label target)
  | .lookupSwitch fallback pairs =>
    List.replicate (Instruction.padding (offsets[label]?.getD 0)) 0
      ++ Bytes.ofInt 4 (delta offsets label fallback) ++ Bytes.bigEndian 4 pairs.length
      ++ pairs.flatMap fun (key, target) =>
        Bytes.ofInt 4 key.toInt ++ Bytes.ofInt 4 (delta offsets label target)

/-- The bytecode of laid out instructions. -/
def encode (instructions : Array Instruction) (offsets : Array Nat) : Bytes :=
  instructions.toList.zipIdx.flatMap fun (insn, label) =>
    insn.opcode :: operands offsets label insn

/-- The bytecode of a layout. -/
def toCode (layout : Layout) : Bytes :=
  encode layout.instructions layout.offsets

end Layout

end MethodTrace
