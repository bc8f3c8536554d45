/-!
Opcodes: the ones that the library names, their families, and the sizes of their operands.
-/

namespace MethodTrace

/-- The number of an operation. -/
abbrev Opcode := UInt8

namespace Opcode

def ldc : Opcode := 0x12
def ldcW : Opcode := 0x13
def iinc : Opcode := 0x84
def goto : Opcode := 0xa7
def jsr : Opcode := 0xa8
def ret : Opcode := 0xa9
def tableswitch : Opcode := 0xaa
def lookupswitch : Opcode := 0xab
def invokespecial : Opcode := 0xb7
def invokestatic : Opcode := 0xb8
def invokedynamic : Opcode := 0xba
def new : Opcode := 0xbb
def athrow : Opcode := 0xbf
def wide : Opcode := 0xc4
def multianewarray : Opcode := 0xc5
def gotoW : Opcode := 0xc8
def jsrW : Opcode := 0xc9

/-- Whether an opcode lies between two others, both included. -/
def between (first last opcode : Opcode) : Bool :=
  first ≤ opcode && opcode ≤ last

/-- The six operations that return from a method. -/
def isReturn (opcode : Opcode) : Bool :=
  between 0xac 0xb1 opcode

/-- Branches with an offset of two bytes. -/
def isShortBranch (opcode : Opcode) : Bool :=
  between 0x99 0xa8 opcode || between 0xc6 0xc7 opcode

/-- Branches with an offset of four bytes. -/
def isLongBranch (opcode : Opcode) : Bool :=
  opcode == gotoW || opcode == jsrW

/-- Calls of a subroutine. -/
def isSubroutineCall (opcode : Opcode) : Bool :=
  opcode == jsr || opcode == jsrW

/-- Loads and stores of a local variable that is named by an operand. -/
def isLoad (opcode : Opcode) : Bool :=
  between 0x15 0x19 opcode

def isStore (opcode : Opcode) : Bool :=
  between 0x36 0x3a opcode

/-- The operations that may follow `wide`. -/
def takesWide (opcode : Opcode) : Bool :=
  isLoad opcode || isStore opcode || opcode == ret || opcode == iinc

/-- Operand sizes by runs of opcodes: the last opcode of each run, and the size. Branches, switches,
`wide` and the numbers that stand for no operation have none. -/
def operandRuns : List (Opcode × Option Nat) :=
  [(0x0f, some 0), (0x10, some 1), (0x11, some 2), (0x12, some 1), (0x14, some 2), (0x19, some 1),
   (0x35, some 0), (0x3a, some 1), (0x83, some 0), (0x84, some 2), (0x98, some 0), (0xa8, none),
   (0xa9, some 1), (0xab, none), (0xb1, some 0), (0xb8, some 2), (0xba, some 4), (0xbb, some 2),
   (0xbc, some 1), (0xbd, some 2), (0xbf, some 0), (0xc1, some 2), (0xc3, some 0), (0xc4, none),
   (0xc5, some 3)]

/-- The size of the operands of an operation, where it does not depend on the place. -/
def operandLength? (opcode : Opcode) : Option Nat :=
  (operandRuns.find? fun run => opcode ≤ run.1).bind (·.2)

end Opcode

end MethodTrace
