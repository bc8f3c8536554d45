import MethodTrace.Code.Instruction

/-!
Weaving of hook calls into a list of instructions.

The prologue goes before the anchor and an end call before every return. Each old label gets a new
one: jumps to a return now meet its end call, and jumps to the anchor skip the prologue.
-/

namespace MethodTrace

/-- What is woven into a method, and where. -/
structure Markers where
  anchor : Label
  prologue : List Instruction
  endCall : Instruction

/-- Instructions with their markers, and how the old labels correspond to the new ones. -/
structure Weaving where
  instructions : Array Instruction
  /-- The new label of each old one. -/
  relocation : Array Label
  /-- The ranges from an end call up to behind its return, in ascending order. -/
  exits : Array (Label × Label)

namespace Weaving

/-- Weaves one more instruction, whose old label is the number of those before. -/
def add (markers : Markers) (woven : Weaving) (insn : Instruction) : Weaving :=
  let opened :=
    if woven.relocation.size = markers.anchor then woven.instructions ++ markers.prologue
    else woven.instructions
  let relocation := woven.relocation.push opened.size
  if insn.opcode.isReturn then
    { instructions := (opened.push markers.endCall).push insn
      relocation
      exits := woven.exits.push (opened.size, opened.size + 2) }
  else { instructions := opened.push insn, relocation, exits := woven.exits }

/-- The new label of an old one. -/
def relocate (woven : Weaving) (label : Label) : Label :=
  woven.relocation[label]?.getD 0

/-- Weaves markers into instructions and relocates their jumps. -/
def weave (markers : Markers) (instructions : Array Instruction) : Weaving :=
  let woven := instructions.foldl (add markers) ⟨#[], #[], #[]⟩
  let woven := { woven with relocation := woven.relocation.push woven.instructions.size }
  { woven with instructions := woven.instructions.map (·.mapTargets woven.relocate) }

/-- The non-empty ranges from `cursor` up to `stop` that lie between exits. -/
def gaps (cursor stop : Label) : List (Label × Label) → List (Label × Label)
  | [] => if cursor < stop then [(cursor, stop)] else []
  | (first, last) :: exits =>
    if last ≤ cursor then gaps cursor stop exits
    else if cursor < first then (cursor, first) :: gaps last stop exits
    else gaps last stop exits

/-- The ranges in which an exception has to be caught: the body from the anchor on, without the
exits. -/
def protectedRanges (woven : Weaving) (anchor : Label) : List (Label × Label) :=
  gaps (woven.relocate (min anchor (woven.relocation.size - 1))) woven.instructions.size
    woven.exits.toList

end Weaving

end MethodTrace
