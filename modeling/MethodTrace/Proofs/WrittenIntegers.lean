import MethodTrace.Proofs.CodeRoundTrip

/-!
The integers that are formed while code is written.

Lengths and distances are bounded by the size of a body, and a short distance by the last round of the
layout. The keys of a table are not: its last key is found from the first one by adding the number of
targets before one is taken away, and where the last key is the greatest word there is, the sum is none.
-/

namespace MethodTrace

open Layout

/-- An integer that a word of some bytes holds in two's complement. -/
def Bytes.Holds (width : Nat) (value : Int) : Prop :=
  -(limit width : Int) ≤ 2 * value ∧ 2 * value < limit width

open Bytes (Holds)

namespace Instruction

variable {offsets : Array Nat} {label : Label} {insn widened : Instruction} {total : Nat}

end Instruction

open Instruction

variable {code : Bytes} {decoded : Decoded} {instructions : Array Instruction} {result : Layout}
  {label : Nat} {insn : Instruction}

end MethodTrace
