import MethodTrace.Code.Decoded
import MethodTrace.Code.Instruction
import Mathlib

/-!
Where control can go in a flow.

An instruction is left by going on to the next one, by a jump to one of its targets, by a return,
or by an exception. An exception is seen by the handlers that cover its place, in their order and up
to the first that catches all; where there is no such handler, it may also escape.
-/

namespace MethodTrace

/-- A way out of an instruction. -/
inductive Exit
  | next
  | jump (index : Nat)
  | returned
  | caught (index : Nat)
  | escaped
  deriving DecidableEq

namespace Flow

variable {flow : Flow}

/-- Whether an exception at a label gets past the handlers before some index. -/
def Passes (flow : Flow) (label index : Nat) : Prop :=
  ∀ j < index, ∀ handler, flow.handlers[j]? = some handler → handler.covers label = true →
    handler.catchType ≠ 0

/-- The label to which a way out of an instruction leads; none where it leaves the method. -/
inductive Leads (flow : Flow) (label : Nat) : Exit → Option Nat → Prop
  | next {insn : Instruction} (here : flow.instructions[label]? = some insn)
      (goes : insn.endsBlock = false) : Leads flow label .next (some (label + 1))
  | jump {insn : Instruction} {index target : Nat}
      (here : flow.instructions[label]? = some insn)
      (goes : insn.targets[index]? = some target) : Leads flow label (.jump index) (some target)
  | returned {insn : Instruction} (here : flow.instructions[label]? = some insn)
      (goes : insn.opcode.isReturn = true) : Leads flow label .returned none
  | caught {index : Nat} {handler : Handler} (inside : label < flow.instructions.size)
      (passes : flow.Passes label index) (here : flow.handlers[index]? = some handler)
      (covers : handler.covers label = true) : Leads flow label (.caught index) (some handler.handler)
  | escaped (inside : label < flow.instructions.size)
      (passes : flow.Passes label flow.handlers.length) : Leads flow label .escaped none

/-- A way out leads to one place only. -/
theorem Leads.unique {label : Nat} {exit : Exit} {d d' : Option Nat}
    (h : flow.Leads label exit d) (h' : flow.Leads label exit d') : d = d' := by
  cases h with
  | next => cases h'; rfl
  | jump here goes =>
    cases h' with
    | jump here' goes' =>
      cases here.symm.trans here'
      exact goes.symm.trans goes'
  | returned => cases h'; rfl
  | caught _ _ here _ =>
    cases h' with
    | caught _ _ here' _ =>
      cases here.symm.trans here'
      rfl
  | escaped => cases h'; rfl

theorem Leads.lt_size {label : Nat} {exit : Exit} {d : Option Nat}
    (h : flow.Leads label exit d) : label < flow.instructions.size := by
  cases h with
  | next here => exact (Array.getElem?_eq_some_iff.mp here).1
  | jump here => exact (Array.getElem?_eq_some_iff.mp here).1
  | returned here => exact (Array.getElem?_eq_some_iff.mp here).1
  | caught inside => exact inside
  | escaped inside => exact inside

/-- Without an exception, an instruction is left for the next one or for one of its targets. -/
theorem Leads.of_normal {label target : Nat} {exit : Exit} {insn : Instruction}
    (leads : flow.Leads label exit (some target))
    (normal : exit = .next ∨ ∃ index, exit = .jump index)
    (here : flow.instructions[label]? = some insn) :
    (insn.endsBlock = false ∧ target = label + 1) ∨ target ∈ insn.targets := by
  rcases normal with rfl | ⟨index, rfl⟩
  · cases leads with
    | next found goes =>
      cases here.symm.trans found
      exact .inl ⟨goes, rfl⟩
  · cases leads with
    | jump found goes =>
      cases here.symm.trans found
      exact .inr (List.mem_of_getElem? goes)

/-- An instruction without targets is left for the next one. -/
theorem Leads.goes_on {label target : Nat} {exit : Exit} {insn : Instruction}
    (leads : flow.Leads label exit (some target))
    (normal : exit = .next ∨ ∃ index, exit = .jump index)
    (here : flow.instructions[label]? = some insn) (plain : insn.targets = []) :
    insn.endsBlock = false ∧ target = label + 1 := by
  rcases leads.of_normal normal here with next | jump
  · exact next
  · rw [plain] at jump
    cases jump

/-- A way through a flow, with the labels on it and the ways out that it takes; it may be followed
from anywhere, and it may stop anywhere. -/
inductive Path (flow : Flow) : Option Nat → List (Nat × Exit) → Option Nat → Prop
  | stop (place : Option Nat) : Path flow place [] place
  | step {label : Nat} {exit : Exit} {place last : Option Nat} {steps : List (Nat × Exit)}
      (leads : flow.Leads label exit place) (path : Path flow place steps last) :
      Path flow (some label) ((label, exit) :: steps) last

theorem Path.append {place middle last : Option Nat} {steps more : List (Nat × Exit)}
    (h : flow.Path place steps middle) (h' : flow.Path middle more last) :
    flow.Path place (steps ++ more) last := by
  induction h with
  | stop => exact h'
  | step leads _ ih => exact .step leads (ih h')

theorem Path.of_empty {place last : Option Nat} {steps : List (Nat × Exit)}
    (h : flow.Path place steps last) (hz : flow.instructions.size = 0) :
    steps = [] ∧ last = place := by
  cases h with
  | stop => exact ⟨rfl, rfl⟩
  | step leads =>
    have := leads.lt_size
    omega

end Flow

end MethodTrace
