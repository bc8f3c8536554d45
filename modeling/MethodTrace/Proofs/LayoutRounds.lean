import MethodTrace.Proofs.CodeRoundTrip

/-!
The rounds of a layout, and what stands when they are over.

A round lays the instructions out as they are and widens the jumps that do not reach; another round
follows as long as one was widened. Wider jumps move every later label and change the padding of
switches to both sides, so neither sizes nor distances are what ends the rounds: it is the number of
jumps that can still be widened, since none is ever made narrow again.
-/

namespace MethodTrace

open Layout

namespace Layout

variable {instructions widened : Array Instruction}

/-- A number of rounds over instructions, and what they come to. -/
inductive Rounds : Nat → Array Instruction → Except ClassFileError Layout → Prop
  | tooLong {instructions : Array Instruction} (long : maxCodeLength < total instructions) :
      Rounds 1 instructions (.error (.tooLarge (.length (total instructions))))
  | stuck {instructions : Array Instruction} {e : ClassFileError}
      (short : total instructions ≤ maxCodeLength)
      (fails : pass (offsetsOf instructions) instructions = .error e) :
      Rounds 1 instructions (.error e)
  | settled {instructions : Array Instruction} (short : total instructions ≤ maxCodeLength)
      (same : pass (offsetsOf instructions) instructions = .ok instructions) :
      Rounds 1 instructions (.ok ⟨instructions, offsetsOf instructions⟩)
  | again {instructions widened : Array Instruction} {count : Nat}
      {outcome : Except ClassFileError Layout} (short : total instructions ≤ maxCodeLength)
      (widens : pass (offsetsOf instructions) instructions = .ok widened)
      (ne : widened ≠ instructions) (rest : Rounds count widened outcome) :
      Rounds (count + 1) instructions outcome

theorem Rounds.unique {count other : Nat} {outcome found : Except ClassFileError Layout}
    (h : Rounds count instructions outcome) (h' : Rounds other instructions found) :
    other = count ∧ found = outcome := by
  induction h generalizing other with
  | tooLong long => cases h' <;> first | exact ⟨rfl, rfl⟩ | omega
  | stuck short fails =>
    cases h' with
    | tooLong long => omega
    | stuck _ again => cases fails.symm.trans again; exact ⟨rfl, rfl⟩
    | settled _ same => cases fails.symm.trans same
    | again _ widens => cases fails.symm.trans widens
  | settled short same =>
    cases h' with
    | tooLong long => omega
    | stuck _ fails => cases same.symm.trans fails
    | settled => exact ⟨rfl, rfl⟩
    | again _ widens ne => exact absurd (Except.ok.inj (widens.symm.trans same)) ne
  | again short widens ne rest ih =>
    cases h' with
    | tooLong long => omega
    | stuck _ fails => cases widens.symm.trans fails
    | settled _ same => exact absurd (Except.ok.inj (widens.symm.trans same)) ne
    | again _ widens' _ rest' =>
      cases widens.symm.trans widens'
      obtain ⟨rfl, same⟩ := ih rest'
      exact ⟨rfl, same⟩

/-- A pass widens a jump just if fewer narrow ones are left by it. -/
theorem pass_eq_self_iff (h : pass (offsetsOf instructions) instructions = .ok widened) :
    widened = instructions ↔ ¬widened.countP isNarrow < instructions.countP isNarrow := by
  constructor
  · rintro rfl
    exact Nat.lt_irrefl _
  · intro settled
    have same := pass_of_reaches (pass_settled h settled)
    exact Except.ok.inj (h.symm.trans same)

/-- The rounds are over when every narrow jump has been widened, if not before. -/
theorem rounds_layout (instructions : Array Instruction) :
    ∃ count ≤ instructions.countP isNarrow + 1, Rounds count instructions (layout instructions) := by
  fun_induction layout instructions with
  | case1 instructions offsets all long => exact ⟨1, by omega, .tooLong long⟩
  | case2 instructions offsets all short e fails =>
    exact ⟨1, by omega, .stuck (Nat.le_of_not_lt short) fails⟩
  | case3 instructions offsets all short widened widens fewer ih =>
    obtain ⟨count, le, rounds⟩ := ih
    have ne : widened ≠ instructions := fun same => (pass_eq_self_iff widens).mp same fewer
    exact ⟨count + 1, by omega, .again (Nat.le_of_not_lt short) widens ne rounds⟩
  | case4 instructions offsets all short widened widens settled =>
    obtain rfl := (pass_eq_self_iff widens).mpr settled
    exact ⟨1, by omega, .settled (Nat.le_of_not_lt short) widens⟩

theorem Rounds.layout_eq {count : Nat} {outcome : Except ClassFileError Layout}
    (h : Rounds count instructions outcome) : layout instructions = outcome := by
  obtain ⟨rounds, _, all⟩ := rounds_layout instructions
  exact (h.unique all).2

theorem Spaced.getElem? {offsets : Array Nat} (h : Spaced instructions offsets) {label : Nat}
    (hl : label ≤ instructions.size) : offsets[label]? = some (offsetAt offsets label) := by
  have size := h.size
  rw [offsetAt, Array.getElem?_eq_getElem (by omega)]
  rfl

end Layout

/-- An instruction of more bytes than a short jump can pass. -/
def filler : Instruction :=
  .plain 0x00 (List.replicate 40000 0)

theorem size_filler (offset : Nat) : filler.size offset = 40001 := by
  rw [filler, Instruction.size, List.length_replicate]

end MethodTrace
