import MethodTrace.Proofs.CodeRoundTrip
import MethodTrace.Proofs.Rewriting

/-!
The code of a rewritten method can be read again: it is decoded to the instructions that the
rewriting has laid out.
-/

namespace MethodTrace

open Weaving

/-- An instruction of a weaving is one of the markers or has been there before. -/
theorem Weaving.Woven.mem_cases {markers : Markers} {old : Array Instruction} {woven : Weaving}
    {insn : Instruction} (h : Woven markers old woven) (hi : insn ∈ woven.instructions) :
    (∃ former ∈ markers.prologue, insn = former.mapTargets woven.relocate) ∨
      insn = markers.endCall.mapTargets woven.relocate ∨
      ∃ former ∈ old, insn = former.mapTargets woven.relocate := by
  obtain ⟨place, hp⟩ := Array.mem_iff_getElem?.mp hi
  have lt : place < markers.entry old old.size := h.size ▸ (Array.getElem?_eq_some_iff.mp hp).1
  rcases Markers.place_cases lt with ⟨l, hl, i, hi, rfl⟩ | ⟨l, hl, hc, rfl⟩ | ⟨l, hl, rfl⟩
  · rw [h.prologue l hl i hi] at hp
    obtain ⟨former, hf, rfl⟩ := Option.map_eq_some_iff.mp hp
    exact .inl ⟨former, List.mem_of_getElem? hf, rfl⟩
  · rw [h.endCall l hl hc] at hp
    exact .inr (.inl (Option.some.inj hp).symm)
  · rw [h.original l hl] at hp
    obtain ⟨former, hf, rfl⟩ := Option.map_eq_some_iff.mp hp
    exact .inr (.inr ⟨former, Array.mem_of_getElem? hf, rfl⟩)

/-- Markers that bytecode has a form for. -/
structure Markers.Formed (markers : Markers) : Prop where
  prologue : ∀ insn ∈ markers.prologue, insn.Formed
  endCall : markers.endCall.Formed

theorem Instruction.formed_call (index : UInt16) :
    (withIndex Opcode.invokestatic index).Formed := by
  refine .of_operandLength? ?_
  rw [Bytes.length_bigEndian]
  rfl

namespace TracedBody

theorem formed_loadText (index : UInt16) : (loadText index).Formed := by
  unfold loadText
  split
  · exact .of_operandLength? rfl
  · refine .of_operandLength? ?_
    rw [Bytes.length_bigEndian]
    rfl

theorem markers_formed (hooks : HookIndices) (anchor : Label) (tag : UInt16) :
    (markers hooks anchor tag).Formed := by
  refine ⟨fun insn hi => ?_, Instruction.formed_call _⟩
  rcases mem_prologue.mp hi with rfl | rfl
  · exact formed_loadText tag
  · exact Instruction.formed_call _

variable {hasFrames : Bool} {markers : Markers} {code : Decoded} {body : PlacedBody}
  {pool later : ConstantPool} {traced : TracedBody} {insn : Instruction}

/-- An instruction of a traced body is woven into it or belongs to the handler behind it. -/
theorem mem_instructions (h : Runs (trace hasFrames markers code body) pool traced later)
    (hi : insn ∈ traced.instructions) :
    insn ∈ (weave markers code.instructions).instructions ∨ insn = markers.endCall ∨
      insn = .plain Opcode.athrow [] := by
  obtain ⟨woven, ranges, rfl, _, _, hinstructions⟩ := trace_runs h
  rw [hinstructions] at hi
  split at hi
  · exact .inl hi
  · rcases Array.mem_push.mp hi with hi | rfl
    · rcases Array.mem_push.mp hi with hi | rfl
      · exact .inl hi
      · exact .inr (.inl rfl)
    · exact .inr (.inr rfl)

theorem size_le (h : Runs (trace hasFrames markers code body) pool traced later) :
    (weave markers code.instructions).instructions.size ≤ traced.instructions.size := by
  obtain ⟨woven, ranges, rfl, _, _, hinstructions⟩ := trace_runs h
  rw [hinstructions]
  split
  · exact le_rfl
  · rw [Array.size_push, Array.size_push]
    omega

theorem formed_of_trace (hm : markers.Formed) (hcode : ∀ insn ∈ code.instructions, insn.Formed)
    (h : Runs (trace hasFrames markers code body) pool traced later)
    (hi : insn ∈ traced.instructions) : insn.Formed := by
  rcases mem_instructions h hi with hi | rfl | rfl
  · rcases (weave_woven markers code.instructions).mem_cases hi with
      ⟨former, hf, rfl⟩ | rfl | ⟨former, hf, rfl⟩
    · exact (hm.prologue former hf).mapTargets _
    · exact hm.endCall.mapTargets _
    · exact (hcode former hf).mapTargets _
  · exact hm.endCall
  · exact .of_operandLength? rfl

theorem targets_le_of_trace (hm : markers.Plain)
    (hcode : ∀ insn ∈ code.instructions, ∀ t ∈ insn.targets, t ≤ code.instructions.size)
    (h : Runs (trace hasFrames markers code body) pool traced later)
    (hi : insn ∈ traced.instructions) : ∀ t ∈ insn.targets, t ≤ traced.instructions.size := by
  have hwoven := weave_woven markers code.instructions
  obtain ⟨opcode, operands, hcall⟩ := hm.endCall
  rcases mem_instructions h hi with hi | rfl | rfl
  · rcases hwoven.mem_cases hi with ⟨former, hf, rfl⟩ | rfl | ⟨former, hf, rfl⟩
    · obtain ⟨opcode, operands, rfl⟩ := hm.prologue former hf
      simp [Instruction.targets, Instruction.mapTargets]
    · rw [hcall]
      simp [Instruction.targets, Instruction.mapTargets]
    · intro t ht
      rw [Instruction.targets_mapTargets] at ht
      obtain ⟨label, hl, rfl⟩ := List.mem_map.mp ht
      have hle := hcode former hf label hl
      rw [hwoven.relocate label hle]
      calc markers.target code.instructions label
        _ ≤ markers.bodyEnd code.instructions := Markers.target_le_bodyEnd hle
        _ = (weave markers code.instructions).instructions.size := hwoven.size.symm
        _ ≤ traced.instructions.size := size_le h
  · rw [hcall]
    simp [Instruction.targets]
  · simp [Instruction.targets]

end TracedBody

namespace TracedMethod.Steps

variable {method : TracedMethod} {hooks : HookIndices} {body : Body} {code : Decoded}
  {pool later : ConstantPool} (steps : Steps method hooks body code pool later)

theorem readable (hcode : Decoded.ofCode body.code = .ok code) : steps.layout.Readable := by
  refine layout_readable ?_ ?_ steps.layout_eq
  · exact fun insn hi => TracedBody.formed_of_trace (TracedBody.markers_formed _ _ _)
      (fun _ => Decoded.ofCode_formed hcode) steps.traced_runs hi
  · exact fun insn hi => TracedBody.targets_le_of_trace (TracedBody.markers_plain _ _ _)
      (fun _ => Decoded.ofCode_targets_le hcode) steps.traced_runs hi

/-- The code that is written is decoded to the flow that it is written for. -/
theorem ofCode_written (hcode : Decoded.ofCode body.code = .ok code) :
    Decoded.ofCode steps.written.code = .ok ⟨steps.flow.instructions, steps.layout.offsets⟩ :=
  (steps.readable hcode).ofCode_toCode

end TracedMethod.Steps

end MethodTrace
