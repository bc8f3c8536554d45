import MethodTrace.Proofs.Decoding
import MethodTrace.Proofs.PoolExtension
import MethodTrace.Proofs.ProtectedRanges
import MethodTrace.Proofs.Widening
import MethodTrace.Trace.Instrument

/-!
The flow of a traced method, place by place.

`Traced` says what stands at every place of the new flow and how its handlers lie over them. It is
all that is needed of the tracing of a method to follow its execution.
-/

namespace MethodTrace

open Weaving

theorem Handler.covers_iff {handler : Handler} {label : Nat} : handler.covers label = true ↔
    (handler.start : Nat) ≤ label ∧ label < handler.stop := by
  simp [covers]

namespace Markers

/-- Where a woven body ends, and the handler of every exception begins. -/
def bodyEnd (markers : Markers) (old : Array Instruction) : Nat :=
  markers.entry old old.size

/-- A handler over the places of the labels that it guarded. -/
def move (markers : Markers) (old : Array Instruction) (handler : Handler) : Handler :=
  ⟨markers.target old handler.start, markers.target old handler.stop,
    markers.target old handler.handler, handler.catchType⟩

/-- A handler of every exception in a range. -/
def guard (markers : Markers) (old : Array Instruction) (range : Label × Label) : Handler :=
  ⟨range.1, range.2, markers.bodyEnd old, 0⟩

variable {markers : Markers} {old : Array Instruction} {label : Nat} {handler : Handler}

theorem target_size (markers : Markers) (old : Array Instruction) :
    markers.target old old.size = markers.bodyEnd old := by
  rw [target, opening_size]
  rfl

theorem target_le_bodyEnd (h : label ≤ old.size) :
    markers.target old label ≤ markers.bodyEnd old := by
  rw [← target_size]
  rcases Nat.eq_or_lt_of_le h with rfl | lt
  · exact le_rfl
  · exact Nat.le_of_lt (target_lt_target markers old lt)

theorem place_lt_bodyEnd (h : label < old.size) : markers.place old label < markers.bodyEnd old :=
  place_lt_entry markers old h

/-- A moved handler covers what the handler has covered. -/
theorem covers_move : (markers.move old handler).covers (markers.place old label) = true ↔
    handler.covers label = true := by
  have hstart := @target_le_place_iff handler.start label markers old
  have hstop := @target_le_place_iff handler.stop label markers old
  rw [Handler.covers_iff, Handler.covers_iff]
  change markers.target old handler.start ≤ markers.place old label ∧
    markers.place old label < markers.target old handler.stop ↔ _
  rw [hstart, ← Nat.not_le, ← Nat.not_le, hstop]

end Markers

/-- What a traced flow is made of, and where it comes from. -/
structure Traced (markers : Markers) (old new : Flow) (ranges : List (Label × Label)) : Prop where
  targets_le : ∀ insn ∈ old.instructions, ∀ t ∈ insn.targets, t ≤ old.instructions.size
  returnsPlainly : ∀ insn ∈ old.instructions, insn.ReturnsPlainly
  handlers_le : ∀ handler ∈ old.handlers, handler.start ≤ old.instructions.size ∧
    handler.stop ≤ old.instructions.size ∧ handler.handler ≤ old.instructions.size
  original : ∀ (label : Nat) insn, old.instructions[label]? = some insn →
    ∃ laid, new.instructions[markers.place old.instructions label]? = some laid ∧
      (insn.mapTargets (markers.target old.instructions)).Widens laid
  endCall : ∀ label < old.instructions.size, Markers.closing old.instructions label = 1 →
    new.instructions[markers.target old.instructions label]? = some markers.endCall
  prologue : ∀ label < old.instructions.size, ∀ i < markers.opening old.instructions label,
    new.instructions[markers.entry old.instructions label + i]? = markers.prologue[i]?
  handlers : new.handlers = old.handlers.map (markers.move old.instructions) ++
    ranges.map (markers.guard old.instructions)
  inRanges : ∀ place, InRanges ranges place ↔ ∃ label < old.instructions.size,
    markers.anchor ≤ label ∧ Markers.closing old.instructions label = 0 ∧
      place = markers.place old.instructions label
  proper : ∀ range ∈ ranges, (range.1 : Nat) < range.2
  bare : ranges = [] → new.instructions.size = markers.bodyEnd old.instructions
  guarded : ranges ≠ [] → new.instructions.size = markers.bodyEnd old.instructions + 2 ∧
    new.instructions[markers.bodyEnd old.instructions]? = some markers.endCall ∧
    new.instructions[markers.bodyEnd old.instructions + 1]? = some (.plain Opcode.athrow [])

namespace Traced

variable {markers : Markers} {old new : Flow} {ranges : List (Label × Label)} {handler : Handler}
  {place : Nat}

/-- No handler covers anything but the body. -/
theorem covered (h : Traced markers old new ranges) (hm : handler ∈ new.handlers)
    (hc : handler.covers place = true) : markers.target old.instructions 0 ≤ place ∧
      place < markers.bodyEnd old.instructions := by
  rw [h.handlers] at hm
  rcases List.mem_append.mp hm with hm | hm
  · obtain ⟨former, hf, rfl⟩ := List.mem_map.mp hm
    obtain ⟨_, hstop, _⟩ := h.handlers_le former hf
    have hcovers := Handler.covers_iff.mp hc
    have hend : markers.target old.instructions former.stop ≤ markers.bodyEnd old.instructions :=
      Markers.target_le_bodyEnd hstop
    have hbegin : markers.target old.instructions 0 ≤
        markers.target old.instructions former.start := by
      rcases Nat.eq_zero_or_pos former.start with hz | hpos
      · exact Nat.le_of_eq (congrArg _ hz.symm)
      · exact Nat.le_of_lt (Markers.target_lt_target _ _ hpos)
    exact ⟨Nat.le_trans hbegin hcovers.1, Nat.lt_of_lt_of_le hcovers.2 hend⟩
  · obtain ⟨range, hr, rfl⟩ := List.mem_map.mp hm
    have hcovers := Handler.covers_iff.mp hc
    obtain ⟨label, hlt, _, _, rfl⟩ := (h.inRanges place).mp ⟨range, hr, hcovers.1, hcovers.2⟩
    exact ⟨(Markers.target_le_place_iff _ _).mpr (Nat.zero_le _), Markers.place_lt_bodyEnd hlt⟩

/-- Every handler begins where an old label is met, or behind the body. -/
theorem handler_target (h : Traced markers old new ranges) (hm : handler ∈ new.handlers) :
    ∃ label ≤ old.instructions.size, handler.handler = markers.target old.instructions label := by
  rw [h.handlers] at hm
  rcases List.mem_append.mp hm with hm | hm
  · obtain ⟨former, hf, rfl⟩ := List.mem_map.mp hm
    exact ⟨former.handler, (h.handlers_le former hf).2.2, rfl⟩
  · obtain ⟨range, _, rfl⟩ := List.mem_map.mp hm
    exact ⟨old.instructions.size, le_rfl, (Markers.target_size _ _).symm⟩

/-- A place in a range is covered by the handler of that range. -/
theorem exists_guard (h : Traced markers old new ranges) (hr : InRanges ranges place) :
    ∃ handler ∈ new.handlers, handler.covers place = true ∧ handler.catchType = 0 := by
  obtain ⟨range, hm, hstart, hstop⟩ := hr
  refine ⟨markers.guard old.instructions range, ?_, Handler.covers_iff.mpr ⟨hstart, hstop⟩, rfl⟩
  rw [h.handlers]
  exact List.mem_append_right _ (List.mem_map_of_mem hm)

/-- Execution does not go on from a return. -/
theorem return_leaves (h : Traced markers old new ranges) {label : Nat} {insn laid : Instruction}
    (hi : old.instructions[label]? = some insn) (hr : insn.opcode.isReturn = true)
    (hw : (insn.mapTargets (markers.target old.instructions)).Widens laid) :
    laid.endsBlock = true ∧ laid.targets = [] := by
  obtain ⟨operands, hp⟩ := h.returnsPlainly insn (Array.mem_of_getElem? hi) hr
  rw [hw.endsBlock, hw.targets, Instruction.endsBlock_mapTargets, Instruction.targets_mapTargets, hp]
  refine ⟨?_, rfl⟩
  simp [Instruction.endsBlock, hr]

/-- A method without instructions gets none. -/
theorem size_eq_zero (h : Traced markers old new ranges) (hz : old.instructions.size = 0) :
    new.instructions.size = 0 := by
  have hnil : ranges = [] := by
    refine List.eq_nil_iff_forall_not_mem.mpr fun range hr => ?_
    obtain ⟨label, hlt, _⟩ := (h.inRanges range.1).mp ⟨range, hr, le_rfl, h.proper range hr⟩
    omega
  rw [h.bare hnil, Markers.bodyEnd, hz]
  rfl

end Traced

theorem Instruction.indexOperand?_withIndex (opcode : Opcode) (index : UInt16) :
    (withIndex opcode index).indexOperand? = some index := by
  have hl := Bytes.length_bigEndian 2 index.toNat
  have hv := Bytes.ofBigEndian_bigEndian 2 index.toNat
  unfold withIndex
  match hb : Bytes.bigEndian 2 index.toNat with
  | [high, low] =>
    rw [hb] at hv
    have hlt := index.toNat_lt
    simp only [indexOperand?, Option.some.injEq]
    rw [hv]
    apply UInt16.toNat_inj.mp
    rw [UInt16.toNat_ofNat']
    change index.toNat % 65536 % 65536 = _
    omega
  | [] => simp [hb] at hl
  | [_] => simp [hb] at hl
  | _ :: _ :: _ :: _ => simp [hb] at hl

/-- Markers whose instructions have no targets. -/
structure Markers.Plain (markers : Markers) : Prop where
  prologue : ∀ insn ∈ markers.prologue, ∃ opcode operands, insn = .plain opcode operands
  endCall : ∃ opcode operands, markers.endCall = .plain opcode operands

namespace TracedBody

/-- The load of the tag has two forms, which differ in nothing that matters but their opcodes. -/
theorem loadText_cases (index : UInt16) : ∃ opcode operands,
    loadText index = .plain opcode operands ∧ (opcode = Opcode.ldc ∨ opcode = Opcode.ldcW) := by
  unfold loadText
  split
  · exact ⟨_, _, rfl, .inl rfl⟩
  · exact ⟨_, _, rfl, .inr rfl⟩

theorem loadText_targets (index : UInt16) : (loadText index).targets = [] := by
  obtain ⟨opcode, operands, load, _⟩ := loadText_cases index
  rw [load]
  rfl

theorem loadText_endsBlock (index : UInt16) : (loadText index).endsBlock = false := by
  obtain ⟨opcode, operands, load, rfl | rfl⟩ := loadText_cases index
  · rw [load]
    rfl
  · rw [load]
    rfl

theorem loadText_not_return (index : UInt16) : (loadText index).opcode.isReturn = false := by
  obtain ⟨opcode, operands, load, rfl | rfl⟩ := loadText_cases index
  · rw [load]
    rfl
  · rw [load]
    rfl

theorem mem_prologue {hooks : HookIndices} {anchor : Label} {tag : UInt16} {insn : Instruction} :
    insn ∈ (markers hooks anchor tag).prologue ↔
      insn = loadText tag ∨ insn = .withIndex Opcode.invokestatic hooks.beginHook := by
  simp [markers]

theorem markers_plain (hooks : HookIndices) (anchor : Label) (tag : UInt16) :
    (markers hooks anchor tag).Plain := by
  refine ⟨fun insn hi => ?_, _, _, rfl⟩
  rcases mem_prologue.mp hi with rfl | rfl
  · obtain ⟨opcode, operands, load, _⟩ := loadText_cases tag
    exact ⟨opcode, operands, load⟩
  · exact ⟨_, _, rfl⟩

variable {hasFrames : Bool} {markers : Markers} {code : Decoded} {body : PlacedBody}
  {pool later : ConstantPool} {traced : TracedBody}

theorem trace_runs (h : Runs (trace hasFrames markers code body) pool traced later) :
    ∃ woven ranges, woven = weave markers code.instructions ∧
      ranges = woven.protectedRanges markers.anchor ∧
      traced.handlers = (body.handlers.map fun h => { h with
        start := woven.relocate h.start
        stop := woven.relocate h.stop
        handler := woven.relocate h.handler }) ++
        ranges.map (fun range => ⟨range.1, range.2, woven.instructions.size, 0⟩) ∧
      traced.instructions = if ranges = [] then woven.instructions else
        (woven.instructions.push markers.endCall).push (.plain Opcode.athrow []) := by
  refine ⟨_, _, rfl, rfl, ?_⟩
  unfold trace at h
  dsimp only at h
  split at h
  · next hr =>
    obtain ⟨rfl, _⟩ := Runs.pure_iff.mp h
    simp [hr]
  · next hr =>
    obtain ⟨added, between, _, h⟩ := Runs.bind_iff.mp h
    obtain ⟨rfl, _⟩ := Runs.pure_iff.mp h
    exact ⟨rfl, by rw [if_neg hr]⟩

section Laid

variable {layout : Layout} (htrace : Runs (trace hasFrames markers code body) pool traced later)
  (hlayout : MethodTrace.layout traced.instructions = .ok layout)
include htrace hlayout

/-- The body keeps its places, whether a handler follows it or not. -/
theorem exists_laid_of_woven {place : Nat} {insn : Instruction}
    (h : (weave markers code.instructions).instructions[place]? = some insn) :
    ∃ laid, layout.instructions[place]? = some laid ∧ insn.Widens laid := by
  obtain ⟨woven, ranges, rfl, _, _, hinstructions⟩ := trace_runs htrace
  refine (layout_widened hlayout).widens place insn ?_
  rw [hinstructions]
  split
  · exact h
  · have hlt := (Array.getElem?_eq_some_iff.mp h).1
    rw [Array.getElem?_push, if_neg (by simp; omega), Array.getElem?_push, if_neg (by omega), h]

theorem laid_of_woven_plain {place : Nat} {opcode : Opcode} {operands : Bytes}
    (h : (weave markers code.instructions).instructions[place]? = some (.plain opcode operands)) :
    layout.instructions[place]? = some (.plain opcode operands) := by
  obtain ⟨laid, hl, hw⟩ := exists_laid_of_woven htrace hlayout h
  rw [hl, hw.eq_of_plain]

/-- An old instruction is laid out with its targets moved. -/
theorem exists_laid_of_former (htargets : ∀ insn ∈ code.instructions, ∀ t ∈ insn.targets,
      t ≤ code.instructions.size) {label : Nat} {insn : Instruction}
    (hi : code.instructions[label]? = some insn) :
    ∃ laid, layout.instructions[markers.place code.instructions label]? = some laid ∧
      (insn.mapTargets (markers.target code.instructions)).Widens laid := by
  have hwoven := weave_woven markers code.instructions
  have hmoved := hwoven.original label (Array.getElem?_eq_some_iff.mp hi).1
  rw [hi] at hmoved
  obtain ⟨laid, hl, hw⟩ := exists_laid_of_woven htrace hlayout hmoved
  have hmap : insn.mapTargets (weave markers code.instructions).relocate =
      insn.mapTargets (markers.target code.instructions) :=
    Instruction.mapTargets_congr fun t ht =>
      hwoven.relocate t (htargets _ (Array.mem_of_getElem? hi) t ht)
  exact ⟨laid, hl, hmap ▸ hw⟩

/-- Behind a body with protected ranges, the end hook is called and the exception thrown again. -/
theorem handler_laid (hplain : markers.Plain)
    (hne : (weave markers code.instructions).protectedRanges markers.anchor ≠ []) :
    layout.instructions.size = markers.bodyEnd code.instructions + 2 ∧
      layout.instructions[markers.bodyEnd code.instructions]? = some markers.endCall ∧
      layout.instructions[markers.bodyEnd code.instructions + 1]? =
        some (.plain Opcode.athrow []) := by
  obtain ⟨woven, ranges, rfl, rfl, _, hinstructions⟩ := trace_runs htrace
  obtain ⟨opcode, operands, hcall⟩ := hplain.endCall
  have hlaid := layout_widened hlayout
  have hsize : (weave markers code.instructions).instructions.size =
      markers.bodyEnd code.instructions := (weave_woven markers code.instructions).size
  rw [if_neg hne] at hinstructions
  have hend : traced.instructions[markers.bodyEnd code.instructions]? =
      some (.plain opcode operands) := by
    rw [hinstructions, hcall, ← hsize, Array.getElem?_push, if_neg (by simp),
      Array.getElem?_push_size]
  have hthrow : traced.instructions[markers.bodyEnd code.instructions + 1]? =
      some (.plain Opcode.athrow []) := by
    rw [hinstructions, ← hsize, Array.getElem?_push, if_pos (by simp)]
  obtain ⟨call, hc, hcw⟩ := hlaid.widens _ _ hend
  obtain ⟨throw, ht, htw⟩ := hlaid.widens _ _ hthrow
  refine ⟨?_, by rw [hc, hcw.eq_of_plain, hcall], by rw [ht, htw.eq_of_plain]⟩
  rw [hlaid.size, hinstructions, Array.size_push, Array.size_push, hsize]

/-- What a traced body is laid out as has the parts of a traced flow. -/
theorem traced_of_layout {bytes : Bytes} {rows : List ExceptionRow}
    (hplain : markers.Plain) (hcode : Decoded.ofCode bytes = .ok code)
    (hrows : code.handlers rows = .ok body.handlers) :
    ∃ ranges, Traced markers ⟨code.instructions, body.handlers⟩
      ⟨layout.instructions, traced.handlers⟩ ranges := by
  obtain ⟨woven, ranges, rfl, rfl, hhandlers, hinstructions⟩ := trace_runs htrace
  have hwoven := weave_woven markers code.instructions
  have hsize : (weave markers code.instructions).instructions.size =
      markers.bodyEnd code.instructions := hwoven.size
  have htargets : ∀ insn ∈ code.instructions, ∀ t ∈ insn.targets, t ≤ code.instructions.size :=
    fun _ hi => Decoded.ofCode_targets_le hcode hi
  refine ⟨_, htargets, fun _ hi => Decoded.ofCode_returnsPlainly hcode hi,
    fun _ hm => Decoded.handlers_le hcode hrows hm,
    fun _ _ hi => exists_laid_of_former htrace hlayout htargets hi, ?_, ?_, ?_,
    fun _ => hwoven.inRanges_protectedRanges, gaps_proper, ?_,
    handler_laid htrace hlayout hplain⟩
  · intro label hlt hc
    obtain ⟨opcode, operands, he⟩ := hplain.endCall
    have hcall := hwoven.endCall label hlt hc
    rw [he] at hcall ⊢
    exact laid_of_woven_plain htrace hlayout hcall
  · intro label hlt i hi
    have hcall := hwoven.prologue label hlt i hi
    have hlt := Nat.lt_of_lt_of_le hi (Markers.opening_le_length markers code.instructions label)
    obtain ⟨opcode, operands, hp⟩ := hplain.prologue _ (List.getElem_mem hlt)
    rw [List.getElem?_eq_getElem hlt, hp] at hcall ⊢
    exact laid_of_woven_plain htrace hlayout hcall
  · rw [hhandlers, hsize]
    refine congrArg (· ++ _) (List.map_congr_left fun handler hm => ?_)
    obtain ⟨hstart, hstop, hplace⟩ := Decoded.handlers_le hcode hrows hm
    rw [hwoven.relocate _ hstart, hwoven.relocate _ hstop, hwoven.relocate _ hplace]
    rfl
  · intro hnil
    rw [(layout_widened hlayout).size, hinstructions, if_pos hnil, hsize]

end Laid

end TracedBody

end MethodTrace
