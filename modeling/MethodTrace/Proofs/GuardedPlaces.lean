import MethodTrace.Proofs.TracedFlow

/-!
The places that the added handler of a traced body guards.

A woven body is a row of parts: the prologue, end calls, and the old instructions. To be guarded are
its places from the anchor on that hold neither an end call nor the return behind one. There is one
way to write them as ascending ranges that do not touch, and the protected ranges are that one. The
handler is added just when there is such a place.
-/

namespace MethodTrace

namespace Weaving

/-- What a place of a woven body holds. -/
inductive Part
  | prologue (insn : Instruction)
  | endCall
  | former (insn : Instruction)
  deriving DecidableEq

/-- The instruction of a part whose jumps still lead to old labels. -/
def Part.instruction (markers : Markers) : Part → Instruction
  | prologue insn => insn
  | endCall => markers.endCall
  | former insn => insn

/-- What stands in the place of one instruction. -/
def partsAt (markers : Markers) (label : Label) (insn : Instruction) : List Part :=
  (if label = markers.anchor then markers.prologue.map .prologue else [])
    ++ if insn.opcode.isReturn then [.endCall, .former insn] else [.former insn]

/-- What stands in the place of instructions of which the first has the given label. -/
def partsFrom (markers : Markers) (label : Label) : List Instruction → List Part
  | [] => []
  | insn :: rest => partsAt markers label insn ++ partsFrom markers (label + 1) rest

/-- The parts of a woven body. -/
def parts (markers : Markers) (old : Array Instruction) : List Part :=
  partsFrom markers 0 old.toList

/-- Whether a place holds an end call or what stands right behind one. -/
def AtExit (parts : List Part) (place : Nat) : Prop :=
  parts[place]? = some .endCall ∨ ∃ before, before + 1 = place ∧ parts[before]? = some .endCall

/-- The places of a woven body in which an exception has to be caught. -/
def Guarded (markers : Markers) (old : Array Instruction) (place : Nat) : Prop :=
  (weave markers old).relocate (min markers.anchor old.size) ≤ place ∧
    place < (weave markers old).instructions.size ∧ ¬AtExit (parts markers old) place

/-- A handler over the new places of its labels. -/
def relocateHandler (woven : Weaving) (handler : Handler) : Handler :=
  ⟨woven.relocate handler.start, woven.relocate handler.stop, woven.relocate handler.handler,
    handler.catchType⟩

section Parts

variable {markers : Markers} {old : Array Instruction} {label place : Nat} {insn : Instruction}

theorem partsAt_instructions (markers : Markers) (label : Label) (insn : Instruction) :
    (partsAt markers label insn).map (·.instruction markers) =
      (if label = markers.anchor then markers.prologue else []) ++ insn.closed markers.endCall := by
  have prologue : (markers.prologue.map Part.prologue).map (·.instruction markers)
      = markers.prologue := by
    rw [List.map_map]
    exact List.map_id _
  unfold partsAt Instruction.closed
  rw [List.map_append]
  congr 1
  · split
    · exact prologue
    · rfl
  · split <;> rfl

theorem partsFrom_append (markers : Markers) (label : Nat) (done rest : List Instruction) :
    partsFrom markers label (done ++ rest) =
      partsFrom markers label done ++ partsFrom markers (label + done.length) rest := by
  induction done generalizing label with
  | nil => rfl
  | cons insn done ih =>
    have next : label + 1 + done.length = label + (insn :: done).length := by
      rw [List.length_cons]
      omega
    rw [List.cons_append, partsFrom, ih, next, partsFrom, List.append_assoc]

theorem foldl_add_parts (markers : Markers) (rest : List Instruction) (woven : Weaving) :
    (rest.foldl (add markers) woven).instructions.toList = woven.instructions.toList ++
      (partsFrom markers woven.relocation.size rest).map (·.instruction markers) := by
  induction rest generalizing woven with
  | nil => exact (List.append_nil _).symm
  | cons insn rest ih =>
    rw [List.foldl_cons, ih, add_instructions, add_relocation_size, partsFrom, List.map_append,
      partsAt_instructions]
    simp only [List.append_assoc]

/-- A woven body is made of its parts, with their jumps relocated. -/
theorem weave_parts (markers : Markers) (old : Array Instruction) :
    (weave markers old).instructions.toList = (parts markers old).map fun part =>
      (part.instruction markers).mapTargets (weave markers old).relocate := by
  have folded := foldl_add_parts markers old.toList ⟨#[], #[], #[]⟩
  rw [weave_instructions, Array.toList_map, ← Array.foldl_toList, folded]
  simp [parts]

theorem partsAt_eq (h : old[label]? = some insn) : partsAt markers label insn =
    (markers.prologue.take (markers.opening old label)).map .prologue ++
      (List.replicate (Markers.closing old label) .endCall ++ [.former insn]) := by
  rw [Markers.take_opening (Array.getElem?_eq_some_iff.mp h).1]
  unfold partsAt
  congr 1
  · split <;> rfl
  · split
    · next returns =>
      rw [Markers.closing_of_return h returns]
      rfl
    · next stays =>
      rw [Markers.closing_of_not_return h (by simpa using stays)]
      rfl

theorem length_partsAt (h : old[label]? = some insn) :
    (partsAt markers label insn).length =
      markers.opening old label + Markers.closing old label + 1 := by
  rw [partsAt_eq h, List.length_append, List.length_map, Markers.length_take_opening,
    List.length_append, List.length_replicate, List.length_singleton]
  omega

/-- The parts of the first instructions end where the next one is come to. -/
theorem length_partsFrom_take (markers : Markers) (h : label ≤ old.size) :
    (partsFrom markers 0 (old.toList.take label)).length = markers.entry old label := by
  induction label with
  | zero => rfl
  | succ label ih =>
    have hi : old[label]? = some old[label] := Array.getElem?_eq_getElem h
    have last : old.toList.take (label + 1) = old.toList.take label ++ [old[label]] := by
      rw [List.take_add_one, Array.getElem?_toList, hi]
      rfl
    have first : 0 + (old.toList.take label).length = label := by
      rw [Nat.zero_add, List.length_take_of_le (Nat.le_of_lt h)]
    rw [last, partsFrom_append, List.length_append, ih (Nat.le_of_lt h), first, partsFrom,
      partsFrom, List.append_nil, length_partsAt hi, Markers.entry_succ, Markers.place,
      Markers.target]
    omega

/-- The parts in the place of an instruction begin where it is come to. -/
theorem getElem?_parts_entry (h : old[label]? = some insn) {i : Nat}
    (hi : i < (partsAt markers label insn).length) :
    (parts markers old)[markers.entry old label + i]? = (partsAt markers label insn)[i]? := by
  obtain ⟨hl, rfl⟩ := Array.getElem?_eq_some_iff.mp h
  have split : old.toList = old.toList.take label ++ old[label] :: old.toList.drop (label + 1) := by
    rw [← Array.getElem_toList hl, ← List.drop_eq_getElem_cons, List.take_append_drop]
  have first : 0 + (old.toList.take label).length = label := by
    rw [Nat.zero_add, List.length_take_of_le (Nat.le_of_lt hl)]
  rw [parts, split, partsFrom_append, first, partsFrom,
    ← length_partsFrom_take markers (Nat.le_of_lt hl),
    List.getElem?_append_right (Nat.le_add_right _ _), Nat.add_sub_cancel_left,
    List.getElem?_append_left hi]

theorem length_parts (markers : Markers) (old : Array Instruction) :
    (parts markers old).length = markers.entry old old.size := by
  have same := congrArg List.length (weave_parts markers old)
  rw [Array.length_toList, List.length_map, (weave_woven markers old).size] at same
  exact same.symm

theorem parts_opening (hl : label < old.size) {i : Nat} (hi : i < markers.opening old label) :
    ∃ insn, (parts markers old)[markers.entry old label + i]? = some (.prologue insn) := by
  have found : old[label]? = some old[label] := Array.getElem?_eq_getElem hl
  have within : i < (markers.prologue.take (markers.opening old label)).length := by
    rwa [Markers.length_take_opening]
  refine ⟨(markers.prologue.take (markers.opening old label))[i], ?_⟩
  rw [getElem?_parts_entry found (by rw [length_partsAt found]; omega), partsAt_eq found,
    List.getElem?_append_left (by rwa [List.length_map]), List.getElem?_map,
    List.getElem?_eq_getElem within]
  rfl

theorem parts_behind_opening (markers : Markers) (h : old[label]? = some insn) {i : Nat}
    (hi : i ≤ Markers.closing old label) : (parts markers old)[markers.target old label + i]? =
      (List.replicate (Markers.closing old label) .endCall ++ [.former insn])[i]? := by
  have opened : ((markers.prologue.take (markers.opening old label)).map Part.prologue).length
      = markers.opening old label := by
    rw [List.length_map, Markers.length_take_opening]
  rw [Markers.target, Nat.add_assoc,
    getElem?_parts_entry h (by rw [length_partsAt h]; omega), partsAt_eq h,
    List.getElem?_append_right (by omega), opened, Nat.add_sub_cancel_left]

theorem parts_target (hl : label < old.size) (hc : Markers.closing old label = 1) :
    (parts markers old)[markers.target old label]? = some .endCall := by
  have met := parts_behind_opening markers (Array.getElem?_eq_getElem hl) (Nat.zero_le _)
  rwa [hc] at met

theorem parts_place (hl : label < old.size) :
    (parts markers old)[markers.place old label]? = some (.former old[label]) := by
  have met := parts_behind_opening markers (Array.getElem?_eq_getElem hl) le_rfl
  rwa [List.getElem?_append_right (by rw [List.length_replicate]), List.length_replicate,
    Nat.sub_self] at met

/-- End calls stand where jumps to the returns are led. -/
theorem parts_endCall_iff : (parts markers old)[place]? = some .endCall ↔
    ∃ label < old.size, Markers.closing old label = 1 ∧ place = markers.target old label := by
  constructor
  · intro h
    have hlt : place < markers.entry old old.size :=
      length_parts markers old ▸ (List.getElem?_eq_some_iff.mp h).1
    -- The places of the prologue and of the old instructions hold other parts.
    rcases Markers.place_cases hlt with ⟨l, hl, i, hi, rfl⟩ | ⟨l, hl, hc, rfl⟩ | ⟨l, hl, rfl⟩
    · obtain ⟨insn, prologue⟩ := parts_opening hl hi
      rw [prologue] at h
      cases h
    · exact ⟨l, hl, hc, rfl⟩
    · rw [parts_place hl] at h
      cases h
  · rintro ⟨l, hl, hc, rfl⟩
    exact parts_target hl hc

/-- The exits that the weaving records are the end calls and the returns behind them. -/
theorem atExit_parts_iff :
    AtExit (parts markers old) place ↔ InRanges (weave markers old).exits.toList place := by
  have behind {l : Nat} (hc : Markers.closing old l = 1) :
      markers.place old l = markers.target old l + 1 := by
    rw [Markers.place, hc]
  simp only [AtExit, (weave_woven markers old).inRanges_exits, parts_endCall_iff]
  constructor
  · rintro (⟨l, hl, hc, rfl⟩ | ⟨_, rfl, l, hl, hc, rfl⟩)
    · exact ⟨l, hl, hc, .inl rfl⟩
    · exact ⟨l, hl, hc, .inr (behind hc).symm⟩
  · rintro ⟨l, hl, hc, rfl | rfl⟩
    · exact .inl ⟨l, hl, hc, rfl⟩
    · exact .inr ⟨_, (behind hc).symm, l, hl, hc, rfl⟩

end Parts

/-- Ranges that hold the given places and no others. None of them is empty, and each ends before
the next one begins, with a place between them. -/
structure Cover (ranges : List (Nat × Nat)) (holds : Nat → Prop) : Prop where
  proper : ∀ range ∈ ranges, range.1 < range.2
  separated : ranges.Pairwise fun a b => a.2 < b.1
  inRanges : ∀ place, InRanges ranges place ↔ holds place

namespace Cover

variable {ranges others : List (Nat × Nat)} {range : Nat × Nat} {holds : Nat → Prop} {place : Nat}

theorem eq_nil_iff (h : Cover ranges holds) : ranges = [] ↔ ¬∃ place, holds place := by
  constructor
  · rintro rfl ⟨place, held⟩
    obtain ⟨range, hr, _⟩ := (h.inRanges place).mpr held
    cases hr
  · intro none
    refine List.eq_nil_iff_forall_not_mem.mpr fun range hr => none ⟨range.1, ?_⟩
    exact (h.inRanges range.1).mp ⟨range, hr, le_rfl, h.proper range hr⟩

theorem first_le (h : Cover (range :: ranges) holds) (held : holds place) : range.1 ≤ place := by
  obtain ⟨found, hf, hle, _⟩ := (h.inRanges place).mpr held
  rcases List.mem_cons.mp hf with rfl | hf
  · exact hle
  · have hp := h.proper range (by simp)
    have hs := (List.pairwise_cons.mp h.separated).1 found hf
    omega

theorem holds_of_first (h : Cover (range :: ranges) holds) (hle : range.1 ≤ place)
    (hlt : place < range.2) : holds place :=
  (h.inRanges place).mp ⟨range, by simp, hle, hlt⟩

theorem not_holds_last (h : Cover (range :: ranges) holds) : ¬holds range.2 := by
  intro held
  obtain ⟨found, hf, hle, hlt⟩ := (h.inRanges range.2).mpr held
  rcases List.mem_cons.mp hf with rfl | hf
  · omega
  · have hs := (List.pairwise_cons.mp h.separated).1 found hf
    omega

theorem tail (h : Cover (range :: ranges) holds) :
    Cover ranges fun place => holds place ∧ range.2 ≤ place where
  proper := fun found hf => h.proper found (by simp [hf])
  separated := (List.pairwise_cons.mp h.separated).2
  inRanges := by
    intro place
    rw [← h.inRanges]
    constructor
    · rintro ⟨found, hf, hle, hlt⟩
      have hs := (List.pairwise_cons.mp h.separated).1 found hf
      exact ⟨⟨found, by simp [hf], hle, hlt⟩, by omega⟩
    · rintro ⟨⟨found, hf, hle, hlt⟩, behind⟩
      rcases List.mem_cons.mp hf with rfl | hf
      · omega
      · exact ⟨found, hf, hle, hlt⟩

/-- The first range begins at the least place that is held and ends before the first one behind it
that is not. -/
theorem first_unique {other : Nat × Nat} (h : Cover (range :: ranges) holds)
    (h' : Cover (other :: others) holds) : range = other := by
  have hp := h.proper range (by simp)
  have hp' := h'.proper other (by simp)
  have starts : range.1 = other.1 :=
    Nat.le_antisymm (h.first_le (h'.holds_of_first le_rfl hp'))
      (h'.first_le (h.holds_of_first le_rfl hp))
  have stop : range.2 ≤ other.2 := by
    by_contra hlt
    exact h'.not_holds_last (h.holds_of_first (by omega) (by omega))
  have stop' : other.2 ≤ range.2 := by
    by_contra hlt
    exact h.not_holds_last (h'.holds_of_first (by omega) (by omega))
  exact Prod.ext starts (Nat.le_antisymm stop stop')

/-- Places can be covered in one way only. -/
theorem unique (h : Cover ranges holds) (h' : Cover others holds) : ranges = others := by
  induction ranges generalizing others holds with
  | nil => exact (h'.eq_nil_iff.mpr (h.eq_nil_iff.mp rfl)).symm
  | cons range ranges ih =>
    cases others with
    | nil => exact h.eq_nil_iff.mpr (h'.eq_nil_iff.mp rfl)
    | cons other others =>
      -- Behind the range with which both begin, both tails cover the same places.
      obtain rfl := h.first_unique h'
      exact congrArg _ (ih h.tail h'.tail)

end Cover

theorem cover_protectedRanges (markers : Markers) (old : Array Instruction) :
    Cover ((weave markers old).protectedRanges markers.anchor) (Guarded markers old) where
  proper := gaps_proper
  separated := gaps_separated fun exit he => ((weave_woven markers old).exits_within exit he).1
  inRanges := by
    intro place
    rw [(weave_woven markers old).inRanges_protectedRanges_iff, Guarded, atExit_parts_iff]

end Weaving

namespace TracedBody

open Weaving

variable {hasFrames : Bool} {markers : Markers} {code : Decoded} {body : PlacedBody}
  {pool : ConstantPool}

/-- A body is traced unless the added handler has to have a frame that the pool has no room for. -/
theorem exists_trace_runs_iff :
    (∃ traced later, Runs (trace hasFrames markers code body) pool traced later) ↔
      ((∃ place, Guarded markers code.instructions place) → ∃ frames later,
        Runs (handlerFrames hasFrames (weave markers code.instructions).instructions.size) pool
          frames later) := by
  have empty := (cover_protectedRanges markers code.instructions).eq_nil_iff
  unfold trace
  dsimp only
  split
  · next none =>
    exact ⟨fun _ guarded => absurd guarded (empty.mp none),
      fun _ => ⟨_, _, Runs.pure_iff.mpr ⟨rfl, rfl⟩⟩⟩
  · next some =>
    constructor
    · rintro ⟨traced, later, h⟩ _
      obtain ⟨frames, between, hf, _⟩ := Runs.bind_iff.mp h
      exact ⟨frames, between, hf⟩
    · intro framed
      obtain ⟨frames, later, hf⟩ := framed (by_contra fun none => some (empty.mpr none))
      exact ⟨_, _, Runs.bind_iff.mpr ⟨frames, later, hf, Runs.pure_iff.mpr ⟨rfl, rfl⟩⟩⟩

/-- A traced body with one more handler: behind the woven instructions the end hook is called and
the exception thrown on. The handlers from before have the first say. -/
structure EndsGuarded (markers : Markers) (woven : Weaving) (handlers : List Handler)
    (traced : TracedBody) : Prop where
  instructions_eq : traced.instructions =
    (woven.instructions.push markers.endCall).push (.plain Opcode.athrow [])
  handlers_eq : traced.handlers = handlers.map woven.relocateHandler ++
    (woven.protectedRanges markers.anchor).map fun range =>
      ⟨range.1, range.2, woven.instructions.size, 0⟩

/-- A traced body with no handlers but those from before. -/
structure EndsBare (woven : Weaving) (handlers : List Handler) (traced : TracedBody) : Prop where
  instructions_eq : traced.instructions = woven.instructions
  handlers_eq : traced.handlers = handlers.map woven.relocateHandler

theorem EndsGuarded.not_endsBare {woven : Weaving} {handlers : List Handler} {traced : TracedBody}
    (h : EndsGuarded markers woven handlers traced) : ¬EndsBare woven handlers traced := by
  intro bare
  have same := congrArg Array.size (h.instructions_eq.symm.trans bare.instructions_eq)
  rw [Array.size_push, Array.size_push] at same
  omega

theorem trace_ends {traced : TracedBody} {later : ConstantPool}
    (h : Runs (trace hasFrames markers code body) pool traced later) :
    ((∃ place, Guarded markers code.instructions place) ∧
      EndsGuarded markers (weave markers code.instructions) body.handlers traced) ∨
    ((¬∃ place, Guarded markers code.instructions place) ∧
      EndsBare (weave markers code.instructions) body.handlers traced) := by
  rw [← (cover_protectedRanges markers code.instructions).eq_nil_iff]
  obtain ⟨_, _, rfl, rfl, handlers_eq, instructions_eq⟩ := trace_runs h
  split at instructions_eq
  · next none =>
    rw [none, List.map_nil, List.append_nil] at handlers_eq
    exact .inr ⟨none, instructions_eq, handlers_eq⟩
  · next some =>
    refine .inl ⟨by_contra fun none => some ?_, instructions_eq, handlers_eq⟩
    exact (cover_protectedRanges markers code.instructions).eq_nil_iff.mpr none

/-- The protected ranges of a body are its guarded places, in the only way to write these as ranges
that do not touch, and the handler over them is added if and only if there is such a place. -/
theorem trace_guards (hasFrames : Bool) (markers : Markers) (code : Decoded) (body : PlacedBody)
    (pool : ConstantPool) :
    ((weave markers code.instructions).instructions.toList =
      (parts markers code.instructions).map fun part =>
        (part.instruction markers).mapTargets (weave markers code.instructions).relocate) ∧
    (∀ ranges, Cover ranges (Guarded markers code.instructions) ↔
      ranges = (weave markers code.instructions).protectedRanges markers.anchor) ∧
    ((∃ traced later, Runs (trace hasFrames markers code body) pool traced later) ↔
      ((∃ place, Guarded markers code.instructions place) → ∃ frames later,
        Runs (handlerFrames hasFrames (weave markers code.instructions).instructions.size) pool
          frames later)) ∧
    ∀ traced later, Runs (trace hasFrames markers code body) pool traced later →
      (EndsGuarded markers (weave markers code.instructions) body.handlers traced ↔
        ∃ place, Guarded markers code.instructions place) ∧
      (EndsBare (weave markers code.instructions) body.handlers traced ↔
        ¬∃ place, Guarded markers code.instructions place) := by
  have covers := cover_protectedRanges markers code.instructions
  refine ⟨weave_parts markers code.instructions, ?_, exists_trace_runs_iff, ?_⟩
  · intro ranges
    constructor
    · exact fun h => h.unique covers
    · rintro rfl
      exact covers
  · intro traced later h
    rcases trace_ends h with ⟨some, guarded⟩ | ⟨none, bare⟩
    · exact ⟨iff_of_true guarded some, iff_of_false guarded.not_endsBare (not_not.mpr some)⟩
    · exact ⟨iff_of_false (fun guarded => guarded.not_endsBare bare) none, iff_of_true bare none⟩

/-- Code that returns before its entry, twice in a row, and at its end. -/
def scatteredReturns : Decoded :=
  ⟨#[.plain 0xb1 [], .plain 0 [], .plain 0xb1 [], .plain 0xb1 [], .plain 0 [], .plain 0xb1 []],
    #[0, 1, 2, 3, 4, 5, 6]⟩

theorem handlerFrames_scatteredReturns :
    Runs (handlerFrames true
      (weave (TracedBody.markers ⟨12, 15⟩ 1 17) scatteredReturns.instructions).instructions.size)
      .empty [⟨12, [], [.object 2]⟩]
      ⟨#[.unusable, .utf8 (ModifiedUtf8.encode throwableName), .classRef 1]⟩ := by
  unfold Runs
  cbv

theorem trace_guards_scatteredReturns :
    ∃ traced later,
      Runs (trace true (TracedBody.markers ⟨12, 15⟩ 1 17) scatteredReturns ⟨[], [], []⟩)
        .empty traced later ∧
      Cover [(4, 5), (9, 10)]
        (Guarded (TracedBody.markers ⟨12, 15⟩ 1 17) scatteredReturns.instructions) ∧
      EndsGuarded (TracedBody.markers ⟨12, 15⟩ 1 17)
        (weave (TracedBody.markers ⟨12, 15⟩ 1 17) scatteredReturns.instructions) [] traced := by
  obtain ⟨_, covers, runs, ends⟩ := trace_guards true (TracedBody.markers ⟨12, 15⟩ 1 17)
    scatteredReturns ⟨[], [], []⟩ .empty
  have ranges := (covers [(4, 5), (9, 10)]).mpr (by cbv)
  obtain ⟨traced, later, h⟩ := runs.mpr fun _ => ⟨_, _, handlerFrames_scatteredReturns⟩
  exact ⟨traced, later, h, ranges,
    (ends traced later h).1.mpr ⟨4, (ranges.inRanges 4).mp ⟨(4, 5), by simp, by decide⟩⟩⟩

end TracedBody

end MethodTrace
