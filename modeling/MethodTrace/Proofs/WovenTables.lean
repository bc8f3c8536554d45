import MethodTrace.Proofs.PlacedBodies

/-!
The tables of a traced body, and what is read of them once they are written.

The labels of the body have moved and the added handler may have brought one frame more. What is
written for these tables resolves in the new code, and only the frames can fail to: they are read
again if and only if none of the old ones stands where the frame of the added handler does.
-/

namespace MethodTrace

open ConstantPool Layout Weaving

theorem Markers.le_entry (markers : Markers) (old : Array Instruction) (label : Nat) :
    label ≤ markers.entry old label := by
  induction label with
  | zero => exact Nat.zero_le _
  | succ label ih =>
    calc label ≤ markers.entry old label := ih
      _ ≤ markers.target old label := entry_le_target markers old label
      _ ≤ markers.place old label := target_le_place markers old label
      _ < markers.entry old (label + 1) := markers.place_lt_entry old (Nat.lt_succ_self label)

namespace PlacedTable

variable {code : Decoded} {table : PlacedTable} {hasFrames : Bool} {text : String}
  {frameTable : Bytes}

/-- A table with the name of line numbers is written as one that leads to its labels. -/
theorem Matches.parse_lines (h : code.Regular)
    (hm : table.Matches code.instructions.size hasFrames "LineNumberTable") :
    ∃ rows, LineRow.parseTable (table.write code.offsets frameTable) code = .ok rows := by
  cases table with
  | lines rows =>
    have read := (Reader.takes_counted_of hm.2 fun row => LineRow.takes_read h).onSlice
    exact ⟨rows, Except.map_eq_ok_iff.mpr ⟨_, read, rfl⟩⟩
  | locals rows => simp [Matches] at hm
  | frames => simp [Matches] at hm

theorem Matches.parse_locals (h : code.Regular)
    (ht : text = "LocalVariableTable" ∨ text = "LocalVariableTypeTable")
    (hm : table.Matches code.instructions.size hasFrames text) :
    ∃ rows, VariableRow.parseTable (table.write code.offsets frameTable) code = .ok rows := by
  cases table with
  | locals rows =>
    have read := (Reader.takes_counted_of hm.2 fun row => VariableRow.takes_read h).onSlice
    exact ⟨rows, Except.map_eq_ok_iff.mpr ⟨_, read, rfl⟩⟩
  | lines rows => rcases ht with rfl | rfl <;> simp [Matches] at hm
  | frames => rcases ht with rfl | rfl <;> simp [Matches] at hm

theorem Matches.eq_frames (hm : table.Matches code.instructions.size hasFrames "StackMapTable") :
    table = frames ∧ hasFrames = true := by
  cases table with
  | frames => exact ⟨rfl, hm.2⟩
  | lines rows => simp [Matches] at hm
  | locals rows => simp [Matches] at hm

theorem Matches.eq_stackMapTable {size : Nat} (hm : table.Matches size hasFrames text)
    (h : table.isFrames = true) : text = "StackMapTable" := by
  cases table with
  | frames => exact hm.1
  | lines rows => cases h
  | locals rows => cases h

end PlacedTable

namespace TracedBody

variable {hasFrames : Bool} {markers : Markers} {code : Decoded} {body : PlacedBody}
  {pool later : ConstantPool} {traced : TracedBody}

/-- What becomes of the tables and the frames of a body that is traced. -/
structure Moves (hasFrames : Bool) (markers : Markers) (code : Decoded) (body : PlacedBody)
    (traced : TracedBody) (added : List Frame) : Prop where
  tables_eq : traced.tables = body.tables.map fun entry =>
    (entry.1, entry.2.mapLabels (weave markers code.instructions).relocate)
  frames_eq : traced.frames
    = body.frames.map (·.mapLabels (weave markers code.instructions).relocate) ++ added
  /-- The added handler has a frame if the method has any. -/
  added_cases : (added = [] ∧ (hasFrames = true →
      (weave markers code.instructions).protectedRanges markers.anchor = [])) ∨
    (hasFrames = true ∧ (weave markers code.instructions).protectedRanges markers.anchor ≠ [] ∧
      ∃ classRef, added = [⟨(weave markers code.instructions).instructions.size, [],
        [.object classRef]⟩])

theorem trace_moves (h : Runs (trace hasFrames markers code body) pool traced later) :
    ∃ added, Moves hasFrames markers code body traced added := by
  unfold trace at h
  dsimp only at h
  split at h
  · next none =>
    obtain ⟨rfl, _⟩ := Runs.pure_iff.mp h
    exact ⟨[], rfl, (List.append_nil _).symm, .inl ⟨rfl, fun _ => none⟩⟩
  · next guarded =>
    obtain ⟨added, between, hf, h⟩ := Runs.bind_iff.mp h
    obtain ⟨rfl, _⟩ := Runs.pure_iff.mp h
    refine ⟨added, rfl, rfl, ?_⟩
    unfold handlerFrames at hf
    split at hf
    · next framed =>
      obtain ⟨classRef, _, _, hf⟩ := Runs.bind_iff.mp hf
      obtain ⟨rfl, _⟩ := Runs.pure_iff.mp hf
      exact .inr ⟨framed, guarded, classRef, rfl⟩
    · next bare =>
      obtain ⟨rfl, _⟩ := Runs.pure_iff.mp hf
      exact .inl ⟨rfl, fun framed => absurd framed bare⟩

/-- The tables are written in their order. A table of frames is appended to them only if there are
frames and no table for them yet. -/
theorem attributes_eq {initial : List VerificationType} {offsets : Array Nat}
    {attributes : List Attribute}
    (h : Runs (traced.attributes hasFrames initial offsets) pool attributes later) :
    ∃ appended, attributes = (traced.tables.map fun entry => ⟨entry.1,
        entry.2.write offsets (Frame.encodeTable traced.frames initial offsets)⟩) ++ appended ∧
      if hasFrames = true ∧ traced.tables.any (·.2.isFrames) = false ∧ traced.frames ≠ [] then
        ∃ name, appended = [⟨name, Frame.encodeTable traced.frames initial offsets⟩] ∧
          (pool.Numbered → later.utf8 name = .ok "StackMapTable")
      else appended = [] := by
  have condition : (hasFrames && !traced.tables.any (·.2.isFrames) && !traced.frames.isEmpty) = true ↔
      hasFrames = true ∧ traced.tables.any (·.2.isFrames) = false ∧ traced.frames ≠ [] := by
    simp [and_assoc]
  unfold TracedBody.attributes at h
  dsimp only at h
  split at h
  · next needed =>
    obtain ⟨name, between, hn, h⟩ := Runs.bind_iff.mp h
    obtain ⟨rfl, rfl⟩ := Runs.pure_iff.mp h
    exact ⟨_, rfl, by
      rw [if_pos (condition.mp needed)]
      exact ⟨name, rfl, fun hp => utf8Index_runs hp hn⟩⟩
  · next needless =>
    obtain ⟨rfl, rfl⟩ := Runs.pure_iff.mp h
    exact ⟨[], (List.append_nil _).symm, by rw [if_neg fun needed => needless (condition.mpr needed)]⟩

theorem attributes_cases {initial : List VerificationType} {offsets : Array Nat}
    {attributes : List Attribute} (hp : pool.Numbered)
    (h : Runs (traced.attributes hasFrames initial offsets) pool attributes later)
    {attr : Attribute} (ha : attr ∈ attributes) :
    (∃ entry ∈ traced.tables, attr = ⟨entry.1,
        entry.2.write offsets (Frame.encodeTable traced.frames initial offsets)⟩) ∨
      hasFrames = true ∧ later.utf8 attr.name = .ok "StackMapTable" ∧
        attr.info = Frame.encodeTable traced.frames initial offsets := by
  obtain ⟨appended, rfl, ending⟩ := attributes_eq h
  rcases List.mem_append.mp ha with ha | ha
  · obtain ⟨entry, he, rfl⟩ := List.mem_map.mp ha
    exact .inl ⟨entry, he, rfl⟩
  · split at ending
    · next needed =>
      obtain ⟨name, rfl, named⟩ := ending
      rw [List.mem_singleton.mp ha]
      exact .inr ⟨needed.1, named hp, rfl⟩
    · rw [ending] at ha
      cases ha

/-- Frames are written in an attribute. -/
theorem exists_frameTable {initial : List VerificationType} {offsets : Array Nat}
    {attributes : List Attribute} (hp : pool.Numbered)
    (h : Runs (traced.attributes hasFrames initial offsets) pool attributes later)
    (framed : hasFrames = true) (hf : traced.frames ≠ []) : ∃ attr ∈ attributes,
      attr.info = Frame.encodeTable traced.frames initial offsets ∧
        (later.utf8 attr.name = .ok "StackMapTable" ∨
          ∃ entry ∈ traced.tables, entry.1 = attr.name ∧ entry.2.isFrames = true) := by
  obtain ⟨appended, rfl, ending⟩ := attributes_eq h
  cases held : traced.tables.any (·.2.isFrames) with
  | false =>
    rw [if_pos ⟨framed, held, hf⟩] at ending
    obtain ⟨name, rfl, named⟩ := ending
    exact ⟨_, List.mem_append_right _ List.mem_cons_self, rfl, .inl (named hp)⟩
  | true =>
    obtain ⟨⟨name, table⟩, he, is⟩ := List.any_eq_true.mp held
    refine ⟨_, List.mem_append_left _ (List.mem_map_of_mem he), ?_, .inr ⟨_, he, rfl, is⟩⟩
    cases table with
    | frames => rfl
    | lines rows => cases is
    | locals rows => cases is

end TracedBody

/-- A body whose code is decoded to a flow, and all of whose tables lead to instruction boundaries
there. Its frames are read after the locals with which its method begins. -/
structure Body.Resolves (body : Body) (pool : ConstantPool)
    (entry : Except ClassFileError (List VerificationType)) (flow : Flow) (code : Decoded) :
    Prop where
  code_eq : Decoded.ofCode body.code = .ok code
  instructions_eq : code.instructions = flow.instructions
  handlers_eq : code.handlers body.exceptions = .ok flow.handlers
  lines : ∀ attr ∈ body.attributes, pool.utf8 attr.name = .ok "LineNumberTable" →
    ∃ rows, LineRow.parseTable attr.info code = .ok rows
  locals : ∀ attr ∈ body.attributes, pool.utf8 attr.name = .ok "LocalVariableTable" ∨
      pool.utf8 attr.name = .ok "LocalVariableTypeTable" →
    ∃ rows, VariableRow.parseTable attr.info code = .ok rows
  frames : ∀ attr ∈ body.attributes, pool.utf8 attr.name = .ok "StackMapTable" →
    ∃ initial frames, entry = .ok initial ∧ Frame.decodeTable attr.info initial code = .ok frames

namespace TracedMethod.Steps

variable {method : TracedMethod} {hooks : HookIndices} {body : Body} {code : Decoded}
  {pool later : ConstantPool} (steps : Steps method hooks body code pool later)

/-- The written code as it is decoded. -/
def decoded : Decoded :=
  ⟨steps.layout.instructions, steps.layout.offsets⟩

/-- The body with its markers woven in. -/
def weaving : Weaving :=
  weave (TracedBody.markers hooks steps.anchor steps.tag) code.instructions

theorem weaving_woven : Woven (TracedBody.markers hooks steps.anchor steps.tag) code.instructions
    steps.weaving :=
  weave_woven _ _

theorem regular (hcode : Decoded.ofCode body.code = .ok code) : steps.decoded.Regular :=
  ⟨(steps.readable hcode).spaced, (steps.readable hcode).short⟩

theorem size_decoded : steps.decoded.instructions.size = steps.traced.instructions.size :=
  (layout_widened steps.layout_eq).size

theorem size_weaving_le : steps.weaving.instructions.size ≤ steps.decoded.instructions.size :=
  steps.size_decoded ▸ TracedBody.size_le steps.traced_runs

/-- A handler is added if and only if some instruction from the entry on does not return. -/
theorem protectedRanges_ne_nil_iff : steps.weaving.protectedRanges steps.anchor ≠ [] ↔
    ∃ (label : Nat) (insn : Instruction), steps.anchor ≤ label ∧
      code.instructions[label]? = some insn ∧ insn.opcode.isReturn = false := by
  have inRanges := @Woven.inRanges_protectedRanges _ _ _ steps.weaving_woven
  change ∀ {place : Nat}, InRanges (steps.weaving.protectedRanges steps.anchor) place ↔ _
    at inRanges
  constructor
  · intro guarded
    obtain ⟨range, hr⟩ := List.exists_mem_of_ne_nil _ guarded
    obtain ⟨label, hlt, hle, stays, _⟩ :=
      inRanges.mp ⟨range, hr, le_rfl, gaps_proper range hr⟩
    refine ⟨label, code.instructions[label], hle, Array.getElem?_eq_getElem hlt, ?_⟩
    by_contra returns
    rw [Markers.closing_of_return (Array.getElem?_eq_getElem hlt) (by simpa using returns)] at stays
    omega
  · rintro ⟨label, insn, hle, hi, returns⟩ none
    obtain ⟨range, hr, _⟩ := inRanges.mpr ⟨label, (Array.getElem?_eq_some_iff.mp hi).1, hle,
      Markers.closing_of_not_return hi returns, rfl⟩
    rw [none] at hr
    cases hr

/-- The added handler takes two places behind the body, which is not shorter than it was. -/
theorem size_add_two_le (h : steps.weaving.protectedRanges steps.anchor ≠ []) :
    code.instructions.size + 2 ≤ steps.decoded.instructions.size := by
  obtain ⟨woven, ranges, rfl, hr, _, instructions_eq⟩ := TracedBody.trace_runs steps.traced_runs
  have guarded : ranges ≠ [] := hr ▸ h
  have longer := Markers.le_entry (TracedBody.markers hooks steps.anchor steps.tag)
    code.instructions code.instructions.size
  rw [if_neg guarded] at instructions_eq
  rw [steps.size_decoded, instructions_eq, Array.size_push, Array.size_push,
    (weave_woven _ _).size]
  omega

section Moves

theorem relocate_lt {label other : Nat} (hlt : label < other)
    (ho : other ≤ code.instructions.size) : steps.weaving.relocate label < steps.weaving.relocate other := by
  rw [steps.weaving_woven.relocate label (by omega), steps.weaving_woven.relocate other ho]
  exact Markers.target_lt_target _ _ hlt

theorem relocate_le {label other : Nat} (hle : label ≤ other)
    (ho : other ≤ code.instructions.size) : steps.weaving.relocate label ≤ steps.weaving.relocate other := by
  rcases Nat.eq_or_lt_of_le hle with rfl | lt
  · exact le_rfl
  · exact (steps.relocate_lt lt ho).le

theorem relocate_size :
    steps.weaving.relocate code.instructions.size = steps.weaving.instructions.size := by
  rw [steps.weaving_woven.relocate _ le_rfl, steps.weaving_woven.size, Markers.target_size]
  rfl

theorem relocate_le_size {label : Nat} (hl : label ≤ code.instructions.size) :
    steps.weaving.relocate label ≤ steps.weaving.instructions.size :=
  steps.relocate_size ▸ steps.relocate_le hl le_rfl

variable (hcode : Decoded.ofCode body.code = .ok code)
include hcode

theorem placed_sound : steps.placed.Sound steps.start code.instructions.size method.hasFrames
    steps.initial := by
  refine PlacedBody.ofBody_sound (Decoded.ofCode_ascending hcode) ?_ steps.placed_eq
  exact fun type ht => (TracedMethod.unlabelled_entryLocals steps.initial_runs type ht).within _

theorem matches_of_mem {entry : UInt16 × PlacedTable} (he : entry ∈ steps.traced.tables) :
    ∃ text, steps.start.utf8 entry.1 = .ok text ∧
      entry.2.Matches steps.decoded.instructions.size method.hasFrames text := by
  obtain ⟨added, moves⟩ := TracedBody.trace_moves steps.traced_runs
  rw [moves.tables_eq] at he
  obtain ⟨former, hf, rfl⟩ := List.mem_map.mp he
  obtain ⟨text, ht, hm⟩ := (steps.placed_sound hcode).tables former hf
  refine ⟨text, ht, hm.map (fun label other hle ho => steps.relocate_le hle ho) ?_⟩
  exact fun label hl => (steps.relocate_le_size hl).trans steps.size_weaving_le

theorem framed_of_frames_ne_nil (h : steps.traced.frames ≠ []) : method.hasFrames = true := by
  obtain ⟨added, moves⟩ := TracedBody.trace_moves steps.traced_runs
  rcases moves.added_cases with ⟨rfl, _⟩ | ⟨framed, _⟩
  · by_contra unframed
    have bare := (steps.placed_sound hcode).bare (by simpa using unframed)
    exact h (by rw [moves.frames_eq, bare]; rfl)
  · exact framed

theorem frames_forms : Frame.HaveForms steps.initial steps.traced.frames := by
  obtain ⟨added, moves⟩ := TracedBody.trace_moves steps.traced_runs
  have unlabelled := TracedMethod.unlabelled_entryLocals steps.initial_runs
  have same : steps.initial.map (·.mapLabel steps.weaving.relocate) = steps.initial :=
    (List.map_congr_left fun type ht => (unlabelled type ht).mapLabel_eq _).trans (List.map_id _)
  have forms := (steps.placed_sound hcode).frames.forms.map steps.weaving.relocate
  rw [same] at forms
  rw [moves.frames_eq]
  rcases moves.added_cases with ⟨rfl, _⟩ | ⟨_, _, classRef, rfl⟩
  · rwa [List.append_nil]
  · exact forms.append_full (by simp [UInt16.size]) (by simp [UInt16.size])

theorem frames_within :
    ∀ frame ∈ steps.traced.frames, frame.Within steps.decoded.instructions.size := by
  obtain ⟨added, moves⟩ := TracedBody.trace_moves steps.traced_runs
  have moved : ∀ frame ∈ steps.placed.frames.map (·.mapLabels steps.weaving.relocate),
      frame.Within steps.decoded.instructions.size := by
    intro frame hf
    obtain ⟨former, hm, rfl⟩ := List.mem_map.mp hf
    refine ((steps.placed_sound hcode).frames.within former hm).map fun label hl => ?_
    exact (steps.relocate_le_size hl).trans steps.size_weaving_le
  rw [moves.frames_eq]
  intro frame hf
  rcases List.mem_append.mp hf with hf | hf
  · exact moved frame hf
  · rcases moves.added_cases with ⟨rfl, _⟩ | ⟨_, _, classRef, rfl⟩
    · cases hf
    · rw [List.mem_singleton.mp hf]
      exact ⟨steps.size_weaving_le, by simp, by simp [VerificationType.Within]⟩

/-- The frames are in ascending order unless an old one stands where the added handler begins. -/
theorem frames_ascending_iff : Frame.Ascending 0 steps.traced.frames ↔
    (steps.weaving.protectedRanges steps.anchor ≠ [] →
      ∀ frame ∈ steps.placed.frames, frame.label ≠ code.instructions.size) := by
  obtain ⟨added, moves⟩ := TracedBody.trace_moves steps.traced_runs
  have sound := steps.placed_sound hcode
  have within : ∀ frame ∈ steps.placed.frames, frame.label ≤ code.instructions.size :=
    fun frame hf => (sound.frames.within frame hf).label
  have moved : Frame.Ascending 0 (steps.placed.frames.map (·.mapLabels steps.weaving.relocate)) :=
    sound.frames.ascending.map within (fun label other hlt ho => steps.relocate_lt hlt ho)
      fun _ _ _ => Nat.zero_le _
  rw [moves.frames_eq]
  rcases moves.added_cases with ⟨rfl, bare⟩ | ⟨_, guarded, classRef, rfl⟩
  · rw [List.append_nil]
    refine iff_of_true moved fun guarded frame hf => ?_
    cases framed : method.hasFrames with
    | true => exact absurd (bare framed) guarded
    | false => simp [sound.bare framed] at hf
  · rw [Frame.ascending_append_iff]
    have apart : (∀ frame ∈ steps.placed.frames.map (·.mapLabels steps.weaving.relocate),
        frame.label < steps.weaving.instructions.size) ↔
        ∀ frame ∈ steps.placed.frames, frame.label ≠ code.instructions.size := by
      rw [List.forall_mem_map]
      refine forall₂_congr fun frame hf => ?_
      change steps.weaving.relocate frame.label < _ ↔ _
      rw [← steps.relocate_size]
      constructor
      · intro lt here
        rw [here] at lt
        exact Nat.lt_irrefl _ lt
      · intro ne
        exact steps.relocate_lt (Nat.lt_of_le_of_ne (within frame hf) ne) le_rfl
    constructor
    · rintro ⟨_, _, before⟩ _
      exact apart.mp before
    · intro clear
      exact ⟨moved, Nat.zero_le _, apart.mpr (clear guarded)⟩

theorem length_frames_lt : steps.traced.frames.length < UInt16.size := by
  obtain ⟨added, moves⟩ := TracedBody.trace_moves steps.traced_runs
  have sound := (steps.placed_sound hcode).frames
  rw [moves.frames_eq, List.length_append, List.length_map]
  rcases moves.added_cases with ⟨rfl, _⟩ | ⟨_, guarded, classRef, rfl⟩
  · exact sound.length
  · -- Every old frame has a place of its own, and the handler brings two more.
    have few := sound.ascending.length_le (fun frame hf => (sound.within frame hf).label)
      (Nat.zero_le _)
    have size := steps.size_add_two_le guarded
    have room := (steps.regular hcode).spaced.le_offsetAt le_rfl
    have short := (steps.regular hcode).short
    change _ < 65536
    unfold maxCodeLength at short
    rw [List.length_singleton]
    omega

/-- Every handler lies in the written code. -/
theorem handlers_le {handler : Handler} (hm : handler ∈ steps.traced.handlers) :
    handler.start ≤ steps.decoded.instructions.size ∧
      handler.stop ≤ steps.decoded.instructions.size ∧
      handler.handler ≤ steps.decoded.instructions.size := by
  obtain ⟨_, ranges, rfl, hr, handlers_eq, _⟩ := TracedBody.trace_runs steps.traced_runs
  have inside {label : Nat} (hl : label ≤ steps.weaving.instructions.size) :
      label ≤ steps.decoded.instructions.size := hl.trans steps.size_weaving_le
  rw [handlers_eq] at hm
  rcases List.mem_append.mp hm with hm | hm
  · obtain ⟨former, hf, rfl⟩ := List.mem_map.mp hm
    obtain ⟨start, stop, place⟩ := Decoded.handlers_le hcode steps.handlers_eq hf
    exact ⟨inside (steps.relocate_le_size start), inside (steps.relocate_le_size stop),
      inside (steps.relocate_le_size place)⟩
  · obtain ⟨range, hrange, rfl⟩ := List.mem_map.mp hm
    rw [hr] at hrange
    have proper := gaps_proper range hrange
    -- The last place of a range is that of an old instruction.
    obtain ⟨label, hlt, _, _, last⟩ := steps.weaving_woven.inRanges_protectedRanges.mp
      ⟨range, hrange, Nat.le_sub_one_of_lt proper, Nat.sub_one_lt_of_lt proper⟩
    have before := Markers.place_lt_entry (TracedBody.markers hooks steps.anchor steps.tag)
      code.instructions hlt
    rw [← last, ← steps.weaving_woven.size] at before
    have stop : range.2 ≤ steps.weaving.instructions.size := Nat.le_of_pred_lt before
    exact ⟨inside (Nat.le_of_lt (Nat.lt_of_lt_of_le proper stop)), inside stop, inside le_rfl⟩

theorem decodeTable_iff {found : List Frame} : Frame.decodeTable
    (Frame.encodeTable steps.traced.frames steps.initial steps.decoded.offsets) steps.initial
      steps.decoded = .ok found ↔
    Frame.Ascending 0 steps.traced.frames ∧ found = steps.traced.frames :=
  Frame.decodeTable_encodeTable_iff (steps.regular hcode) (steps.frames_forms hcode)
    (steps.frames_within hcode) (steps.length_frames_lt hcode)

section Attributes

variable {last : ConstantPool} (hp : pool.Numbered) (hext : later.Extends last)
include hp hext

omit hcode hext in
theorem numbered_woven : steps.woven.Numbered :=
  ((steps.grown.trans steps.start_extends_named).trans steps.named_extends_woven).numbered hp

omit hp hcode in
theorem start_extends : steps.start.Extends last :=
  ((steps.start_extends_named.trans steps.named_extends_woven).trans
    steps.woven_extends_later).trans hext

/-- Every attribute is a table that has been moved into the written code. -/
theorem exists_table {attr : Attribute} (ha : attr ∈ steps.attributes) :
    ∃ (table : PlacedTable) (text : String), last.utf8 attr.name = .ok text ∧
      table.Matches steps.decoded.instructions.size method.hasFrames text ∧
      attr.info = table.write steps.decoded.offsets
        (Frame.encodeTable steps.traced.frames steps.initial steps.decoded.offsets) := by
  rcases TracedBody.attributes_cases (steps.numbered_woven hp) steps.attributes_runs ha with
    ⟨entry, he, rfl⟩ | ⟨framed, named, info⟩
  · obtain ⟨text, ht, hm⟩ := steps.matches_of_mem hcode he
    exact ⟨entry.2, text, (steps.start_extends hext).utf8 ht, hm, rfl⟩
  · exact ⟨.frames, _, hext.utf8 named, ⟨rfl, framed⟩, info⟩

/-- The places that are written can all be found again if and only if none of the old frames stands
where the added handler begins. -/
theorem resolves_iff {entry : Except ClassFileError (List VerificationType)}
    (hentry : method.hasFrames = true → entry = .ok steps.initial) :
    steps.written.Resolves last entry steps.flow steps.decoded ↔
      (steps.weaving.protectedRanges steps.anchor ≠ [] →
        ∀ frame ∈ steps.placed.frames, frame.label ≠ code.instructions.size) := by
  have regular := steps.regular hcode
  rw [← steps.frames_ascending_iff hcode]
  constructor
  · intro resolves
    by_cases empty : steps.traced.frames = []
    · rw [empty]
      trivial
    have framed := steps.framed_of_frames_ne_nil hcode empty
    obtain ⟨attr, ha, info, named⟩ := TracedBody.exists_frameTable (steps.numbered_woven hp)
      steps.attributes_runs framed empty
    have named : last.utf8 attr.name = .ok "StackMapTable" := by
      rcases named with named | ⟨entry, he, same, isFrames⟩
      · exact hext.utf8 named
      · obtain ⟨text, ht, hm⟩ := steps.matches_of_mem hcode he
        rw [← same, (steps.start_extends hext).utf8 ht, hm.eq_stackMapTable isFrames]
    obtain ⟨initial, frames, hi, hd⟩ := resolves.frames attr ha named
    obtain rfl := Except.ok.inj (hi.symm.trans (hentry framed))
    rw [info] at hd
    exact ((steps.decodeTable_iff hcode).mp hd).1
  · intro ascending
    refine ⟨steps.ofCode_written hcode, rfl, regular.handlers fun _ => steps.handlers_le hcode,
      ?_, ?_, ?_⟩
    · intro attr ha named
      obtain ⟨table, text, ht, hm, info⟩ := steps.exists_table hcode hp hext ha
      obtain rfl := Except.ok.inj (ht.symm.trans named)
      rw [info]
      exact hm.parse_lines regular
    · intro attr ha named
      obtain ⟨table, text, ht, hm, info⟩ := steps.exists_table hcode hp hext ha
      have either : text = "LocalVariableTable" ∨ text = "LocalVariableTypeTable" := by
        simpa [ht] using named
      rw [info]
      exact hm.parse_locals regular either
    · intro attr ha named
      obtain ⟨table, text, ht, hm, info⟩ := steps.exists_table hcode hp hext ha
      obtain rfl := Except.ok.inj (ht.symm.trans named)
      obtain ⟨rfl, framed⟩ := hm.eq_frames
      rw [info]
      exact ⟨steps.initial, _, hentry framed, (steps.decodeTable_iff hcode).mpr ⟨ascending, rfl⟩⟩

end Attributes

end Moves

end TracedMethod.Steps

end MethodTrace
