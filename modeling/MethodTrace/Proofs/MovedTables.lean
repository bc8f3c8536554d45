import MethodTrace.Proofs.ReadableClasses

/-!
The tables of a body that is given hook calls.

Line numbers, variables and frames name places in the code, and these move when the prologue and the
end calls are woven in. Every table that is kept says of the moved instructions what it has said of
them before, and the frames are followed by that of the added handler.
-/

namespace MethodTrace

open ConstantPool Layout Weaving

namespace Attribute

variable {pool : ConstantPool} {attr : Attribute} {text : String} {hasFrames : Bool}

theorem hasName_iff : attr.hasName pool text = true ↔ pool.utf8 attr.name = .ok text := by
  unfold hasName
  split
  · next found hf => simp [hf]
  · next e he => simp [he]

theorem hasName_eq_false {found : String} (h : pool.utf8 attr.name = .ok found)
    (ne : found ≠ text) : attr.hasName pool text = false := by
  simpa [hasName, h] using ne

/-- Whether an attribute of a body is one of the tables that follow its instructions. -/
def isPlaced (pool : ConstantPool) (hasFrames : Bool) (attr : Attribute) : Bool :=
  attr.hasName pool "LineNumberTable" || attr.hasName pool "LocalVariableTable"
    || attr.hasName pool "LocalVariableTypeTable"
    || (hasFrames && attr.hasName pool "StackMapTable")

end Attribute

@[simp]
theorem PlacedTable.isFrames_mapLabels (f : Label → Label) (table : PlacedTable) :
    (table.mapLabels f).isFrames = table.isFrames := by
  cases table <;> rfl

/-- What an attribute is expanded to. -/
inductive PlacedTable.Expands (pool : ConstantPool) (hasFrames : Bool) (code : Decoded)
    (attr : Attribute) : PlacedTable → Prop
  | lines {rows : List LineRow} (named : pool.utf8 attr.name = .ok "LineNumberTable")
      (read : LineRow.parseTable attr.info code = .ok rows) :
      Expands pool hasFrames code attr (lines rows)
  | locals {rows : List VariableRow} (named : pool.utf8 attr.name = .ok "LocalVariableTable" ∨
        pool.utf8 attr.name = .ok "LocalVariableTypeTable")
      (read : VariableRow.parseTable attr.info code = .ok rows) :
      Expands pool hasFrames code attr (locals rows)
  | frames (framed : hasFrames = true) (named : pool.utf8 attr.name = .ok "StackMapTable") :
      Expands pool hasFrames code attr frames

namespace PlacedTable.Expands

variable {pool : ConstantPool} {hasFrames : Bool} {code : Decoded} {attr : Attribute}
  {table : PlacedTable}

theorem isPlaced (h : Expands pool hasFrames code attr table) :
    attr.isPlaced pool hasFrames = true := by
  simp only [Attribute.isPlaced, Bool.or_eq_true, Bool.and_eq_true, Attribute.hasName_iff]
  cases h with
  | lines named => exact .inl (.inl (.inl named))
  | locals named =>
    rcases named with named | named
    · exact .inl (.inl (.inr named))
    · exact .inl (.inr named)
  | frames framed named => exact .inr ⟨framed, named⟩

theorem hasName_stackMapTable (h : Expands pool hasFrames code attr table) :
    attr.hasName pool "StackMapTable" = table.isFrames := by
  cases h with
  | lines named => exact Attribute.hasName_eq_false named (by decide)
  | locals named =>
    rcases named with named | named
    · exact Attribute.hasName_eq_false named (by decide)
    · exact Attribute.hasName_eq_false named (by decide)
  | frames framed named => exact Attribute.hasName_iff.mpr named

end PlacedTable.Expands

namespace PlacedBody

variable {pool : ConstantPool} {hasFrames : Bool} {initial : List VerificationType}
  {code : Decoded} {body : Body} {before after placed : PlacedBody} {attr : Attribute}

/-- An attribute becomes a table of the body, and replaces its frames if it has any, or is
dropped. -/
theorem addAttribute_cases
    (h : addAttribute pool hasFrames initial code before attr = .ok after) :
    (∃ table, PlacedTable.Expands pool hasFrames code attr table ∧
        after.tables = before.tables ++ [(attr.name, table)] ∧
        if table.isFrames then Frame.decodeTable attr.info initial code = .ok after.frames
        else after.frames = before.frames) ∨
      attr.isPlaced pool hasFrames = false ∧ after = before := by
  obtain ⟨text, ht, h⟩ := Except.bind_eq_ok_iff.mp h
  split at h
  · obtain ⟨rows, hr, h⟩ := Except.bind_eq_ok_iff.mp h
    cases h
    exact .inl ⟨_, .lines ht hr, rfl, rfl⟩
  · obtain ⟨rows, hr, h⟩ := Except.bind_eq_ok_iff.mp h
    cases h
    exact .inl ⟨_, .locals (.inl ht) hr, rfl, rfl⟩
  · obtain ⟨rows, hr, h⟩ := Except.bind_eq_ok_iff.mp h
    cases h
    exact .inl ⟨_, .locals (.inr ht) hr, rfl, rfl⟩
  · split at h
    · next framed =>
      obtain ⟨frames, hf, h⟩ := Except.bind_eq_ok_iff.mp h
      cases h
      exact .inl ⟨_, .frames framed ht, rfl, hf⟩
    · next unframed =>
      cases h
      have bare : hasFrames = false := by simpa using unframed
      refine .inr ⟨?_, rfl⟩
      simp [Attribute.isPlaced, Attribute.hasName, ht, bare]
  · next line variable_ type frame =>
    cases h
    refine .inr ⟨?_, rfl⟩
    simp only [Attribute.isPlaced, Attribute.hasName, ht, Bool.or_eq_false_iff,
      Bool.and_eq_false_iff, beq_eq_false_iff_ne]
    exact ⟨⟨⟨line, variable_⟩, type⟩, .inr frame⟩

/-- The tables of a body are its attributes that can be placed, in their order. -/
theorem ofBody_tables (h : ofBody pool hasFrames initial code body = .ok placed) :
    List.Forall₂
      (fun attr entry => entry.1 = attr.name ∧ PlacedTable.Expands pool hasFrames code attr entry.2)
      (body.attributes.filter (·.isPlaced pool hasFrames)) placed.tables := by
  obtain ⟨handlers, _, h⟩ := Except.bind_eq_ok_iff.mp h
  refine Except.foldlM_induction (P := fun done placed => List.Forall₂
    (fun attr entry => entry.1 = attr.name ∧ PlacedTable.Expands pool hasFrames code attr entry.2)
    (done.filter (·.isPlaced pool hasFrames)) placed.tables) h .nil ?_
  intro done attr before after hd step
  rw [List.filter_append]
  rcases addAttribute_cases step with ⟨table, expands, tables, _⟩ | ⟨unplaced, rfl⟩
  · rw [List.filter_cons_of_pos expands.isPlaced, List.filter_nil, tables]
    exact List.rel_append hd (.cons ⟨rfl, expands⟩ .nil)
  · rw [List.filter_cons_of_neg (by simp [unplaced]), List.filter_nil, List.append_nil]
    exact hd

/-- The frames of a body are those of its last frame table. -/
theorem ofBody_frames (h : ofBody pool true initial code body = .ok placed) :
    match (body.attributes.filter (·.hasName pool "StackMapTable")).getLast? with
    | some attr => Frame.decodeTable attr.info initial code = .ok placed.frames
    | none => placed.frames = [] := by
  obtain ⟨handlers, _, h⟩ := Except.bind_eq_ok_iff.mp h
  refine Except.foldlM_induction (P := fun done placed =>
    match (done.filter (·.hasName pool "StackMapTable")).getLast? with
    | some attr => Frame.decodeTable attr.info initial code = .ok placed.frames
    | none => placed.frames = []) h rfl ?_
  intro done attr before after hd step
  rw [List.filter_append]
  rcases addAttribute_cases step with ⟨table, expands, _, frames⟩ | ⟨unplaced, rfl⟩
  · have named := expands.hasName_stackMapTable
    cases isFrames : table.isFrames with
    | true =>
      rw [isFrames] at named frames
      rw [List.filter_cons_of_pos named, List.filter_nil, List.getLast?_concat]
      exact frames
    | false =>
      rw [isFrames] at named frames
      rw [List.filter_cons_of_neg (by simp [named]), List.filter_nil, List.append_nil]
      rwa [← show after.frames = before.frames from frames] at hd
  · have named : attr.hasName pool "StackMapTable" = false := by
      simp only [Attribute.isPlaced, Bool.true_and, Bool.or_eq_false_iff] at unplaced
      exact unplaced.2
    rw [List.filter_cons_of_neg (by simp [named]), List.filter_nil, List.append_nil]
    exact hd

end PlacedBody

theorem LineRow.parseTable_write {code : Decoded} (h : code.Regular) {rows : List LineRow}
    (hc : Counted (Within code.instructions.size) rows) :
    parseTable (Bytes.counted (·.write code.offsets) rows) code = .ok rows :=
  Except.map_eq_ok_iff.mpr
    ⟨_, (Reader.takes_counted_of hc fun _ => LineRow.takes_read h).onSlice, rfl⟩

theorem VariableRow.parseTable_write {code : Decoded} (h : code.Regular) {rows : List VariableRow}
    (hc : Counted (Within code.instructions.size) rows) :
    parseTable (Bytes.counted (·.write code.offsets) rows) code = .ok rows :=
  Except.map_eq_ok_iff.mpr
    ⟨_, (Reader.takes_counted_of hc fun _ => VariableRow.takes_read h).onSlice, rfl⟩

/-- A label that lies in the range of a variable. -/
def VariableRow.Covers (row : VariableRow) (label : Label) : Prop :=
  (row.start : Nat) ≤ label ∧ label < row.stop

/-- How the instructions of a body have moved: `move` leads to where control comes that jumps to an
old label, and `place` to where its instruction stands. -/
structure MovesCode (old new : Array Instruction) (move place : Label → Label) : Prop where
  stands : ∀ (label : Nat) insn, old[label]? = some insn →
    ∃ laid, new[place label]? = some laid ∧ (insn.mapTargets move).Widens laid
  /-- A return is met by way of the end call before it. -/
  place_eq : ∀ (label : Nat) insn, old[label]? = some insn →
    place label = if insn.opcode.isReturn then move label + 1 else move label
  order : ∀ label other : Nat, label < old.size → other ≤ old.size →
    (move other ≤ place label ↔ other ≤ label)

theorem MovesCode.covers_iff {old new : Array Instruction} {move place : Label → Label}
    (h : MovesCode old new move place) {row : VariableRow} (hr : row.Within old.size) {label : Nat}
    (hl : label < old.size) : (row.mapLabels move).Covers (place label) ↔ row.Covers label := by
  have start := h.order label row.start hl (Nat.le_trans hr.start_le hr.stop_le)
  have stop := h.order label row.stop hl hr.stop_le
  exact and_congr start (by rw [← Nat.not_le, ← Nat.not_le]; exact not_congr stop)

/-- An object that has been created by an instruction is known by the new place of the same one. -/
theorem MovesCode.creates {old new : Array Instruction} {move place : Label → Label}
    (h : MovesCode old new move place) {label : Nat} {insn : Instruction} (formed : insn.Formed)
    (hi : old[label]? = some insn) (creates : insn.opcode = Opcode.new) :
    new[move label]? = some insn := by
  obtain ⟨laid, hl, hw⟩ := h.stands label insn hi
  have stays : insn.opcode.isReturn = false := by
    rw [creates]
    decide
  have met := h.place_eq label insn hi
  rw [if_neg (by simp [stays])] at met
  rcases Entry.idle_or_eq formed hw with rfl | ⟨idle, _⟩
  · rwa [← met]
  · exact absurd creates idle.1

/-- A table of old code and what it becomes in new code, whose frame table ends with frames that
have been added. -/
inductive Attribute.Follows (pool : ConstantPool) (hasFrames : Bool)
    (initial : List VerificationType) (old new : Decoded) (move place : Label → Label)
    (added : List Frame) (former : Attribute) : Attribute → Prop
  | lines {rows : List LineRow} (named : pool.utf8 former.name = .ok "LineNumberTable")
      (read : LineRow.parseTable former.info old = .ok rows)
      (reread : LineRow.parseTable
        (Bytes.counted (·.write new.offsets) (rows.map (·.mapLabels move))) new
          = .ok (rows.map (·.mapLabels move))) :
      Follows pool hasFrames initial old new move place added former
        ⟨former.name, Bytes.counted (·.write new.offsets) (rows.map (·.mapLabels move))⟩
  | locals {rows : List VariableRow} (named : pool.utf8 former.name = .ok "LocalVariableTable" ∨
        pool.utf8 former.name = .ok "LocalVariableTypeTable")
      (read : VariableRow.parseTable former.info old = .ok rows)
      (reread : VariableRow.parseTable
        (Bytes.counted (·.write new.offsets) (rows.map (·.mapLabels move))) new
          = .ok (rows.map (·.mapLabels move)))
      (covers : ∀ row ∈ rows, ∀ label < old.instructions.size,
        (row.mapLabels move).Covers (place label) ↔ row.Covers label) :
      Follows pool hasFrames initial old new move place added former
        ⟨former.name, Bytes.counted (·.write new.offsets) (rows.map (·.mapLabels move))⟩
  | frames {frames : List Frame} {info : Bytes} (framed : hasFrames = true)
      (named : pool.utf8 former.name = .ok "StackMapTable")
      (read : Frame.decodeTable former.info initial old = .ok frames)
      (reread : Frame.decodeTable info initial new
        = .ok (frames.map (·.mapLabels move) ++ added)) :
      Follows pool hasFrames initial old new move place added former ⟨former.name, info⟩

namespace TracedBody

variable {hasFrames : Bool} {markers : Markers} {code : Decoded} {body : PlacedBody}
  {pool later : ConstantPool} {traced : TracedBody}

/-- The frame of the added handler has what is thrown on its stack. -/
theorem trace_throwable (h : Runs (trace hasFrames markers code body) pool traced later)
    (hp : pool.Numbered) (framed : hasFrames = true)
    (guarded : (weave markers code.instructions).protectedRanges markers.anchor ≠ [])
    {before : List Frame} {label : Label} {classRef : UInt16}
    (hf : traced.frames = before ++ [⟨label, [], [.object classRef]⟩]) :
    later.className classRef = .ok throwableName := by
  unfold trace at h
  dsimp only at h
  split at h
  · next none => exact absurd none guarded
  · obtain ⟨added, between, ha, h⟩ := Runs.bind_iff.mp h
    obtain ⟨rfl, rfl⟩ := Runs.pure_iff.mp h
    unfold handlerFrames at ha
    rw [if_pos framed] at ha
    obtain ⟨found, last, hc, ha⟩ := Runs.bind_iff.mp ha
    obtain ⟨rfl, rfl⟩ := Runs.pure_iff.mp ha
    obtain ⟨_, same⟩ := List.append_inj' hf rfl
    cases same
    exact classIndex_runs hp hc

end TracedBody

namespace PlacedBody

variable {pool : ConstantPool} {hasFrames : Bool} {initial : List VerificationType}
  {code : Decoded} {body : Body} {placed : PlacedBody}

/-- A body has a table for its frames if it has had one that is read. -/
theorem ofBody_any_isFrames (h : ofBody pool true initial code body = .ok placed) :
    placed.tables.any (·.2.isFrames) = body.attributes.any (·.hasName pool "StackMapTable") := by
  have same {attrs : List Attribute} {tables : List (UInt16 × PlacedTable)}
      (h : List.Forall₂ (fun attr entry => entry.1 = attr.name ∧
        PlacedTable.Expands pool true code attr entry.2) attrs tables) :
      tables.any (·.2.isFrames) = attrs.any (·.hasName pool "StackMapTable") := by
    induction h with
    | nil => rfl
    | cons head _ ih => rw [List.any_cons, List.any_cons, ih, head.2.hasName_stackMapTable]
  rw [same (ofBody_tables h), List.any_filter]
  refine congrArg body.attributes.any (funext fun attr => ?_)
  cases named : attr.hasName pool "StackMapTable" with
  | true => simp [Attribute.isPlaced, named]
  | false => simp

end PlacedBody

namespace TracedMethod.Steps

variable {method : TracedMethod} {hooks : HookIndices} {body : Body} {code : Decoded}
  {pool later : ConstantPool} (steps : Steps method hooks body code pool later)

theorem movesCode (hcode : Decoded.ofCode body.code = .ok code) :
    MovesCode code.instructions steps.decoded.instructions steps.weaving.relocate
      ((TracedBody.markers hooks steps.anchor steps.tag).place code.instructions) where
  stands := by
    intro label insn hi
    obtain ⟨ranges, traced⟩ := steps.exists_traced hcode
    obtain ⟨laid, hl, hw⟩ := traced.original label insn hi
    have moved : insn.mapTargets steps.weaving.relocate = insn.mapTargets
        ((TracedBody.markers hooks steps.anchor steps.tag).target code.instructions) :=
      Instruction.mapTargets_congr fun target ht => steps.weaving_woven.relocate target
        (Decoded.ofCode_targets_le hcode (Array.mem_of_getElem? hi) target ht)
    exact ⟨laid, hl, moved ▸ hw⟩
  place_eq := by
    intro label insn hi
    have le := (Array.getElem?_eq_some_iff.mp hi).1.le
    rw [steps.weaving_woven.relocate label le, Markers.place]
    cases returns : insn.opcode.isReturn with
    | true =>
      rw [Markers.closing_of_return hi returns]
      rfl
    | false =>
      rw [Markers.closing_of_not_return hi returns]
      rfl
  order := by
    intro label other _ le
    rw [steps.weaving_woven.relocate other le]
    exact Markers.target_le_place_iff _ _

section Tables

variable (hcode : Decoded.ofCode body.code = .ok code)
  (single : (body.attributes.filter (·.hasName later "StackMapTable")).length ≤ 1)
  (inside : method.hasFrames = true → ∀ attr ∈ body.attributes,
    later.utf8 attr.name = .ok "StackMapTable" → ∀ frames,
      Frame.decodeTable attr.info steps.initial code = .ok frames →
        ∀ frame ∈ frames, frame.label < code.instructions.size)

theorem placed_later : PlacedBody.ofBody later method.hasFrames steps.initial code body
    = .ok steps.placed :=
  PlacedBody.ofBody_extends (steps.start_extends (.refl _)) steps.placed_eq

include single in
/-- The frames of a body that has no second table for them are those of its frame table. -/
theorem placed_frames (framed : method.hasFrames = true) {attr : Attribute}
    (ha : attr ∈ body.attributes) (named : later.utf8 attr.name = .ok "StackMapTable") :
    Frame.decodeTable attr.info steps.initial code = .ok steps.placed.frames := by
  have placed := steps.placed_later
  rw [framed] at placed
  have frames := PlacedBody.ofBody_frames placed
  have found : attr ∈ body.attributes.filter (·.hasName later "StackMapTable") :=
    List.mem_filter.mpr ⟨ha, Attribute.hasName_iff.mpr named⟩
  obtain ⟨only, same⟩ := List.length_eq_one_iff.mp
    (le_antisymm single (List.length_pos_of_mem found))
  rw [same] at found frames
  rwa [List.mem_singleton.mp found]

theorem placed_frames_of_none (framed : method.hasFrames = true)
    (none : body.attributes.any (·.hasName later "StackMapTable") = false) :
    steps.placed.frames = [] := by
  have placed := steps.placed_later
  rw [framed] at placed
  have frames := PlacedBody.ofBody_frames placed
  have empty : body.attributes.filter (·.hasName later "StackMapTable") = [] :=
    List.filter_eq_nil_iff.mpr fun attr ha named =>
      Bool.eq_false_iff.mp none (List.any_eq_true.mpr ⟨attr, ha, named⟩)
  rwa [empty] at frames

include hcode single inside

theorem placed_frames_lt : ∀ frame ∈ steps.placed.frames, frame.label < code.instructions.size := by
  cases framed : method.hasFrames with
  | false =>
    rw [(steps.placed_sound hcode).bare framed]
    simp
  | true =>
    cases any : body.attributes.any (·.hasName later "StackMapTable") with
    | false =>
      rw [steps.placed_frames_of_none framed any]
      simp
    | true =>
      obtain ⟨attr, ha, named⟩ := List.any_eq_true.mp any
      have named := Attribute.hasName_iff.mp named
      exact inside framed attr ha named _ (steps.placed_frames single framed ha named)

/-- What is written for the frames is expanded to them again. -/
theorem decodeTable_written : Frame.decodeTable
    (Frame.encodeTable steps.traced.frames steps.initial steps.decoded.offsets) steps.initial
      steps.decoded = .ok steps.traced.frames := by
  refine (steps.decodeTable_iff hcode).mpr ⟨(steps.frames_ascending_iff hcode).mpr ?_, rfl⟩
  exact fun _ frame hf => (steps.placed_frames_lt hcode single inside frame hf).ne

variable {added : List Frame} (moves : TracedBody.Moves method.hasFrames
  (TracedBody.markers hooks steps.anchor steps.tag) code steps.placed steps.traced added)

include moves

/-- Every table follows the instructions of its body. -/
theorem follows {former : Attribute} (ha : former ∈ body.attributes) {table : PlacedTable}
    (expands : table.Expands later method.hasFrames code former) :
    former.Follows later method.hasFrames steps.initial code steps.decoded steps.weaving.relocate
      ((TracedBody.markers hooks steps.anchor steps.tag).place code.instructions) added
      ⟨former.name, (table.mapLabels steps.weaving.relocate).write steps.decoded.offsets
        (Frame.encodeTable steps.traced.frames steps.initial steps.decoded.offsets)⟩ := by
  have ascending := Decoded.ofCode_ascending hcode
  have regular := steps.regular hcode
  have order (label other : Nat) (hle : label ≤ other) (ho : other ≤ code.instructions.size) :=
    steps.relocate_le hle ho
  have within (label : Nat) (hl : label ≤ code.instructions.size) :=
    (steps.relocate_le_size hl).trans steps.size_weaving_le
  cases expands with
  | lines named read =>
    have counted : (PlacedTable.lines _).Matches _ method.hasFrames "LineNumberTable" :=
      ⟨rfl, PlacedBody.lineTable_counted ascending read⟩
    exact .lines named read (LineRow.parseTable_write regular (counted.map order within).2)
  | locals named read =>
    have rows := PlacedBody.variableTable_counted ascending read
    have counted : (PlacedTable.locals _).Matches _ method.hasFrames "LocalVariableTable" :=
      ⟨.inl rfl, rows⟩
    exact .locals named read (VariableRow.parseTable_write regular (counted.map order within).2)
      fun row hr label hl => (steps.movesCode hcode).covers_iff (rows.2 row hr) hl
  | frames framed named =>
    refine .frames framed named (steps.placed_frames single framed ha named) ?_
    have written := steps.decodeTable_written hcode single inside
    rwa [moves.frames_eq] at written ⊢

/-- A table is appended for the frame of the added handler if none of the old ones takes it. -/
theorem appended_follows {appended : List Attribute}
    (h : if method.hasFrames = true ∧ steps.traced.tables.any (·.2.isFrames) = false ∧
        steps.traced.frames ≠ [] then
      ∃ name, appended
          = [⟨name, Frame.encodeTable steps.traced.frames steps.initial steps.decoded.offsets⟩] ∧
        (steps.woven.Numbered → later.utf8 name = .ok "StackMapTable")
      else appended = []) :
    if added.isEmpty || body.attributes.any (·.hasName later "StackMapTable") then appended = []
    else ∃ name info, appended = [⟨name, info⟩] ∧
      Frame.decodeTable info steps.initial steps.decoded = .ok added ∧
      (pool.Numbered → later.utf8 name = .ok "StackMapTable") := by
  have tables_any (framed : method.hasFrames = true) : steps.traced.tables.any (·.2.isFrames)
      = body.attributes.any (·.hasName later "StackMapTable") := by
    have placed := steps.placed_later
    rw [framed] at placed
    rw [moves.tables_eq, List.any_map, ← PlacedBody.ofBody_any_isFrames placed]
    exact congrArg _ (funext fun entry => PlacedTable.isFrames_mapLabels _ _)
  have frames_eq (framed : method.hasFrames = true)
      (none : body.attributes.any (·.hasName later "StackMapTable") = false) :
      steps.traced.frames = added := by
    rw [moves.frames_eq, steps.placed_frames_of_none framed none]
    rfl
  split
  · next needless =>
    rw [if_neg] at h
    · exact h
    rintro ⟨framed, none, some⟩
    rw [tables_any framed] at none
    rw [none, Bool.or_false, List.isEmpty_iff] at needless
    exact some ((frames_eq framed none).trans needless)
  · next needed =>
    rw [Bool.or_eq_true, not_or, List.isEmpty_iff, Bool.not_eq_true] at needed
    obtain ⟨some, none⟩ := needed
    have framed : method.hasFrames = true := by
      rcases moves.added_cases with ⟨empty, _⟩ | ⟨framed, _⟩
      · exact absurd empty some
      · exact framed
    rw [if_pos ⟨framed, (tables_any framed).trans none, frames_eq framed none ▸ some⟩] at h
    obtain ⟨name, rfl, named⟩ := h
    refine ⟨name, _, rfl, ?_, fun hp => named (steps.numbered_woven hp)⟩
    rw [steps.decodeTable_written hcode single inside, frames_eq framed none]

/-- The tables of a body are written one by one, and frames that none of them takes in one more. -/
theorem attributes_follow : ∃ kept appended, steps.attributes = kept ++ appended ∧
    List.Forall₂ (Attribute.Follows later method.hasFrames steps.initial code steps.decoded
        steps.weaving.relocate
        ((TracedBody.markers hooks steps.anchor steps.tag).place code.instructions) added)
      (body.attributes.filter (·.isPlaced later method.hasFrames)) kept ∧
    if added.isEmpty || body.attributes.any (·.hasName later "StackMapTable") then appended = []
    else ∃ name info, appended = [⟨name, info⟩] ∧
      Frame.decodeTable info steps.initial steps.decoded = .ok added ∧
      (pool.Numbered → later.utf8 name = .ok "StackMapTable") := by
  obtain ⟨appended, written, ending⟩ := TracedBody.attributes_eq steps.attributes_runs
  refine ⟨_, appended, written, ?_, steps.appended_follows hcode single inside moves ending⟩
  rw [moves.tables_eq, List.map_map, List.forall₂_map_right_iff]
  have tables := (List.forall₂_and_left _ _).mpr
    ⟨fun attr ha => (List.mem_filter.mp ha).1, PlacedBody.ofBody_tables steps.placed_later⟩
  refine tables.imp fun attr entry => ?_
  rintro ⟨ha, same, expands⟩
  have follows := steps.follows hcode single inside moves ha expands
  rwa [← same] at follows

omit hcode single inside in
/-- The added handler gets a frame in which what is thrown is all that is on the stack. -/
theorem added_follows :
    if method.hasFrames && !(steps.weaving.protectedRanges steps.anchor).isEmpty then
      ∃ thrown, added = [⟨steps.weaving.relocate code.instructions.size, [], [.object thrown]⟩] ∧
        (pool.Numbered → later.className thrown = .ok TracedBody.throwableName)
    else added = [] := by
  rcases moves.added_cases with ⟨rfl, bare⟩ | ⟨framed, guarded, thrown, rfl⟩
  · rw [if_neg]
    intro guarded
    rw [Bool.and_eq_true, Bool.not_eq_true', List.isEmpty_eq_false_iff] at guarded
    exact guarded.2 (bare guarded.1)
  · have needed : (!(steps.weaving.protectedRanges steps.anchor).isEmpty) = true := by
      rw [Bool.not_eq_true', List.isEmpty_eq_false_iff]
      exact guarded
    rw [if_pos (Bool.and_eq_true_iff.mpr ⟨framed, needed⟩)]
    refine ⟨thrown, by rw [steps.relocate_size]; rfl, fun hp => ?_⟩
    have numbered := (steps.grown.trans steps.start_extends_named).numbered hp
    exact steps.woven_extends_later.className
      (TracedBody.trace_throwable steps.traced_runs numbered framed guarded moves.frames_eq)

end Tables

theorem handlers_written (hcode : Decoded.ofCode body.code = .ok code) :
    steps.decoded.handlers steps.written.exceptions = .ok
      ((steps.placed.handlers.map fun handler => { handler with
          start := steps.weaving.relocate handler.start
          stop := steps.weaving.relocate handler.stop
          handler := steps.weaving.relocate handler.handler }) ++
        (steps.weaving.protectedRanges steps.anchor).map fun range =>
          ⟨range.1, range.2, steps.weaving.relocate code.instructions.size, 0⟩) := by
  obtain ⟨_, _, rfl, rfl, handlers_eq, _⟩ := TracedBody.trace_runs steps.traced_runs
  have found := (steps.regular hcode).handlers fun _ => steps.handlers_le hcode
  refine found.trans (congrArg Except.ok ?_)
  rw [handlers_eq, steps.relocate_size]
  rfl

end TracedMethod.Steps

/-- What has become of a body whose instructions have moved. Its old tables are kept in their order,
its old handlers come before those that guard the given ranges, and the given frames have been added
for these. -/
structure Body.Follows (pool later : ConstantPool) (hasFrames : Bool)
    (initial : List VerificationType) (move place : Label → Label) (guards : List (Label × Label))
    (added : List Frame) (body : Body) (old : Decoded) (written : Body) (new : Decoded) : Prop where
  code_eq : Decoded.ofCode written.code = .ok new
  moves : MovesCode old.instructions new.instructions move place
  creates : ∀ (label : Nat) insn, old.instructions[label]? = some insn →
    insn.opcode = Opcode.new → new.instructions[move label]? = some insn
  handlers : ∃ former, old.handlers body.exceptions = .ok former ∧
    new.handlers written.exceptions = .ok
      ((former.map fun handler => { handler with
          start := move handler.start, stop := move handler.stop, handler := move handler.handler })
        ++ guards.map fun range => ⟨range.1, range.2, move old.instructions.size, 0⟩)
  guarded :
    if hasFrames && !guards.isEmpty then
      ∃ thrown, added = [⟨move old.instructions.size, [], [.object thrown]⟩] ∧
        (pool.Numbered → later.className thrown = .ok TracedBody.throwableName)
    else added = []
  attributes : ∃ kept appended, written.attributes = kept ++ appended ∧
    List.Forall₂ (Attribute.Follows later hasFrames initial old new move place added)
      (body.attributes.filter (·.isPlaced later hasFrames)) kept ∧
    if added.isEmpty || body.attributes.any (·.hasName later "StackMapTable") then appended = []
    else ∃ name info, appended = [⟨name, info⟩] ∧ Frame.decodeTable info initial new = .ok added ∧
      (pool.Numbered → later.utf8 name = .ok "StackMapTable")

/-- The tables of a traced body say of the moved instructions what they have said of them before. -/
theorem TracedMethod.instrumentBody_follows {method : TracedMethod} {hooks : HookIndices}
    {body written : Body} {code : Decoded} {flow : Flow} {pool start later : ConstantPool}
    {initial : List VerificationType} (hcode : Decoded.ofCode body.code = .ok code)
    (h : Runs (method.instrumentBody hooks body code) pool (flow, written) later)
    (hi : Runs method.entryLocals pool initial start)
    (single : (body.attributes.filter (·.hasName later "StackMapTable")).length ≤ 1)
    (inside : method.hasFrames = true → ∀ attr ∈ body.attributes,
      later.utf8 attr.name = .ok "StackMapTable" → ∀ frames,
        Frame.decodeTable attr.info initial code = .ok frames →
          ∀ frame ∈ frames, frame.label < code.instructions.size) :
    ∃ anchor tag new added,
      Entry.anchor later method.signature.name code.instructions = .ok anchor ∧
      new.instructions = flow.instructions ∧
      Body.Follows pool later method.hasFrames initial
        (weave (TracedBody.markers hooks anchor tag) code.instructions).relocate
        ((TracedBody.markers hooks anchor tag).place code.instructions)
        ((weave (TracedBody.markers hooks anchor tag) code.instructions).protectedRanges anchor)
        added body code written new := by
  obtain ⟨steps, rfl, rfl⟩ := instrumentBody_steps h
  obtain ⟨rfl, _⟩ := steps.initial_runs.unique hi
  obtain ⟨added, moves⟩ := TracedBody.trace_moves steps.traced_runs
  have movesCode := steps.movesCode hcode
  exact ⟨steps.anchor, steps.tag, steps.decoded, added,
    Entry.anchor_extends (steps.start_extends (.refl _)) steps.anchor_eq, rfl, {
      code_eq := steps.ofCode_written hcode
      moves := movesCode
      creates := fun label insn hi creates =>
        movesCode.creates (Decoded.ofCode_formed hcode (Array.mem_of_getElem? hi)) hi creates
      handlers := ⟨_, steps.handlers_eq, steps.handlers_written hcode⟩
      guarded := steps.added_follows moves
      attributes := steps.attributes_follow hcode single inside moves }⟩

/-- A pool with the names of all tables, and with all constants that tracing needs. -/
def tablesPool : ConstantPool :=
  let text (s : String) : Constant := .utf8 (ModifiedUtf8.encode s)
  ⟨overframedClass.pool.slots ++ #[text "LineNumberTable", text "LocalVariableTable"]⟩

/-- A body that creates an object, with a frame in which that waits for its constructor. -/
def tablesBody : Body :=
  ⟨1, 1, [0xbb, 0, 2, 0, 0x57, 0xb1], [], [⟨20, [0, 2, 0, 0, 0, 7, 0, 4, 0, 8]⟩,
    ⟨21, [0, 1, 0, 3, 0, 3, 0, 1, 0, 4, 0, 0]⟩, ⟨6, [0, 1, 67, 8, 0, 0]⟩]⟩

def tablesCode : Decoded :=
  ⟨#[.plain 0xbb [0, 2], .plain 0 [], .plain 0x57 [], .plain 0xb1 []], #[0, 3, 4, 5, 6]⟩

def tablesPlaced : PlacedBody where
  handlers := []
  frames := [⟨1, [], [.uninitialized 0]⟩]
  tables := [(20, .lines [⟨0, 7⟩, ⟨2, 8⟩]), (21, .locals [⟨1, 4, 1, 4, 0⟩]), (6, .frames)]

def tablesTraced : TracedBody where
  weaving := Weaving.weave (TracedBody.markers ⟨12, 15⟩ 0 17) tablesCode.instructions
  instructions := #[.plain 0x12 [17], .plain 0xb8 [0, 12], .plain 0xbb [0, 2], .plain 0 [],
    .plain 0x57 [], .plain 0xb8 [0, 15], .plain 0xb1 [], .plain 0xb8 [0, 15], .plain 0xbf []]
  handlers := [⟨2, 5, 7, 0⟩]
  frames := [⟨3, [], [.uninitialized 2]⟩, ⟨7, [], [.object 19]⟩]
  tables := [(20, .lines [⟨2, 7⟩, ⟨4, 8⟩]), (21, .locals [⟨3, 7, 1, 4, 0⟩]), (6, .frames)]

theorem ofBody_tablesBody :
    PlacedBody.ofBody tablesPool true [] tablesCode tablesBody = .ok tablesPlaced := by
  have lines (before : PlacedBody) : PlacedBody.addAttribute tablesPool true [] tablesCode before
      ⟨20, [0, 2, 0, 0, 0, 7, 0, 4, 0, 8]⟩
        = .ok { before with tables := before.tables ++ [(20, .lines [⟨0, 7⟩, ⟨2, 8⟩])] } := by
    have named : tablesPool.utf8 20 = .ok "LineNumberTable" := by decide +kernel
    refine Except.bind_eq_ok_iff.mpr ⟨_, named, ?_⟩
    simp only
    exact Except.bind_eq_ok_iff.mpr ⟨_, by cbv, rfl⟩
  have locals (before : PlacedBody) : PlacedBody.addAttribute tablesPool true [] tablesCode before
      ⟨21, [0, 1, 0, 3, 0, 3, 0, 1, 0, 4, 0, 0]⟩
        = .ok { before with tables := before.tables ++ [(21, .locals [⟨1, 4, 1, 4, 0⟩])] } := by
    have named : tablesPool.utf8 21 = .ok "LocalVariableTable" := by decide +kernel
    refine Except.bind_eq_ok_iff.mpr ⟨_, named, ?_⟩
    simp only
    exact Except.bind_eq_ok_iff.mpr ⟨_, by cbv, rfl⟩
  have frames (before : PlacedBody) : PlacedBody.addAttribute tablesPool true [] tablesCode before
      ⟨6, [0, 1, 67, 8, 0, 0]⟩
        = .ok { before with
            frames := [⟨1, [], [.uninitialized 0]⟩]
            tables := before.tables ++ [(6, .frames)] } := by
    have named : tablesPool.utf8 6 = .ok "StackMapTable" := by decide +kernel
    refine Except.bind_eq_ok_iff.mpr ⟨_, named, ?_⟩
    simp only
    exact Except.bind_eq_ok_iff.mpr ⟨_, by cbv, rfl⟩
  refine Except.bind_eq_ok_iff.mpr ⟨[], rfl, ?_⟩
  refine Except.bind_eq_ok_iff.mpr ⟨_, lines _, Except.bind_eq_ok_iff.mpr ⟨_, locals _, ?_⟩⟩
  exact Except.bind_eq_ok_iff.mpr ⟨_, frames _, rfl⟩

def tablesSteps : TracedMethod.Steps ⟨⟨"A", "m", "()V", 9⟩, 50, "A#m"⟩ ⟨12, 15⟩ tablesBody
    tablesCode tablesPool tablesPool where
  initial := []
  start := tablesPool
  placed := tablesPlaced
  anchor := 0
  tag := 17
  named := tablesPool
  traced := tablesTraced
  woven := tablesPool
  layout := ⟨tablesTraced.instructions, #[0, 2, 5, 8, 9, 10, 13, 14, 17, 18]⟩
  depth := 1
  attributes := [⟨20, [0, 2, 0, 5, 0, 7, 0, 9, 0, 8]⟩,
    ⟨21, [0, 1, 0, 8, 0, 6, 0, 1, 0, 4, 0, 0]⟩, ⟨6, [0, 2, 72, 8, 0, 5, 69, 7, 0, 19]⟩]
  initial_runs := by unfold Runs; cbv
  placed_eq := ofBody_tablesBody
  anchor_eq := by cbv
  named_runs := by unfold Runs; cbv
  traced_runs := by unfold Runs; cbv
  layout_eq := by cbv
  depth_eq := by cbv
  attributes_runs := by unfold Runs; cbv

theorem TracedMethod.instrumentBody_follows_tablesBody :
    Decoded.ofCode tablesBody.code = .ok tablesCode ∧
      Runs (instrumentBody ⟨⟨"A", "m", "()V", 9⟩, 50, "A#m"⟩ ⟨12, 15⟩ tablesBody tablesCode)
        tablesPool (tablesSteps.flow, tablesSteps.written) tablesPool ∧
      (tablesBody.attributes.filter (·.hasName tablesPool "StackMapTable")).length ≤ 1 ∧
      ∃ anchor tag new added, Entry.anchor tablesPool "m" tablesCode.instructions = .ok anchor ∧
        new.instructions = tablesSteps.flow.instructions ∧
        Body.Follows tablesPool tablesPool true []
          (weave (TracedBody.markers ⟨12, 15⟩ anchor tag) tablesCode.instructions).relocate
          ((TracedBody.markers ⟨12, 15⟩ anchor tag).place tablesCode.instructions)
          ((weave (TracedBody.markers ⟨12, 15⟩ anchor tag) tablesCode.instructions).protectedRanges
            anchor) added tablesBody tablesCode tablesSteps.written new := by
  have code : Decoded.ofCode tablesBody.code = .ok tablesCode := by cbv
  have single :
      (tablesBody.attributes.filter (·.hasName tablesPool "StackMapTable")).length ≤ 1 := by cbv
  refine ⟨code, tablesSteps.runs, single,
    instrumentBody_follows code tablesSteps.runs tablesSteps.initial_runs single ?_⟩
  intro _ attr ha named frames hf frame hm
  have lines : tablesPool.utf8 20 = .ok "LineNumberTable" := by decide +kernel
  have locals : tablesPool.utf8 21 = .ok "LocalVariableTable" := by decide +kernel
  have read : Frame.decodeTable [0, 1, 67, 8, 0, 0] [] tablesCode
      = .ok [⟨1, [], [.uninitialized 0]⟩] := by cbv
  simp only [tablesBody, List.mem_cons, List.not_mem_nil, or_false] at ha
  rcases ha with rfl | rfl | rfl
  · exact absurd (Except.ok.inj (lines.symm.trans named)) (by decide)
  · exact absurd (Except.ok.inj (locals.symm.trans named)) (by decide)
  · obtain rfl := Except.ok.inj (read.symm.trans hf)
    rw [List.mem_singleton.mp hm]
    decide

end MethodTrace
