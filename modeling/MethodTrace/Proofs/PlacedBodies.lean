import MethodTrace.Proofs.FrameRoundTrip
import MethodTrace.Proofs.RewrittenCode

/-!
The tables of rewritten bodies.

Expanding a body leaves tables whose labels all lie in its code. Weaving moves these labels into the
new code, in the same order, and what is written for the moved tables resolves there again: all of
it but for a frame at the end of the old code, which comes to stand where the added handler has its
frame.
-/

namespace MethodTrace

open ConstantPool Layout Weaving

namespace VerificationType

variable {type : VerificationType} {pool later : ConstantPool}

/-- A type that says nothing about the code. -/
def Unlabelled (type : VerificationType) : Prop :=
  ∀ label, type ≠ uninitialized label

theorem Unlabelled.mapLabel_eq (h : type.Unlabelled) (f : Label → Label) :
    type.mapLabel f = type := by
  cases type with
  | uninitialized label => exact absurd rfl (h label)
  | _ => rfl

theorem Unlabelled.within (h : type.Unlabelled) (size : Nat) : type.Within size := by
  cases type with
  | uninitialized label => exact absurd rfl (h label)
  | _ => trivial

theorem unlabelled_ofField {field : FieldType} (h : Runs (ofField field) pool type later) :
    type.Unlabelled := by
  intro label
  unfold ofField at h
  split at h
  all_goals first
    | obtain ⟨rfl, _⟩ := Runs.pure_iff.mp h
      simp
    | obtain ⟨index, _, _, h⟩ := Runs.bind_iff.mp h
      obtain ⟨rfl, _⟩ := Runs.pure_iff.mp h
      simp

end VerificationType

theorem MethodSignature.unlabelled_receiver {method : MethodSignature} {pool later : ConstantPool}
    {receiver : List VerificationType} (h : Runs method.receiver pool receiver later) :
    ∀ type ∈ receiver, type.Unlabelled := by
  unfold MethodSignature.receiver at h
  split at h
  · obtain ⟨rfl, _⟩ := Runs.pure_iff.mp h
    simp
  · split at h
    · obtain ⟨rfl, _⟩ := Runs.pure_iff.mp h
      simp [VerificationType.Unlabelled]
    · obtain ⟨index, _, _, h⟩ := Runs.bind_iff.mp h
      obtain ⟨rfl, _⟩ := Runs.pure_iff.mp h
      simp [VerificationType.Unlabelled]

/-- The locals with which a method begins say nothing about its code. -/
theorem TracedMethod.unlabelled_entryLocals {method : TracedMethod} {pool later : ConstantPool}
    {initial : List VerificationType} (h : Runs method.entryLocals pool initial later) :
    ∀ type ∈ initial, type.Unlabelled := by
  unfold entryLocals at h
  split at h
  · obtain ⟨receiver, _, hr, h⟩ := Runs.bind_iff.mp h
    obtain ⟨descriptor, _, h⟩ := Runs.ofExcept_bind_iff.mp h
    obtain ⟨params, _, hp, h⟩ := Runs.bind_iff.mp h
    obtain ⟨rfl, _⟩ := Runs.pure_iff.mp h
    intro type ht
    rcases List.mem_append.mp ht with ht | ht
    · exact MethodSignature.unlabelled_receiver hr type ht
    · obtain ⟨field, _, _, _, hf⟩ := Runs.exists_of_mem_mapM hp ht
      exact VerificationType.unlabelled_ofField hf
  · obtain ⟨rfl, _⟩ := Runs.pure_iff.mp h
    simp

namespace PlacedTable

variable {size size' : Nat} {hasFrames : Bool} {text : String}

/-- A table in code of so many instructions, as an attribute with this name has it. -/
def Matches (size : Nat) (hasFrames : Bool) (text : String) : PlacedTable → Prop
  | lines rows => text = "LineNumberTable" ∧ Counted (LineRow.Within size) rows
  | locals rows => (text = "LocalVariableTable" ∨ text = "LocalVariableTypeTable") ∧
      Counted (VariableRow.Within size) rows
  | frames => text = "StackMapTable" ∧ hasFrames = true

theorem Matches.map {table : PlacedTable} (h : table.Matches size hasFrames text)
    {f : Label → Label} (hm : ∀ label other : Nat, label ≤ other → other ≤ size → f label ≤ f other)
    (hf : ∀ label ≤ size, f label ≤ size') :
    (table.mapLabels f).Matches size' hasFrames text := by
  cases table with
  | lines rows =>
    obtain ⟨named, length, all⟩ := h
    refine ⟨named, by rwa [List.length_map], fun row hr => ?_⟩
    obtain ⟨former, hm, rfl⟩ := List.mem_map.mp hr
    exact hf _ (all former hm)
  | locals rows =>
    obtain ⟨named, length, all⟩ := h
    refine ⟨named, by rwa [List.length_map], fun row hr => ?_⟩
    obtain ⟨former, hmem, rfl⟩ := List.mem_map.mp hr
    have within := all former hmem
    exact ⟨hm _ _ within.start_le within.stop_le, hf _ within.stop_le⟩
  | frames => exact h

end PlacedTable

namespace PlacedBody

variable {pool later : ConstantPool} {hasFrames : Bool} {initial : List VerificationType}
  {code : Decoded} {body : Body}

/-- The tables of a body in code of so many instructions. -/
structure Sound (pool : ConstantPool) (size : Nat) (hasFrames : Bool)
    (initial : List VerificationType) (placed : PlacedBody) : Prop where
  tables : ∀ entry ∈ placed.tables, ∃ text, pool.utf8 entry.1 = .ok text ∧
    entry.2.Matches size hasFrames text
  frames : Frame.Tabled size initial placed.frames
  bare : hasFrames = false → placed.frames = []

theorem lineTable_counted (h : code.Ascending) {info : Bytes} {rows : List LineRow}
    (hr : LineRow.parseTable info code = .ok rows) :
    Counted (LineRow.Within code.instructions.size) rows := by
  obtain ⟨read, hread, rfl⟩ := Except.map_eq_ok_iff.mp hr
  exact (Reader.counted_yields (LineRow.read_yields h)).of_ok hread

theorem variableTable_counted (h : code.Ascending) {info : Bytes} {rows : List VariableRow}
    (hr : VariableRow.parseTable info code = .ok rows) :
    Counted (VariableRow.Within code.instructions.size) rows := by
  obtain ⟨read, hread, rfl⟩ := Except.map_eq_ok_iff.mp hr
  exact (Reader.counted_yields (VariableRow.read_yields h)).of_ok hread

theorem addAttribute_sound (hc : code.Ascending)
    (hi : ∀ type ∈ initial, type.Within code.instructions.size) {before after : PlacedBody}
    {attr : Attribute} (hb : before.Sound pool code.instructions.size hasFrames initial)
    (h : addAttribute pool hasFrames initial code before attr = .ok after) :
    after.Sound pool code.instructions.size hasFrames initial := by
  obtain ⟨text, ht, h⟩ := Except.bind_eq_ok_iff.mp h
  have keep {table : PlacedTable} (hm : table.Matches code.instructions.size hasFrames text) :
      ∀ entry ∈ before.tables ++ [(attr.name, table)], ∃ text, pool.utf8 entry.1 = .ok text ∧
        entry.2.Matches code.instructions.size hasFrames text := by
    intro entry he
    rcases List.mem_append.mp he with he | he
    · exact hb.tables entry he
    · rw [List.mem_singleton.mp he]
      exact ⟨text, ht, hm⟩
  split at h
  · obtain ⟨rows, hr, h⟩ := Except.bind_eq_ok_iff.mp h
    cases h
    exact ⟨keep ⟨rfl, lineTable_counted hc hr⟩, hb.frames, hb.bare⟩
  · obtain ⟨rows, hr, h⟩ := Except.bind_eq_ok_iff.mp h
    cases h
    exact ⟨keep ⟨.inl rfl, variableTable_counted hc hr⟩, hb.frames, hb.bare⟩
  · obtain ⟨rows, hr, h⟩ := Except.bind_eq_ok_iff.mp h
    cases h
    exact ⟨keep ⟨.inr rfl, variableTable_counted hc hr⟩, hb.frames, hb.bare⟩
  · split at h
    · next hasFrames =>
      obtain ⟨frames, hf, h⟩ := Except.bind_eq_ok_iff.mp h
      cases h
      exact ⟨keep ⟨rfl, hasFrames⟩, Frame.decodeTable_tabled hc hi hf, fun none => by simp_all⟩
    · cases h
      exact hb
  · cases h
    exact hb

/-- What comes out of a body lies in its code. -/
theorem ofBody_sound (hc : code.Ascending)
    (hi : ∀ type ∈ initial, type.Within code.instructions.size) {placed : PlacedBody}
    (h : ofBody pool hasFrames initial code body = .ok placed) :
    placed.Sound pool code.instructions.size hasFrames initial := by
  obtain ⟨handlers, _, h⟩ := Except.bind_eq_ok_iff.mp h
  refine Except.foldlM_keeps h ?_ fun _ _ _ => addAttribute_sound hc hi
  exact ⟨by simp, ⟨by simp [UInt16.size], trivial, by simp, trivial⟩, fun _ => rfl⟩

end PlacedBody

end MethodTrace
