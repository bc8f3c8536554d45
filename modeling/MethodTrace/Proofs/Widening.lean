import MethodTrace.Code.Layout
import MethodTrace.Proofs.Runs

/-!
What relocation and layout leave of an instruction: the one changes nothing but its targets, the
other nothing but the width of a jump.
-/

namespace MethodTrace

namespace Instruction

/-- An instruction and what a layout may make of it. -/
inductive Widens : Instruction → Instruction → Prop
  | same (insn : Instruction) : Widens insn insn
  | jump {narrow wide : Opcode} (target : Label) (h : Layout.wideForm? narrow = some wide) :
      Widens (branch narrow target) (branch wide target)

variable {insn widened : Instruction} {f g : Label → Label}

@[simp]
theorem targets_mapTargets (f : Label → Label) (insn : Instruction) :
    (insn.mapTargets f).targets = insn.targets.map f := by
  cases insn with
  | plain => rfl
  | branch => rfl
  | tableSwitch => simp [mapTargets, targets]
  | lookupSwitch => simp [mapTargets, targets]

@[simp]
theorem opcode_mapTargets (f : Label → Label) (insn : Instruction) :
    (insn.mapTargets f).opcode = insn.opcode := by
  cases insn <;> rfl

@[simp]
theorem endsBlock_mapTargets (f : Label → Label) (insn : Instruction) :
    (insn.mapTargets f).endsBlock = insn.endsBlock := by
  cases insn <;> rfl

theorem mapTargets_congr (h : ∀ t ∈ insn.targets, f t = g t) :
    insn.mapTargets f = insn.mapTargets g := by
  cases insn with
  | plain => rfl
  | branch opcode target => simp [mapTargets, h target (by simp [targets])]
  | tableSwitch fallback low all =>
    have hf := h fallback (by simp [targets])
    have hall : all.map f = all.map g :=
      List.map_congr_left fun t ht => h t (by simp [targets, ht])
    simp [mapTargets, hf, hall]
  | lookupSwitch fallback pairs =>
    have hf := h fallback (by simp [targets])
    have hall : pairs.map (fun p => (p.1, f p.2)) = pairs.map fun p => (p.1, g p.2) :=
      List.map_congr_left fun p hp => by
        rw [h p.2 (by simpa [targets] using .inr ⟨p.1, hp⟩)]
    simp [mapTargets, hf, hall]

/-- The only jumps with a wide form. -/
theorem wideForm?_eq_some {narrow wide : Opcode} (h : Layout.wideForm? narrow = some wide) :
    (narrow = Opcode.goto ∧ wide = Opcode.gotoW) ∨ (narrow = Opcode.jsr ∧ wide = Opcode.jsrW) := by
  unfold Layout.wideForm? at h
  split at h
  · next hg => exact .inl ⟨hg, (Option.some.inj h).symm⟩
  · split at h
    · next hj => exact .inr ⟨hj, (Option.some.inj h).symm⟩
    · cases h

theorem Widens.trans {last : Instruction} (h : Widens insn widened) (h' : Widens widened last) :
    Widens insn last := by
  cases h with
  | same => exact h'
  | @jump narrow wide target hw =>
    cases h' with
    | same => exact .jump target hw
    | jump _ hl =>
      rcases wideForm?_eq_some hw with ⟨_, rfl⟩ | ⟨_, rfl⟩ <;> cases hl

theorem Widens.targets (h : Widens insn widened) : widened.targets = insn.targets := by
  cases h <;> rfl

theorem Widens.endsBlock (h : Widens insn widened) : widened.endsBlock = insn.endsBlock := by
  cases h with
  | same => rfl
  | jump _ hw => rcases wideForm?_eq_some hw with ⟨rfl, rfl⟩ | ⟨rfl, rfl⟩ <;> rfl

theorem Widens.isReturn (h : Widens insn widened) :
    widened.opcode.isReturn = insn.opcode.isReturn := by
  cases h with
  | same => rfl
  | jump _ hw => rcases wideForm?_eq_some hw with ⟨rfl, rfl⟩ | ⟨rfl, rfl⟩ <;> rfl

theorem Widens.isSubroutineCall (h : Widens insn widened) :
    widened.opcode.isSubroutineCall = insn.opcode.isSubroutineCall := by
  cases h with
  | same => rfl
  | jump _ hw => rcases wideForm?_eq_some hw with ⟨rfl, rfl⟩ | ⟨rfl, rfl⟩ <;> rfl

theorem Widens.eq_of_plain {opcode : Opcode} {operands : Bytes}
    (h : Widens (plain opcode operands) widened) : widened = plain opcode operands := by
  cases h
  rfl

end Instruction

namespace Layout

theorem widen_widens {offsets : Array Nat} {insn widened : Instruction} {label : Label}
    (h : widen offsets insn label = .ok widened) : insn.Widens widened := by
  unfold widen at h
  split at h
  · split at h
    · split at h
      · next hw =>
        cases h
        exact .jump _ hw
      · cases h
    · cases h
      exact .same _
  · cases h
    exact .same _

/-- Instructions, and the same ones with some of their jumps widened. -/
structure Widened (instructions laid : Array Instruction) : Prop where
  size : laid.size = instructions.size
  widens : ∀ (label : Nat) insn, instructions[label]? = some insn →
    ∃ widened, laid[label]? = some widened ∧ insn.Widens widened

variable {instructions laid last : Array Instruction}

theorem Widened.refl (instructions : Array Instruction) : Widened instructions instructions :=
  ⟨rfl, fun _ insn h => ⟨insn, h, .same insn⟩⟩

theorem Widened.trans (h : Widened instructions laid) (h' : Widened laid last) :
    Widened instructions last := by
  refine ⟨h'.size.trans h.size, ?_⟩
  intro label insn hi
  obtain ⟨widened, hw, hs⟩ := h.widens label insn hi
  obtain ⟨found, hf, hl⟩ := h'.widens label widened hw
  exact ⟨found, hf, hs.trans hl⟩

theorem Widened.exists_former (h : Widened instructions laid) {insn : Instruction}
    (hi : insn ∈ laid) : ∃ former ∈ instructions, former.Widens insn := by
  obtain ⟨label, hl⟩ := Array.mem_iff_getElem?.mp hi
  have lt : label < instructions.size := h.size ▸ (Array.getElem?_eq_some_iff.mp hl).1
  obtain ⟨widened, hw, hs⟩ := h.widens label _ (Array.getElem?_eq_getElem lt)
  rw [hl] at hw
  cases hw
  exact ⟨_, Array.getElem_mem lt, hs⟩

/-- What is widened has the targets that it had. -/
theorem Widened.targets_le (h : Widened instructions laid)
    (targets : ∀ insn ∈ instructions, ∀ t ∈ insn.targets, t ≤ instructions.size) {insn : Instruction}
    (hi : insn ∈ laid) : ∀ t ∈ insn.targets, t ≤ laid.size := by
  obtain ⟨former, hf, hw⟩ := h.exists_former hi
  rw [hw.targets, h.size]
  exact targets former hf

/-- A pass widens every instruction by itself, at its label. -/
theorem pass_widen {offsets : Array Nat} (h : pass offsets instructions = .ok laid) :
    laid.size = instructions.size ∧ ∀ (label : Nat) insn, instructions[label]? = some insn →
      ∃ widened, laid[label]? = some widened ∧ widen offsets insn label = .ok widened := by
  obtain ⟨list, hl, hr⟩ := Except.bind_eq_ok_iff.mp h
  cases hr
  obtain ⟨hsize, hget⟩ := List.forall₂_iff_get.mp (Except.mapM_eq_ok_iff.mp hl)
  simp only [List.length_zipIdx, Array.length_toList] at hsize hget
  refine ⟨by simp [hsize], ?_⟩
  intro label insn hi
  obtain ⟨hlt, rfl⟩ := Array.getElem?_eq_some_iff.mp hi
  have hw := hget label hlt (by omega)
  simp only [List.get_eq_getElem, List.getElem_zipIdx, Array.getElem_toList] at hw
  exact ⟨list[label], by simp, by simpa using hw⟩

theorem pass_widened {offsets : Array Nat} (h : pass offsets instructions = .ok laid) :
    Widened instructions laid := by
  obtain ⟨size, all⟩ := pass_widen h
  refine ⟨size, fun label insn hi => ?_⟩
  obtain ⟨widened, hl, hw⟩ := all label insn hi
  exact ⟨widened, hl, widen_widens hw⟩

end Layout

/-- A layout has the instructions that it was made for, some of them widened. -/
theorem layout_widened {instructions : Array Instruction} {result : Layout}
    (h : layout instructions = .ok result) :
    Layout.Widened instructions result.instructions := by
  fun_induction layout instructions with
  | case1 => cases h
  | case2 => cases h
  | case3 instructions offsets total _ widened hp _ ih =>
    exact (Layout.pass_widened hp).trans (ih h)
  | case4 instructions =>
    cases h
    exact .refl _

end MethodTrace
