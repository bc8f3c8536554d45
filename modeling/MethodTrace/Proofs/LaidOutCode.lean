import MethodTrace.Proofs.FormedInstructions
import MethodTrace.Proofs.SliceReaders

/-!
Laid out code, and what is decoded from it.

The offsets of a layout leave every instruction its room, and the last pass has found every jump to
reach its target. The bytes of a layout are therefore cut where it has put them, and every offset
leads back to the label that it was made for.
-/

namespace MethodTrace

namespace Layout

/-- The offset of a label. -/
def offsetAt (offsets : Array Nat) (label : Label) : Nat :=
  offsets[label]?.getD 0

/-- Offsets that leave every instruction the room that it takes. -/
structure Spaced (instructions : Array Instruction) (offsets : Array Nat) : Prop where
  size : offsets.size = instructions.size + 1
  start : offsetAt offsets 0 = 0
  step : ∀ (label : Nat) insn, instructions[label]? = some insn →
    offsetAt offsets (label + 1) = offsetAt offsets label + insn.size (offsetAt offsets label)

variable {instructions : Array Instruction} {offsets : Array Nat} {insn : Instruction}

theorem toList_offsetsFrom (offset : Nat) (instructions : List Instruction) (before : Array Nat) :
    (offsetsFrom offset instructions before).toList = before.toList
      ++ instructions.scanl (fun offset insn => offset + insn.size offset) offset := by
  induction instructions generalizing offset before with
  | nil => simp [offsetsFrom]
  | cons insn instructions ih => simp [offsetsFrom, ih, List.scanl_cons]

theorem spaced_offsetsOf (instructions : Array Instruction) :
    Spaced instructions (offsetsOf instructions) := by
  have list : (offsetsOf instructions).toList = instructions.toList.scanl
      (fun offset insn => offset + insn.size offset) 0 := by
    rw [offsetsOf, toList_offsetsFrom]
    rfl
  have size : (offsetsOf instructions).size = instructions.size + 1 := by
    rw [← Array.length_toList, list, List.length_scanl, Array.length_toList]
  refine ⟨size, ?_, ?_⟩
  · rw [offsetAt, ← Array.getElem?_toList, list, List.getElem?_scanl_zero]
    rfl
  · intro label insn hi
    have hl : label < (offsetsOf instructions).size := by
      have := (Array.getElem?_eq_some_iff.mp hi).1
      omega
    rw [offsetAt, offsetAt, ← Array.getElem?_toList, ← Array.getElem?_toList, list,
      List.getElem?_succ_scanl, ← list, Array.getElem?_toList, Array.getElem?_toList, hi,
      Array.getElem?_eq_getElem hl]
    rfl

/-- The length of laid out instructions. -/
def total (instructions : Array Instruction) : Nat :=
  (offsetsOf instructions).back?.getD 0

theorem total_eq (instructions : Array Instruction) :
    total instructions = offsetAt (offsetsOf instructions) instructions.size := by
  rw [total, Array.back?_eq_getElem?, (spaced_offsetsOf instructions).size]
  rfl

theorem Spaced.lt_succ (h : Spaced instructions offsets) {label : Nat}
    (hl : label < instructions.size) : offsetAt offsets label < offsetAt offsets (label + 1) := by
  have step := h.step label _ (Array.getElem?_eq_getElem hl)
  have room := Instruction.one_le_size (offsetAt offsets label) instructions[label]
  omega

theorem Spaced.lt (h : Spaced instructions offsets) {label other : Nat} (hlt : label < other)
    (ho : other ≤ instructions.size) : offsetAt offsets label < offsetAt offsets other := by
  induction other with
  | zero => omega
  | succ other ih =>
    have next := h.lt_succ ho
    rcases Nat.lt_succ_iff_lt_or_eq.mp hlt with lt | rfl
    · exact (ih lt (by omega)).trans next
    · exact next

theorem Spaced.le (h : Spaced instructions offsets) {label other : Nat} (hle : label ≤ other)
    (ho : other ≤ instructions.size) : offsetAt offsets label ≤ offsetAt offsets other := by
  rcases Nat.eq_or_lt_of_le hle with rfl | lt
  · exact le_rfl
  · exact (h.lt lt ho).le

/-- A label is never behind its offset. -/
theorem Spaced.le_offsetAt (h : Spaced instructions offsets) {label : Nat}
    (hl : label ≤ instructions.size) : label ≤ offsetAt offsets label := by
  induction label with
  | zero => exact Nat.zero_le _
  | succ label ih => exact (ih (Nat.le_of_succ_le hl)).trans_lt (h.lt_succ hl)

theorem Spaced.search_offsetAt (h : Spaced instructions offsets) {label low high : Nat}
    (hl : low ≤ label) (hlt : label < high) (hh : high ≤ offsets.size) :
    Decoded.search offsets (offsetAt offsets label) low high = some label := by
  have size := h.size
  fun_induction Decoded.search offsets (offsetAt offsets label) low high with
  | case1 low high lt middle found eq =>
    have : offsetAt offsets middle = offsetAt offsets label := eq
    rcases Nat.lt_trichotomy middle label with less | same | more
    · have := h.lt less (by omega)
      omega
    · rw [same]
    · have := h.lt more (by omega)
      omega
  | case2 low high lt middle found ne less ih =>
    have less : offsetAt offsets middle < offsetAt offsets label := less
    refine ih ?_ hlt hh
    by_contra hn
    have := h.le (by omega : label ≤ middle) (by omega)
    omega
  | case3 low high lt middle found ne less ih =>
    have less : ¬offsetAt offsets middle < offsetAt offsets label := less
    refine ih hl ?_ (by omega)
    by_contra hn
    have hne : offsetAt offsets middle ≠ offsetAt offsets label := ne
    have := h.le (by omega : middle ≤ label) (by omega)
    omega
  | case4 low high lt => omega

/-- A label is found again at its offset. -/
theorem Spaced.labelAt_offsetAt {decoded : Decoded} (h : Spaced instructions decoded.offsets)
    {label : Nat} (hl : label ≤ instructions.size) :
    decoded.labelAt (offsetAt decoded.offsets label) = .ok label := by
  have size := h.size
  rw [Decoded.labelAt, h.search_offsetAt (Nat.zero_le label) (by omega) le_rfl]

section Passes

variable {widened : Instruction} {label : Label}

theorem widen_cases (h : widen offsets insn label = .ok widened) :
    (overflows offsets label insn = false ∧ widened = insn) ∨
      (isNarrow insn = true ∧ isNarrow widened = false) := by
  unfold widen at h
  split at h
  · next opcode target =>
    split at h
    · split at h
      · next wide hw =>
        cases h
        refine .inr ⟨by simp [isNarrow, hw], ?_⟩
        rcases Instruction.wideForm?_eq_some hw with ⟨_, rfl⟩ | ⟨_, rfl⟩ <;> rfl
      · cases h
    · next hn =>
      cases h
      exact .inl ⟨by simpa using hn, rfl⟩
  · next hb =>
    cases h
    refine .inl ⟨?_, rfl⟩
    cases insn with
    | branch opcode target => exact absurd rfl (hb opcode target)
    | _ => rfl

theorem countP_widened {pairs : List (Instruction × Label)} {widened : List Instruction}
    (h : List.Forall₂ (fun pair insn => widen offsets pair.1 pair.2 = .ok insn) pairs widened) :
    widened.countP isNarrow ≤ pairs.countP (isNarrow ·.1) ∧
      (pairs.countP (isNarrow ·.1) ≤ widened.countP isNarrow →
        ∀ pair ∈ pairs, overflows offsets pair.2 pair.1 = false) := by
  induction h with
  | nil => simp
  | @cons pair insn pairs widened hw _ ih =>
    obtain ⟨le, settled⟩ := ih
    rw [List.countP_cons, List.countP_cons]
    rcases widen_cases hw with ⟨fits, rfl⟩ | ⟨narrow, wide⟩
    · refine ⟨by omega, fun all other ho => ?_⟩
      rcases List.mem_cons.mp ho with rfl | ho
      · exact fits
      · exact settled (by omega) other ho
    · rw [if_pos narrow, wide]
      refine ⟨by simp; omega, fun all => ?_⟩
      simp at all
      omega

/-- A pass that leaves as many narrow jumps as before has found every jump to reach. -/
theorem pass_settled {widened : Array Instruction} (h : pass offsets instructions = .ok widened)
    (hc : ¬widened.countP isNarrow < instructions.countP isNarrow) :
    ∀ (label : Nat) insn, instructions[label]? = some insn →
      overflows offsets label insn = false := by
  obtain ⟨list, hl, hr⟩ := Except.bind_eq_ok_iff.mp h
  cases hr
  have count := countP_widened (Except.mapM_eq_ok_iff.mp hl)
  have same : instructions.toList.zipIdx.countP (isNarrow ·.1) = instructions.countP isNarrow := by
    rw [← Array.countP_toList]
    conv_rhs => rw [← List.zipIdx_map_fst 0 instructions.toList, List.countP_map]
    rfl
  intro label insn hi
  refine count.2 ?_ (insn, label) ?_
  · rw [same]
    simpa using hc
  · rw [List.mem_zipIdx_iff_getElem?, Array.getElem?_toList]
    exact hi

theorem widen_of_reaches (h : overflows offsets label insn = false) :
    widen offsets insn label = .ok insn := by
  unfold widen
  split
  · rw [if_neg (by simp [h])]
  · rfl

/-- A pass over jumps that all reach changes nothing. -/
theorem pass_of_reaches (h : ∀ (label : Nat) insn, instructions[label]? = some insn →
    overflows offsets label insn = false) : pass offsets instructions = .ok instructions := by
  refine Except.bind_eq_ok_iff.mpr ⟨instructions.toList, ?_, rfl⟩
  rw [Except.mapM_eq_ok_iff]
  have same : instructions.toList = instructions.toList.zipIdx.map Prod.fst :=
    (List.zipIdx_map_fst 0 _).symm
  conv_rhs => rw [same]
  rw [List.forall₂_map_right_iff, List.forall₂_same]
  rintro ⟨insn, label⟩ hi
  rw [List.mem_zipIdx_iff_getElem?, Array.getElem?_toList] at hi
  exact widen_of_reaches (h label insn hi)

end Passes

end Layout

open Layout

/-- What a layout keeps to. -/
structure Layout.Settled (layout : Layout) : Prop where
  spaced : Spaced layout.instructions layout.offsets
  short : offsetAt layout.offsets layout.instructions.size ≤ maxCodeLength
  reaches : ∀ (label : Nat) insn, layout.instructions[label]? = some insn →
    overflows layout.offsets label insn = false

theorem layout_settled {instructions : Array Instruction} {result : Layout}
    (h : layout instructions = .ok result) : result.Settled := by
  fun_induction layout instructions with
  | case1 => cases h
  | case2 => cases h
  | case3 instructions offsets total _ widened _ _ ih => exact ih h
  | case4 instructions offsets total ht widened hp hc =>
    cases h
    have last : total = offsetAt offsets instructions.size := total_eq instructions
    refine ⟨spaced_offsetsOf instructions, ?_, pass_settled hp hc⟩
    change offsetAt offsets instructions.size ≤ maxCodeLength
    omega

end MethodTrace
