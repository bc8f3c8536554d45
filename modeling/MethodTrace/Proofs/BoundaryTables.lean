import MethodTrace.Code.DebugTable
import MethodTrace.Proofs.ClassRoundTrip
import MethodTrace.Proofs.CodeRoundTrip
import MethodTrace.Trace.Method

/-!
Instruction boundaries, and the tables that name them.

An offset leads to a label only where an instruction begins or the code ends. The rows of a table
whose labels lie in laid out code are written as offsets that lead back to these labels.
-/

namespace MethodTrace

open Layout

theorem Reader.Yields.lift {α : Type} {P : α → Prop} {e : Except ClassFileError α}
    (h : ∀ value, e = .ok value → P value) : (liftM e : Reader α).Yields P := by
  refine ⟨fun {extent slice value rest} hr => h value ?_⟩
  cases e with
  | error => cases hr
  | ok found =>
    cases hr
    rfl

namespace Decoded

variable {code : Decoded} {offset : Nat} {label : Label}

theorem search_eq_some {values : Array Nat} {value low high found : Nat}
    (h : search values value low high = some found) : offsetAt values found = value := by
  fun_induction search values value low high with
  | case1 low high hlt middle _ heq =>
    rw [← Option.some.inj h]
    exact heq
  | case2 low high hlt middle _ _ _ ih => exact ih h
  | case3 low high hlt middle _ _ _ ih => exact ih h
  | case4 => cases h

/-- The label of an offset stands at this offset. -/
theorem offsetAt_of_labelAt (h : code.labelAt offset = .ok label) :
    offsetAt code.offsets label = offset := by
  unfold labelAt at h
  split at h
  · next found hs =>
    cases h
    exact search_eq_some hs
  · cases h

/-- Code whose offsets are in ascending order, with one behind every instruction. -/
structure Ascending (code : Decoded) : Prop where
  size : code.offsets.size = code.instructions.size + 1
  lt : ∀ label other : Nat, label < other → other ≤ code.instructions.size →
    offsetAt code.offsets label < offsetAt code.offsets other

theorem Ascending.lt_iff (h : code.Ascending) {other : Label} (hl : label ≤ code.instructions.size)
    (ho : other ≤ code.instructions.size) :
    label < other ↔ offsetAt code.offsets label < offsetAt code.offsets other := by
  refine ⟨fun lt => h.lt label other lt ho, fun lt => ?_⟩
  rcases Nat.lt_trichotomy label other with before | rfl | behind
  · exact before
  · exact absurd lt (Nat.lt_irrefl _)
  · have := h.lt other label behind hl
    omega

theorem Ascending.labelAt_le_size (h : code.Ascending) (hl : code.labelAt offset = .ok label) :
    label ≤ code.instructions.size := by
  have inside : label < code.offsets.size := Decoded.labelAt_lt hl
  rw [h.size] at inside
  exact Nat.lt_succ_iff.mp inside

theorem Ascending.labelAt_le (h : code.Ascending) {other : Nat} {behind : Label}
    (hl : code.labelAt offset = .ok label) (ho : code.labelAt other = .ok behind)
    (hle : offset ≤ other) : label ≤ behind := by
  by_contra hn
  have lt := h.lt behind label (Nat.lt_of_not_le hn) (h.labelAt_le_size hl)
  rw [offsetAt_of_labelAt hl, offsetAt_of_labelAt ho] at lt
  omega

theorem Ascending.labelAt_lt (h : code.Ascending) {other : Nat} {behind : Label}
    (hl : code.labelAt offset = .ok label) (ho : code.labelAt other = .ok behind)
    (hlt : offset < other) : label < behind := by
  rcases Nat.lt_or_eq_of_le (h.labelAt_le hl ho hlt.le) with lt | rfl
  · exact lt
  · have := offsetAt_of_labelAt hl
    rw [offsetAt_of_labelAt ho] at this
    omega

theorem cut_ascending {total : Nat} {bytes : Bytes} {before decoded : Decoded}
    (h : cut total offset bytes before = .ok decoded) (ht : offset ≤ total)
    (hb : before.offsets.toList.Pairwise (· < ·)) (hlt : ∀ former ∈ before.offsets, former < offset) :
    decoded.offsets.toList.Pairwise (· < ·) := by
  have push {value : Nat} {former : Array Nat} (hp : former.toList.Pairwise (· < ·))
      (hv : ∀ other ∈ former, other < value) : (former.push value).toList.Pairwise (· < ·) := by
    rw [Array.toList_push, List.pairwise_append]
    refine ⟨hp, List.pairwise_singleton _ _, fun other ho last hl => ?_⟩
    rw [List.mem_singleton.mp hl]
    exact hv other (Array.mem_toList_iff.mp ho)
  induction offset, bytes, before using cut.induct with
  | case1 offset before =>
    rw [cut] at h
    cases h
    exact push hb fun former hf => (hlt former hf).trans_le ht
  | case2 offset before opcode rest ih =>
    obtain ⟨insn, left, _, room, h⟩ := cut_cons_eq_ok_iff.mp h
    refine ih insn h room (push hb hlt) fun former hf => ?_
    have wide := Instruction.one_le_size offset insn
    rcases Array.mem_push.mp hf with hf | rfl
    · have := hlt former hf
      omega
    · omega

theorem ofCode_ascending {bytes : Bytes} (h : ofCode bytes = .ok code) : code.Ascending := by
  have size := ofCode_offsets_size h
  refine ⟨size, fun label other hlt ho => ?_⟩
  obtain ⟨raw, hraw, offsets, _⟩ := ofCode_eq_ok_iff.mp h
  have sorted := cut_ascending hraw (Nat.zero_le _) .nil (by simp)
  rw [← offsets] at sorted
  have inside : other < code.offsets.size := by omega
  have pair := List.pairwise_iff_getElem.mp sorted label other
    (by rw [Array.length_toList]; omega) (by rw [Array.length_toList]; omega) hlt
  rw [offsetAt, offsetAt, Array.getElem?_eq_getElem (hlt.trans inside),
    Array.getElem?_eq_getElem inside]
  simpa using pair

end Decoded

open Decoded

/-- Laid out code, whose offsets can all be written in two bytes. -/
structure Decoded.Regular (code : Decoded) : Prop where
  spaced : Spaced code.instructions code.offsets
  short : offsetAt code.offsets code.instructions.size ≤ maxCodeLength

namespace Decoded.Regular

variable {code : Decoded} {label : Label} (h : code.Regular)
include h

theorem offset_lt (hl : label ≤ code.instructions.size) :
    offsetAt code.offsets label < UInt16.size := by
  have inside := h.spaced.le hl le_rfl
  have short := h.short
  change _ < 65536
  unfold maxCodeLength at short
  omega

theorem labelAt (hl : label ≤ code.instructions.size) :
    code.labelAt (offsetAt code.offsets label) = .ok label :=
  h.spaced.labelAt_offsetAt hl

theorem ascending : code.Ascending :=
  ⟨h.spaced.size, fun _ _ => h.spaced.lt⟩

/-- No label stands at an offset that cannot be written. -/
theorem labelAt_of_size_le {offset : Nat} (ho : UInt16.size ≤ offset) :
    code.labelAt offset = .error (.code (.notBoundary offset)) := by
  cases hl : code.labelAt offset with
  | ok label =>
    have small := h.offset_lt (h.ascending.labelAt_le_size hl)
    rw [offsetAt_of_labelAt hl] at small
    omega
  | error e =>
    unfold Decoded.labelAt at hl
    split at hl
    · cases hl
    · exact hl.symm

theorem offsetWord_toNat (hl : label ≤ code.instructions.size) :
    (offsetWord code.offsets label).toNat = offsetAt code.offsets label :=
  UInt16.toNat_ofNat_of_lt' (h.offset_lt hl)

theorem labelAt_offsetWord (hl : label ≤ code.instructions.size) :
    code.labelAt (offsetWord code.offsets label).toNat = .ok label := by
  rw [h.offsetWord_toNat hl, h.labelAt hl]

end Decoded.Regular

/-- Handlers whose labels lie in laid out code are found again in their exception table. -/
theorem Decoded.Regular.handlers {code : Decoded} (h : code.Regular) {handlers : List Handler}
    (hh : ∀ handler ∈ handlers, handler.start ≤ code.instructions.size ∧
      handler.stop ≤ code.instructions.size ∧ handler.handler ≤ code.instructions.size) :
    code.handlers (handlers.map (TracedBody.exceptionRow code.offsets)) = .ok handlers := by
  unfold Decoded.handlers
  rw [Except.mapM_eq_ok_iff, List.forall₂_map_left_iff, List.forall₂_same]
  intro handler hm
  obtain ⟨start, stop, place⟩ := hh handler hm
  refine Except.bind_eq_ok_iff.mpr ⟨_, h.labelAt_offsetWord start, ?_⟩
  refine Except.bind_eq_ok_iff.mpr ⟨_, h.labelAt_offsetWord stop, ?_⟩
  exact Except.bind_eq_ok_iff.mpr ⟨_, h.labelAt_offsetWord place, rfl⟩

namespace LineRow

variable {code : Decoded}

/-- A row whose label lies in code of so many instructions. -/
def Within (size : Nat) (row : LineRow) : Prop :=
  row.label ≤ size

theorem takes_read (h : code.Regular) {row : LineRow} (hw : row.Within code.instructions.size) :
    (read code).Takes (row.write code.offsets) row :=
  (Reader.takes_u16 _).bind
    ((Reader.takes_lift (h.labelAt_offsetWord hw)).bind (Reader.takes_u16 _).bind_pure)

theorem read_yields (h : code.Ascending) :
    (read code).Yields (Within code.instructions.size) := by
  refine .bind fun offset => .bind_of (.lift fun label => h.labelAt_le_size) fun label hl => ?_
  exact .bind fun line => .pure hl

end LineRow

namespace VariableRow

variable {code : Decoded}

/-- A row whose range lies in code of so many instructions. -/
structure Within (size : Nat) (row : VariableRow) : Prop where
  start_le : row.start ≤ row.stop
  stop_le : row.stop ≤ size

theorem takes_read (h : code.Regular) {row : VariableRow} (hw : row.Within code.instructions.size) :
    (read code).Takes (row.write code.offsets) row := by
  have start : row.start ≤ code.instructions.size := Nat.le_trans hw.start_le hw.stop_le
  have stop : code.labelAt ((offsetWord code.offsets row.start).toNat
      + (offsetWord code.offsets row.stop - offsetWord code.offsets row.start).toNat)
      = .ok row.stop := by
    have order := h.spaced.le hw.start_le hw.stop_le
    have le : offsetWord code.offsets row.start ≤ offsetWord code.offsets row.stop := by
      rwa [UInt16.le_iff_toNat_le, h.offsetWord_toNat start, h.offsetWord_toNat hw.stop_le]
    rw [UInt16.toNat_sub_of_le _ _ le, h.offsetWord_toNat start, h.offsetWord_toNat hw.stop_le,
      Nat.add_sub_cancel' order, h.labelAt hw.stop_le]
  unfold read write
  simp only [List.append_assoc]
  refine (Reader.takes_u16 _).bind ((Reader.takes_u16 _).bind ?_)
  refine (Reader.takes_lift (h.labelAt_offsetWord start)).bind ((Reader.takes_lift stop).bind ?_)
  exact (Reader.takes_u16 _).bind ((Reader.takes_u16 _).bind (Reader.takes_u16 _).bind_pure)

theorem read_yields (h : code.Ascending) :
    (read code).Yields (Within code.instructions.size) := by
  refine .bind fun offset => .bind fun length => ?_
  refine .bind_of (.lift (P := fun start => code.labelAt offset.toNat = .ok start) fun _ => id)
    fun start hstart => ?_
  refine .bind_of (.lift (P := fun stop => start ≤ stop ∧ stop ≤ code.instructions.size) ?_)
    fun stop hstop => ?_
  · intro stop h'
    exact ⟨h.labelAt_le hstart h' (Nat.le_add_right _ _), h.labelAt_le_size h'⟩
  · exact .bind fun _ => .bind fun _ => .bind fun _ => .pure ⟨hstop.1, hstop.2⟩

end VariableRow

end MethodTrace
