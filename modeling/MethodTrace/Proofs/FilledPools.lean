import MethodTrace.Proofs.RepresentableClasses
import MethodTrace.Proofs.SpelledSlices

/-!
How a constant pool is filled while it is read.

The loop over a pool counts slots in a word of two bytes and looks at it once for each constant, but a
wide constant moves it by two. As long as no such constant is read into the last slot that was counted,
the word is the number of slots and the loop stops at the count. Otherwise it stops one slot behind the
count, or, where no word is behind it, begins again at zero.
-/

namespace MethodTrace

/-- A reader that has taken something is followed by the next one on what it has left. -/
theorem Reader.onPart_bind_of_ok {α β : Type} {reader : Reader α} {next : α → Reader β} {value : α}
    {extent : Nat} {slice left : Bytes} (h : reader.onPart extent slice = .ok (value, left)) :
    (reader >>= next).onPart extent slice = (next value).onPart extent left := by
  change (reader.onPart extent slice >>= fun taken => (next taken.1).onPart extent taken.2) = _
  rw [h]
  rfl

namespace ConstantPool

/-- How far a pool has been read: the counter of slots, the slots and the bytes that are left. -/
structure Filling where
  index : UInt16
  slots : Array Constant
  rest : Bytes

/-- The fillings that the loop over a pool passes, with the number of constants read so far. -/
inductive Passes (extent : Nat) (count : UInt16) (input : Bytes) : Nat → Filling → Prop
  | start : Passes extent count input 0 ⟨1, #[.unusable], input⟩
  | next {taken : Nat} {filling : Filling} {constant : Constant} {left : Bytes}
      (h : Passes extent count input taken filling) (more : filling.index < count)
      (found : (Constant.read filling.index).onPart extent filling.rest = .ok (constant, left)) :
      Passes extent count input (taken + 1)
        ⟨if constant.isWide then filling.index + 2 else filling.index + 1,
          filling.slots ++ constant.slots, left⟩

/-- The constant that is read into the last slot of the count is wide. -/
def EndsWide (extent : Nat) (count : UInt16) (input : Bytes) : Prop :=
  ∃ taken filling constant left, Passes extent count input taken filling ∧
    filling.slots.size + 1 = count.toNat ∧
    (Constant.read filling.index).onPart extent filling.rest = .ok (constant, left) ∧
    constant.isWide = true

variable {extent taken fuel : Nat} {count : UInt16} {input left : Bytes} {filling : Filling}
  {slots : Array Constant} {constant : Constant}

theorem size_append_slots (slots : Array Constant) (constant : Constant) :
    (slots ++ constant.slots).size
      = if constant.isWide then slots.size + 2 else slots.size + 1 := by
  unfold Constant.slots
  split <;> simp

namespace Passes

theorem length_rest_le (h : Passes extent count input taken filling) (hx : input.length ≤ extent) :
    filling.rest.length + taken ≤ input.length := by
  induction h with
  | start => exact le_rfl
  | next h more found ih =>
    obtain ⟨_, list, rfl, used⟩ := (Constant.spells_read _).of_ok (by omega) found
    have written := Constant.length_write_pos used
    rw [list, List.length_append] at ih
    dsimp only
    omega

/-- The counter is the number of slots, as far as a word can tell. -/
theorem index_eq (h : Passes extent count input taken filling) :
    filling.index = UInt16.ofNat filling.slots.size := by
  induction h with
  | start => rfl
  | next h more found ih =>
    dsimp only
    rw [size_append_slots, ih]
    split <;> rw [UInt16.ofNat_add] <;> rfl

theorem lt_size (h : Passes extent count input taken filling) : taken < filling.slots.size := by
  induction h with
  | start => exact Nat.one_pos
  | next h more found ih =>
    dsimp only
    rw [size_append_slots]
    split <;> omega

theorem toNat_index (h : Passes extent count input taken filling)
    (small : filling.slots.size < 65536) : filling.index.toNat = filling.slots.size := by
  rw [h.index_eq]
  exact UInt16.toNat_ofNat_of_lt' small

/-- No slot is filled behind the count unless a wide constant is read into the last one. -/
theorem size_le (h : Passes extent count input taken filling)
    (narrow : ¬EndsWide extent count input) : filling.slots.size ≤ max 1 count.toNat := by
  have fits := count.toNat_lt
  induction h with
  | start => exact le_max_left _ _
  | @next taken filling constant left h more found ih =>
    have counted := h.toNat_index (by omega)
    rw [UInt16.lt_iff_toNat_lt, counted] at more
    dsimp only
    rw [size_append_slots]
    split
    · next wide =>
      have last : filling.slots.size + 1 ≠ count.toNat := fun last =>
        narrow ⟨taken, filling, constant, left, h, last, found, wide⟩
      omega
    · omega

/-- The loop from its beginning does what it does from any filling that it passes. -/
theorem readSlots_eq (h : Passes extent count input taken filling) (fuel : Nat) :
    (readSlots count (taken + fuel) 1 #[.unusable]).onPart extent input
      = (readSlots count fuel filling.index filling.slots).onPart extent filling.rest := by
  induction h generalizing fuel with
  | start => rw [Nat.zero_add]
  | @next taken filling constant left h more found ih =>
    rw [Nat.add_assoc, Nat.add_comm 1 fuel, ih (fuel + 1), readSlots, if_pos more]
    exact Reader.onPart_bind_of_ok found

/-- A loop that comes to an end passes the filling that it ends with. -/
theorem exists_last (h : Passes extent count input taken filling) (hx : input.length ≤ extent)
    (hf : filling.rest.length < fuel) (hr : (readSlots count fuel filling.index
      filling.slots).onPart extent filling.rest = .ok (slots, left)) :
    ∃ last index, Passes extent count input last ⟨index, slots, left⟩ ∧ ¬index < count := by
  induction fuel generalizing taken filling with
  | zero => omega
  | succ fuel ih =>
    rw [readSlots] at hr
    split at hr
    · next more =>
      obtain ⟨constant, others, found, hr⟩ := Reader.bind_onPart_iff.mp hr
      have room := h.length_rest_le hx
      obtain ⟨_, list, rfl, used⟩ := (Constant.spells_read _).of_ok (by omega) found
      have written := Constant.length_write_pos used
      rw [list, List.length_append] at hf
      exact ih (h.next more found) (by dsimp only; omega) hr
    · next done =>
      obtain ⟨rfl, rfl⟩ := Prod.mk.inj (Except.pure_eq_ok_iff.mp hr)
      exact ⟨taken, filling.index, h, done⟩

end Passes

/-- A pool is what has been filled when the counter is no longer below the count. -/
theorem read_eq_ok_iff {pool : ConstantPool} (hx : (Bytes.ofUInt16 count ++ input).length ≤ extent) :
    read.onPart extent (Bytes.ofUInt16 count ++ input) = .ok (pool, left) ↔
      ∃ taken index, Passes extent count input taken ⟨index, pool.slots, left⟩ ∧
        ¬index < count := by
  have room : input.length ≤ extent := by
    rw [List.length_append] at hx
    omega
  have loop : read.onPart extent (Bytes.ofUInt16 count ++ input)
      = (readSlots count (extent + 1) 1 #[.unusable] >>= fun slots =>
          pure (ConstantPool.mk slots)).onPart extent input :=
    (Reader.takes_u16 count).onPart_bind rfl
  rw [loop, Reader.bind_onPart_iff]
  constructor
  · rintro ⟨slots, rest, hr, hp⟩
    obtain ⟨rfl, rfl⟩ := Prod.mk.inj (Except.pure_eq_ok_iff.mp hp)
    exact (@Passes.start extent count input).exists_last room (Nat.lt_succ_of_le room) hr
  · rintro ⟨taken, index, h, done⟩
    refine ⟨pool.slots, left, ?_, rfl⟩
    have within := h.length_rest_le room
    obtain ⟨spare, hs⟩ := Nat.exists_eq_add_of_le (show taken + 1 ≤ extent + 1 by omega)
    rw [hs, Nat.add_assoc, h.readSlots_eq, Nat.add_comm 1 spare, readSlots, if_neg done]
    rfl

theorem EndsWide.positive (h : EndsWide extent count input) : 1 ≤ count.toNat := by
  obtain ⟨_, _, _, _, _, last, _⟩ := h
  omega

end ConstantPool

end MethodTrace
