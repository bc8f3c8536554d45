import MethodTrace.ClassFile.Reader
import MethodTrace.Proofs.Runs

/-!
What readers take from the front of a slice, and that they find there what the writers have put.
-/

namespace MethodTrace

namespace Bytes

theorem limit_pos (width : Nat) : 0 < limit width := by
  induction width with
  | zero => exact Nat.one_pos
  | succ width ih => exact Nat.mul_pos (by decide) ih

theorem ofBigEndian_lt (bytes : Bytes) : ofBigEndian bytes < limit bytes.length := by
  have same := ofBigEndian_bigEndian bytes.length (ofBigEndian bytes)
  rw [bigEndian_ofBigEndian] at same
  rw [same]
  exact Nat.mod_lt _ (limit_pos _)

theorem bigEndian_inj_iff {width n m : Nat} :
    bigEndian width n = bigEndian width m ↔ n % limit width = m % limit width := by
  constructor
  · intro h
    rw [← ofBigEndian_bigEndian, h, ofBigEndian_bigEndian]
  · intro h
    have whole (k : Nat) := bigEndian_ofBigEndian (bigEndian width k)
    simp only [length_bigEndian, ofBigEndian_bigEndian] at whole
    rw [← whole n, h, whole m]

theorem ofInt_natCast (width n : Nat) : ofInt width n = bigEndian width n := by
  have same : ((n : Int) % (limit width : Nat)).toNat = n % limit width := by
    rw [← Int.natCast_mod, Int.toNat_natCast]
  rw [ofInt, same, bigEndian_inj_iff, Nat.mod_mod]

end Bytes

namespace Reader

variable {α β : Type} {reader : Reader α} {bytes more : Bytes} {value : α}

/-- A reader that takes some bytes from the front of any slice, and what it makes of them. -/
structure Takes (reader : Reader α) (bytes : Bytes) (value : α) : Prop where
  onPart : ∀ extent rest, reader.onPart extent (bytes ++ rest) = .ok (value, rest)

theorem Takes.bind {next : α → Reader β} {result : β} (h : reader.Takes bytes value)
    (hn : (next value).Takes more result) : (reader >>= next).Takes (bytes ++ more) result := by
  refine ⟨fun extent rest => ?_⟩
  rw [List.append_assoc]
  exact Except.bind_eq_ok_iff.mpr ⟨_, h.onPart extent (more ++ rest), hn.onPart extent rest⟩

theorem Takes.pure (value : α) : (Pure.pure value : Reader α).Takes [] value :=
  ⟨fun _ _ => rfl⟩

theorem Takes.bind_pure {f : α → β} (h : reader.Takes bytes value) :
    (reader >>= fun value => Pure.pure (f value)).Takes bytes (f value) := by
  rw [← List.append_nil bytes]
  exact h.bind (Takes.pure (f value))

theorem Takes.congr {other : Bytes} (h : reader.Takes bytes value) (he : other = bytes) :
    reader.Takes other value :=
  he ▸ h

theorem Takes.onSlice (h : reader.Takes bytes value) : reader.onSlice bytes = .ok (value, []) := by
  have whole := h.onPart bytes.length []
  rwa [List.append_nil] at whole

theorem takes_take {count : Nat} (h : bytes.length = count) : (take count).Takes bytes bytes := by
  refine ⟨fun extent rest => ?_⟩
  subst h
  change (do
    let taken := (bytes ++ rest).take bytes.length
    if taken.length < bytes.length then throw (.truncated (← read))
    set ((bytes ++ rest).drop bytes.length)
    return taken : Reader Bytes).onPart extent (bytes ++ rest) = _
  simp only [List.take_left, List.drop_left, Nat.lt_irrefl, if_false]
  rfl

theorem takes_number (width n : Nat) :
    (number width).Takes (Bytes.bigEndian width n) (n % Bytes.limit width) := by
  have read := (takes_take (Bytes.length_bigEndian width n)).bind_pure (f := Bytes.ofBigEndian)
  rwa [Bytes.ofBigEndian_bigEndian] at read

theorem takes_u8 (value : UInt8) : u8.Takes (Bytes.ofUInt8 value) value := by
  have read := (takes_number 1 value.toNat).bind_pure (f := UInt8.ofNat)
  have whole : UInt8.ofNat (value.toNat % Bytes.limit 1) = value := by
    rw [Nat.mod_eq_of_lt (show value.toNat < Bytes.limit 1 from value.toNat_lt), UInt8.ofNat_toNat]
  rwa [whole] at read

theorem takes_u16 (value : UInt16) : u16.Takes (Bytes.ofUInt16 value) value := by
  have read := (takes_number 2 value.toNat).bind_pure (f := UInt16.ofNat)
  have whole : UInt16.ofNat (value.toNat % Bytes.limit 2) = value := by
    rw [Nat.mod_eq_of_lt (show value.toNat < Bytes.limit 2 from value.toNat_lt), UInt16.ofNat_toNat]
  rwa [whole] at read

theorem takes_u32 (value : UInt32) : u32.Takes (Bytes.ofUInt32 value) value := by
  have read := (takes_number 4 value.toNat).bind_pure (f := UInt32.ofNat)
  have whole : UInt32.ofNat (value.toNat % Bytes.limit 4) = value := by
    rw [Nat.mod_eq_of_lt (show value.toNat < Bytes.limit 4 from value.toNat_lt), UInt32.ofNat_toNat]
  rwa [whole] at read

/-- The lowest bytes of an integer are read back as the word that they fill. -/
theorem takes_i32 (value : Int) : i32.Takes (Bytes.ofInt 4 value) (Int32.ofInt value) := by
  have read := ((takes_number 4 _).bind_pure (f := UInt32.ofNat)).bind_pure
    (f := UInt32.toInt32) |>.congr (rfl : Bytes.ofInt 4 value = _)
  have whole : (UInt32.ofNat ((value % (Bytes.limit 4 : Nat)).toNat % Bytes.limit 4)).toInt32
      = Int32.ofInt value := by
    apply Int32.toBitVec_inj.mp
    apply BitVec.eq_of_toNat_eq
    change (BitVec.ofNat 32 ((value % (4294967296 : Nat)).toNat % 4294967296)).toNat
      = (BitVec.ofInt 32 value).toNat
    rw [BitVec.toNat_ofNat, BitVec.toNat_ofInt]
    omega
  rwa [whole] at read

theorem takes_times {items : List β} {write : β → Bytes} {f : β → α}
    (h : ∀ item ∈ items, reader.Takes (write item) (f item)) :
    (times items.length reader).Takes (items.flatMap write) (items.map f) := by
  unfold times
  induction items with
  | nil => exact .pure []
  | cons item items ih =>
    rw [List.length_cons, List.replicate_succ, List.mapM_cons, List.flatMap_cons, List.map_cons]
    have rest := (ih fun other ho => h other (List.mem_cons_of_mem _ ho)).bind_pure
      (f := (f item :: ·))
    exact (h item List.mem_cons_self).bind rest

/-- A list that is not too long for its length is read back. -/
theorem takes_counted {items : List α} {write : α → Bytes} (hn : items.length < 65536)
    (h : ∀ item ∈ items, reader.Takes (write item) item) :
    (counted reader).Takes (Bytes.counted write items) items := by
  have length := (takes_number 2 items.length).bind_pure (f := UInt16.ofNat)
  have whole : (UInt16.ofNat (items.length % Bytes.limit 2)).toNat = items.length := by
    change (UInt16.ofNat (items.length % 65536)).toNat = items.length
    rw [UInt16.toNat_ofNat', Nat.mod_mod, Nat.mod_eq_of_lt hn]
  have all : (times (UInt16.ofNat (items.length % Bytes.limit 2)).toNat reader).Takes
      (items.flatMap write) items := by
    have read := takes_times (f := id) h
    rwa [List.map_id, ← whole] at read
  exact length.bind all

end Reader

end MethodTrace
