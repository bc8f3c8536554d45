import Mathlib.Tactic.SplitIfs
import MethodTrace.Bytes

/-!
The bytes of texts in UTF-8.
-/

namespace MethodTrace.Bytes

theorem toList_byteArray (bytes : ByteArray) : bytes.toList = bytes.data.toList := by
  have loop : ∀ (count i : Nat) (found : List UInt8), bytes.size - i = count →
      ByteArray.toList.loop bytes i found = found.reverse ++ bytes.data.toList.drop i := by
    intro count
    induction count with
    | zero =>
      intro i found h
      rw [ByteArray.toList.loop, if_neg (by omega), List.drop_eq_nil_of_le, List.append_nil]
      simpa using (by omega : bytes.size ≤ i)
    | succ count ih =>
      intro i found h
      have hi : i < bytes.size := by omega
      have hl : i < bytes.data.toList.length := by simpa using hi
      have hget : bytes.get! i = bytes.data.toList[i] := by
        simp [ByteArray.get!, hi]
      rw [ByteArray.toList.loop, if_pos hi, ih _ _ (by omega), List.drop_eq_getElem_cons hl, hget]
      simp
  simpa [ByteArray.toList] using loop _ 0 [] rfl

/-- A text is spelled character by character. -/
theorem ofString_eq_flatMap (text : String) :
    ofString text = text.toList.flatMap String.utf8EncodeChar := by
  rw [ofString, String.toUTF8_eq_toByteArray, toList_byteArray, ← String.utf8Encode_toList,
    List.utf8Encode, List.toList_data_toByteArray]

theorem toString?_ofString (text : String) : toString? (ofString text) = some text := by
  have bytes : (ofString text).toByteArray = text.toUTF8 := by
    rw [ofString, toList_byteArray]
    apply ByteArray.ext
    rw [List.data_toByteArray, Array.toArray_toList]
  rw [toString?, bytes, String.fromUTF8?, String.toUTF8_eq_toByteArray, dif_pos text.isValidUTF8]
  rfl

/-- No character takes more than four bytes. -/
theorem length_ofString_le (text : String) : (ofString text).length ≤ 4 * text.toList.length := by
  rw [ofString_eq_flatMap]
  induction text.toList with
  | nil => simp
  | cons c chars ih =>
    have := c.utf8Size_le_four
    rw [List.flatMap_cons, List.length_append, String.length_utf8EncodeChar, List.length_cons]
    omega

/-- The bytes below 128 stand for the characters with these numbers. -/
theorem exists_char_of_mem_ofString {text : String} {byte : UInt8} (h : byte ∈ ofString text)
    (hb : byte.toNat < 128) : ∃ c ∈ text.toList, c.toNat = byte.toNat := by
  rw [ofString_eq_flatMap] at h
  obtain ⟨c, hc, h⟩ := List.mem_flatMap.mp h
  refine ⟨c, hc, ?_⟩
  have high (x y : UInt8) (hy : 128 ≤ y.toNat) : ¬(x ||| y).toNat < 128 := by
    have := @Nat.right_le_or x.toNat y.toNat
    rw [UInt8.toNat_or]
    omega
  rcases c.utf8Size_eq with h1 | h2 | h3 | h4
  · rw [String.utf8EncodeChar_eq_singleton h1, List.mem_singleton] at h
    have low : c.toNat ≤ 127 := Char.utf8Size_eq_one_iff.mp h1
    rw [h, UInt32.toNat_toUInt8]
    change c.toNat = c.toNat % 256
    omega
  · rw [String.utf8EncodeChar_eq_cons_cons h2] at h
    simp only [List.mem_cons, List.not_mem_nil, or_false] at h
    rcases h with rfl | rfl
    · exact absurd hb (high _ _ (by decide))
    · exact absurd hb (high _ _ (by decide))
  · rw [String.utf8EncodeChar_eq_cons_cons_cons h3] at h
    simp only [List.mem_cons, List.not_mem_nil, or_false] at h
    rcases h with rfl | rfl | rfl
    · exact absurd hb (high _ _ (by decide))
    · exact absurd hb (high _ _ (by decide))
    · exact absurd hb (high _ _ (by decide))
  · rw [String.utf8EncodeChar_eq_cons_cons_cons_cons h4] at h
    simp only [List.mem_cons, List.not_mem_nil, or_false] at h
    rcases h with rfl | rfl | rfl | rfl
    · exact absurd hb (high _ _ (by decide))
    · exact absurd hb (high _ _ (by decide))
    · exact absurd hb (high _ _ (by decide))
    · exact absurd hb (high _ _ (by decide))

end MethodTrace.Bytes
