import MethodTrace.ClassFile.ModifiedUtf8

/-!
Modified UTF-8 is read back as the text that was written, whichever of its two readings applies.
-/

namespace MethodTrace.ModifiedUtf8

variable {unit : Nat} {c : Char} {rest : Bytes}

theorem units_ascii (h : unit < 0x80) : units (UInt8.ofNat unit :: rest) = unit :: units rest := by
  have hn : (UInt8.ofNat unit).toNat = unit := by
    rw [UInt8.toNat_ofNat']
    omega
  have hlt : UInt8.ofNat unit < 0x80 := by
    rw [UInt8.lt_iff_toNat_lt, hn]
    exact h
  rw [units.eq_def]
  dsimp only
  rw [if_pos hlt, hn]

theorem two_byte_mask : ∀ high < 32, UInt8.ofNat (high + 0xc0) &&& 0xe0 = 0xc0 ∧
    ¬ UInt8.ofNat (high + 0xc0) < 0x80 := by
  decide

theorem units_two (rest : Bytes) {high low : Nat} (hh : high < 32) (hl : low < 64) :
    units (UInt8.ofNat (high + 0xc0) :: UInt8.ofNat (low + 0x80) :: rest) =
      (high * 64 + low) :: units rest := by
  obtain ⟨hmask, hlt⟩ := two_byte_mask high hh
  have hhigh : (UInt8.ofNat (high + 0xc0)).toNat % 32 = high := by
    rw [UInt8.toNat_ofNat']
    omega
  have hlow : (UInt8.ofNat (low + 0x80)).toNat % 64 = low := by
    rw [UInt8.toNat_ofNat']
    omega
  rw [units.eq_def]
  dsimp only
  rw [if_neg hlt, if_pos hmask, hhigh, hlow]

theorem three_byte_mask : ∀ high < 16, UInt8.ofNat (high + 0xe0) &&& 0xf0 = 0xe0 ∧
    UInt8.ofNat (high + 0xe0) &&& 0xe0 ≠ 0xc0 ∧ ¬ UInt8.ofNat (high + 0xe0) < 0x80 := by
  decide

theorem units_three (rest : Bytes) {high middle low : Nat} (hh : high < 16) (hm : middle < 64)
    (hl : low < 64) :
    units (UInt8.ofNat (high + 0xe0) :: UInt8.ofNat (middle + 0x80) :: UInt8.ofNat (low + 0x80)
      :: rest) = (high * 4096 + middle * 64 + low) :: units rest := by
  obtain ⟨hmask, htwo, hlt⟩ := three_byte_mask high hh
  have hhigh : (UInt8.ofNat (high + 0xe0)).toNat % 16 = high := by
    rw [UInt8.toNat_ofNat']
    omega
  have hmiddle : (UInt8.ofNat (middle + 0x80)).toNat % 64 = middle := by
    rw [UInt8.toNat_ofNat']
    omega
  have hlow : (UInt8.ofNat (low + 0x80)).toNat % 64 = low := by
    rw [UInt8.toNat_ofNat']
    omega
  rw [units.eq_def]
  dsimp only
  rw [if_neg hlt, if_neg htwo, if_pos hmask, hhigh, hmiddle, hlow]

theorem units_unitBytes (h : unit < 0x10000) :
    units (unitBytes unit ++ rest) = unit :: units rest := by
  have hu := units_three rest (by omega : unit / 4096 < 16)
    (by omega : unit / 64 % 64 < 64) (by omega : unit % 64 < 64)
  have hsum : unit / 4096 * 4096 + unit / 64 % 64 * 64 + unit % 64 = unit := by omega
  rw [hsum] at hu
  simpa [unitBytes, Nat.add_comm] using hu

/-- A character of the basic plane is one unit. -/
theorem units_utf8EncodeChar (h : c.toNat < 0x10000) :
    units (String.utf8EncodeChar c ++ rest) = c.toNat :: units rest := by
  unfold String.utf8EncodeChar
  change c.val.toNat < 0x10000 at h
  change _ = c.val.toNat :: _
  dsimp only
  generalize c.val.toNat = v at h ⊢
  split
  · exact units_ascii (by omega)
  · split
    · have hu := units_two rest (by omega : v / 64 % 32 < 32) (by omega : v % 64 < 64)
      have hsum : v / 64 % 32 * 64 + v % 64 = v := by omega
      rwa [hsum] at hu
    · rw [if_pos (by omega)]
      have hu := units_three rest (by omega : v / 4096 % 16 < 16)
        (by omega : v / 64 % 64 < 64) (by omega : v % 64 < 64)
      have hsum : v / 4096 % 16 * 4096 + v / 64 % 64 * 64 + v % 64 = v := by omega
      rwa [hsum] at hu

/-- A character outside the surrogates stands for itself. -/
theorem charsOfUnits_char (units : List Nat) :
    charsOfUnits (c.toNat :: units) = c :: charsOfUnits units := by
  have hv : c.toNat < 0xd800 ∨ 0xdfff < c.toNat ∧ c.toNat < 0x110000 := c.valid
  have hl : isLeading c.toNat = false := by
    simp only [isLeading, Bool.and_eq_false_iff, decide_eq_false_iff_not]
    omega
  have ht : isTrailing c.toNat = false := by
    simp only [isTrailing, Bool.and_eq_false_iff, decide_eq_false_iff_not]
    omega
  rw [charsOfUnits.eq_def]
  simp [hl, ht]

/-- The surrogates of a character lie in their ranges and give its number back. -/
theorem surrogates_spec {code : Nat} (h : 0x10000 ≤ code) (hc : code < 0x110000) :
    0xd800 ≤ (surrogates code).1 ∧ (surrogates code).1 < 0xdc00 ∧
    0xdc00 ≤ (surrogates code).2 ∧ (surrogates code).2 < 0xe000 ∧
    0x10000 + ((surrogates code).1 - 0xd800) * 1024 + ((surrogates code).2 - 0xdc00) = code := by
  unfold surrogates
  dsimp only
  omega

theorem charsOfUnits_surrogates (units : List Nat) (h : 0x10000 ≤ c.toNat) :
    charsOfUnits ((surrogates c.toNat).1 :: (surrogates c.toNat).2 :: units) =
      c :: charsOfUnits units := by
  have hv : c.toNat < 0xd800 ∨ 0xdfff < c.toNat ∧ c.toNat < 0x110000 := c.valid
  obtain ⟨h1, h2, h3, h4, hsum⟩ := surrogates_spec h (by omega)
  have hl : isLeading (surrogates c.toNat).1 = true := by simp [isLeading, h1, h2]
  have ht : isTrailing (surrogates c.toNat).2 = true := by simp [isTrailing, h3, h4]
  rw [charsOfUnits.eq_def]
  dsimp only
  rw [if_pos hl, if_pos ht, hsum, Char.ofNat_toNat]

theorem charsOfUnits_encodeChar (c : Char) (rest : Bytes) :
    charsOfUnits (units (encodeChar c ++ rest)) = c :: charsOfUnits (units rest) := by
  have hv : c.toNat < 0xd800 ∨ 0xdfff < c.toNat ∧ c.toNat < 0x110000 := c.valid
  unfold encodeChar
  split
  · next hz =>
    have hu := units_two rest (by decide : 0 < 32) (by decide : 0 < 64)
    have hc := charsOfUnits_char (c := c) (units rest)
    rw [hz] at hc
    exact (congrArg charsOfUnits hu).trans hc
  · split
    · next hlt => rw [units_utf8EncodeChar hlt, charsOfUnits_char]
    · next hge =>
      obtain ⟨_, hl, _, ht, _⟩ := surrogates_spec (by omega : 0x10000 ≤ c.toNat) (by omega)
      change charsOfUnits (units (unitBytes (surrogates c.toNat).1
        ++ unitBytes (surrogates c.toNat).2 ++ rest)) = _
      rw [List.append_assoc, units_unitBytes (by omega), units_unitBytes (by omega),
        charsOfUnits_surrogates _ (by omega)]

/-- The bytes of a text spell its units. -/
theorem charsOfUnits_encode (text : String) :
    charsOfUnits (units (encode text)) = text.toList := by
  unfold encode
  induction text.toList with
  | nil => rfl
  | cons c chars ih => rw [List.flatMap_cons, charsOfUnits_encodeChar, ih]

/-- No byte of a text is one that plain UTF-8 begins four bytes with. -/
theorem lt_of_mem_encode {text : String} {byte : UInt8} (h : byte ∈ encode text) :
    byte.toNat < 0xf0 := by
  obtain ⟨c, _, hb⟩ := List.mem_flatMap.mp h
  have hunit : ∀ unit < 0x10000, byte ∈ unitBytes unit → byte.toNat < 0xf0 := by
    intro unit hu hm
    simp only [unitBytes, List.mem_cons, List.not_mem_nil, or_false] at hm
    rcases hm with rfl | rfl | rfl <;> simp only [UInt8.toNat_ofNat'] <;> omega
  have hv : c.toNat < 0xd800 ∨ 0xdfff < c.toNat ∧ c.toNat < 0x110000 := c.valid
  unfold encodeChar at hb
  split at hb
  · simp only [List.mem_cons, List.not_mem_nil, or_false] at hb
    rcases hb with rfl | rfl <;> decide
  · split at hb
    · next hlt =>
      change c.val.toNat < 0x10000 at hlt
      unfold String.utf8EncodeChar at hb
      dsimp only at hb
      split at hb
      · simp only [List.mem_cons, List.not_mem_nil, or_false] at hb
        rw [hb, UInt8.toNat_ofNat']
        omega
      · split at hb
        · simp only [List.mem_cons, List.not_mem_nil, or_false] at hb
          rcases hb with rfl | rfl <;> simp only [UInt8.toNat_ofNat'] <;> omega
        · rw [if_pos (by omega)] at hb
          simp only [List.mem_cons, List.not_mem_nil, or_false] at hb
          rcases hb with rfl | rfl | rfl <;> simp only [UInt8.toNat_ofNat'] <;> omega
    · obtain ⟨_, hl, _, ht, _⟩ := surrogates_spec (by omega : 0x10000 ≤ c.toNat) (by omega)
      rcases List.mem_append.mp hb with hb | hb
      · exact hunit _ (by omega) hb
      · exact hunit _ (by omega) hb

/-- A text whose plain bytes are those of some modified text lies in the basic plane. -/
theorem toNat_lt_of_bytes {c : Char} (h : ∀ byte ∈ String.utf8EncodeChar c, byte.toNat < 0xf0) :
    c.toNat < 0x10000 := by
  have hv : c.toNat < 0xd800 ∨ 0xdfff < c.toNat ∧ c.toNat < 0x110000 := c.valid
  change c.val.toNat < 0xd800 ∨ 0xdfff < c.val.toNat ∧ c.val.toNat < 0x110000 at hv
  change c.val.toNat < 0x10000
  rcases Nat.lt_or_ge c.val.toNat 0x10000 with lt | ge
  · exact lt
  unfold String.utf8EncodeChar at h
  dsimp only at h
  rw [if_neg (by omega), if_neg (by omega), if_neg (by omega)] at h
  have hf := h _ List.mem_cons_self
  rw [UInt8.toNat_ofNat'] at hf
  omega

theorem charsOfUnits_plain {chars : List Char}
    (h : ∀ byte ∈ chars.flatMap String.utf8EncodeChar, byte.toNat < 0xf0) :
    charsOfUnits (units (chars.flatMap String.utf8EncodeChar)) = chars := by
  induction chars with
  | nil => rfl
  | cons c chars ih =>
    rw [List.flatMap_cons] at h ⊢
    have hc : c.toNat < 0x10000 :=
      toNat_lt_of_bytes fun byte hb => h byte (List.mem_append_left _ hb)
    rw [units_utf8EncodeChar hc, charsOfUnits_char,
      ih fun byte hb => h byte (List.mem_append_right _ hb)]

theorem toString?_eq_some {bytes : Bytes} {text : String} (h : bytes.toString? = some text) :
    bytes = text.toList.flatMap String.utf8EncodeChar := by
  unfold Bytes.toString? String.fromUTF8? at h
  split at h
  · next hv =>
    have ht : bytes.toByteArray = text.toByteArray :=
      congrArg String.toByteArray (Option.some.inj h)
    rw [← String.utf8Encode_toList] at ht
    exact List.toByteArray_inj.mp ht
  · cases h

/-- Reading gives back the text that was written. -/
theorem decode_encode (text : String) : decode (encode text) = text := by
  unfold decode
  split
  · next found hf =>
    have hb := toString?_eq_some hf
    have hp : charsOfUnits (units (encode text)) = found.toList := by
      have hall : ∀ byte ∈ encode text, byte.toNat < 0xf0 := fun _ hm => lt_of_mem_encode hm
      rw [hb] at hall ⊢
      exact charsOfUnits_plain hall
    rw [charsOfUnits_encode] at hp
    exact (String.toList_injective hp).symm
  · rw [charsOfUnits_encode, String.ofList_toList]

/-- A character whose bytes are those of plain UTF-8. -/
def IsPlain (c : Char) : Prop :=
  c.toNat ≠ 0 ∧ c.toNat < 0x10000

theorem encodeChar_of_isPlain (h : IsPlain c) : encodeChar c = String.utf8EncodeChar c := by
  rw [encodeChar, if_neg h.1, if_pos h.2]

/-- A character that is not plain takes more bytes than in plain UTF-8. -/
theorem length_lt_of_not_isPlain (h : ¬IsPlain c) :
    (String.utf8EncodeChar c).length < (encodeChar c).length := by
  unfold IsPlain at h
  unfold encodeChar
  split
  · next zero =>
    obtain rfl : c = Char.ofNat 0 := by rw [← zero, Char.ofNat_toNat]
    decide
  · next some =>
    have beyond : ¬c.toNat < 0x10000 := fun lt => h ⟨some, lt⟩
    have four : (String.utf8EncodeChar c).length ≤ 4 := by
      rw [String.length_utf8EncodeChar]
      exact c.utf8Size_le_four
    rw [if_neg beyond]
    change _ < (unitBytes (surrogates c.toNat).1 ++ unitBytes (surrogates c.toNat).2).length
    rw [List.length_append]
    exact Nat.lt_of_le_of_lt four (by decide : 4 < 3 + 3)

theorem length_le_encodeChar (c : Char) :
    (String.utf8EncodeChar c).length ≤ (encodeChar c).length := by
  by_cases h : IsPlain c
  · exact Nat.le_of_eq (congrArg List.length (encodeChar_of_isPlain h).symm)
  · exact Nat.le_of_lt (length_lt_of_not_isPlain h)

theorem length_le_encode (chars : List Char) :
    (chars.flatMap String.utf8EncodeChar).length ≤ (chars.flatMap encodeChar).length := by
  induction chars with
  | nil => exact Nat.le_refl _
  | cons c chars ih =>
    rw [List.flatMap_cons, List.flatMap_cons, List.length_append, List.length_append]
    exact Nat.add_le_add (length_le_encodeChar c) ih

/-- Bytes that are those of plain UTF-8 come from plain characters only. -/
theorem isPlain_of_encode_eq {chars : List Char}
    (h : chars.flatMap encodeChar = chars.flatMap String.utf8EncodeChar) :
    ∀ c ∈ chars, IsPlain c := by
  induction chars with
  | nil => simp
  | cons c chars ih =>
    rw [List.flatMap_cons, List.flatMap_cons] at h
    have hc : IsPlain c := by
      refine Classical.byContradiction fun no => ?_
      have more := length_lt_of_not_isPlain no
      have rest := length_le_encode chars
      have lengths := congrArg List.length h
      rw [List.length_append, List.length_append] at lengths
      omega
    rw [encodeChar_of_isPlain hc] at h
    intro d hd
    rcases List.mem_cons.mp hd with same | hd
    · exact same ▸ hc
    · exact ih (List.append_cancel_left h) d hd

theorem toString?_utf8Encode (text : String) :
    Bytes.toString? (text.toList.flatMap String.utf8EncodeChar) = some text := by
  have same : (text.toList.flatMap String.utf8EncodeChar).toByteArray = text.toByteArray :=
    String.utf8Encode_toList
  unfold Bytes.toString? String.fromUTF8?
  rw [same, dif_pos text.isValidUTF8]
  rfl

/-- What is written can be read as plain UTF-8 just when all its characters are plain. -/
theorem isSome_toString?_encode_iff (text : String) :
    (encode text).toString?.isSome ↔ ∀ c ∈ text.toList, IsPlain c := by
  constructor
  · intro h
    obtain ⟨found, hf⟩ := Option.isSome_iff_exists.mp h
    have same : found = text := by
      have whole := decode_encode text
      rw [decode, hf] at whole
      exact whole
    rw [same] at hf
    exact isPlain_of_encode_eq (toString?_eq_some hf)
  · intro plain
    have same : encode text = text.toList.flatMap String.utf8EncodeChar := by
      unfold encode
      rw [List.flatMap_def, List.flatMap_def,
        List.map_congr_left fun c hc => encodeChar_of_isPlain (plain c hc)]
    rw [same, toString?_utf8Encode]
    rfl

/-- Every text is read back: as plain UTF-8 just when no character of it is zero or beyond the
basic plane, and by its UTF-16 units in any case. -/
theorem decode_encode_units (text : String) :
    decode (encode text) = text ∧
    ((encode text).toString?.isSome ↔ ∀ c ∈ text.toList, c.toNat ≠ 0 ∧ c.toNat < 0x10000) ∧
    charsOfUnits (units (encode text)) = text.toList :=
  ⟨decode_encode text, isSome_toString?_encode_iff text, charsOfUnits_encode text⟩

end MethodTrace.ModifiedUtf8
