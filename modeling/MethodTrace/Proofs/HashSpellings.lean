import MethodTrace.ContentHash

/-!
Content hashes as texts, and the texts that spell one.

A hash is read back from the text that it is written as. But two characters are read as a number of
their own, and a number may begin with a plus sign. So a hash has more spellings than its sixty-four
digits: the first digit of any byte that is below sixteen may give way to a sign.
-/

namespace MethodTrace

namespace Bytes

theorem hexValue?_hexDigit {n : Nat} (h : n < 16) : hexValue? (hexDigit n) = some n := by
  have all : ∀ n : Fin 16, hexValue? (hexDigit n) = some n.val := by decide
  exact all ⟨n, h⟩

theorem hexDigit_ne_plus {n : Nat} (h : n < 16) : hexDigit n ≠ '+' := by
  have all : ∀ n : Fin 16, hexDigit n ≠ '+' := by decide
  exact all ⟨n, h⟩

theorem printable_hexDigit {n : Nat} (h : n < 16) : ' ' < hexDigit n := by
  have all : ∀ n : Fin 16, ' ' < hexDigit n := by decide
  exact all ⟨n, h⟩

theorem hexNumber?_hexPair (b : UInt8) : hexNumber? (hexPair b) = some b.toNat := by
  have := b.toNat_lt
  have high := hexValue?_hexDigit (by omega : b.toNat / 16 < 16)
  have low := hexValue?_hexDigit (by omega : b.toNat % 16 < 16)
  have sum : b.toNat / 16 * 16 + b.toNat % 16 = b.toNat := by omega
  simp [hexNumber?, hexPair, high, low, sum]

end Bytes

namespace ContentHash

theorem bytesOfPairs?_flatMap (bytes : Bytes) :
    bytesOfPairs? (bytes.flatMap Bytes.hexPair) = some bytes := by
  induction bytes with
  | nil => rfl
  | cons b bytes ih =>
    have := b.toNat_lt
    have sign := Bytes.hexDigit_ne_plus (by omega : b.toNat / 16 < 16)
    have byte := Bytes.hexNumber?_hexPair b
    rw [Bytes.hexPair] at byte
    simp only [List.flatMap_cons, Bytes.hexPair, List.cons_append, List.nil_append,
      bytesOfPairs?, byteOfPair?, if_neg sign, byte]
    simp [ih]

/-- A hash is what its text spells. -/
theorem ofString?_toString (hash : ContentHash) : ofString? hash.toString = some hash := by
  have spelled : bytesOfPairs? hash.toString.toList = some hash.bytes := by
    rw [toString, Bytes.toHex, String.toList_ofList, bytesOfPairs?_flatMap]
  simp only [ofString?, spelled, Option.bind_eq_bind, Option.bind_some]
  rw [dif_pos hash.size]
  rfl

theorem length_flatMap_hexPair (bytes : Bytes) :
    (bytes.flatMap Bytes.hexPair).length = 2 * bytes.length := by
  induction bytes with
  | nil => rfl
  | cons b bytes ih =>
    rw [List.flatMap_cons, List.length_append, ih, Bytes.hexPair, List.length_cons]
    simp
    omega

theorem length_toString (hash : ContentHash) : hash.toString.toList.length = 64 := by
  rw [toString, Bytes.toHex, String.toList_ofList, length_flatMap_hexPair, hash.size]

end ContentHash

/-- A hexadecimal digit of either case. -/
def IsHexDigit (c : Char) : Prop :=
  ('0' ≤ c ∧ c ≤ '9') ∨ ('a' ≤ c ∧ c ≤ 'f') ∨ ('A' ≤ c ∧ c ≤ 'F')

namespace Bytes

variable {c : Char} {value : Nat}

theorem hexValue?_isSome_iff : (hexValue? c).isSome = true ↔ IsHexDigit c := by
  unfold hexValue? IsHexDigit
  by_cases number : '0' ≤ c ∧ c ≤ '9'
  · simp [number]
  · by_cases small : 'a' ≤ c ∧ c ≤ 'f'
    · simp [number, small]
    · by_cases large : 'A' ≤ c ∧ c ≤ 'F'
      · simp [number, small, large]
      · simp [number, small, large]

theorem toNat_lt_of_hexValue? (h : hexValue? c = some value) : c.toNat < 128 := by
  have digit : IsHexDigit c := hexValue?_isSome_iff.mp (Option.isSome_of_eq_some h)
  have ascii (last : Char) (hl : last.toNat < 128) (hc : c ≤ last) : c.toNat < 128 :=
    Nat.lt_of_le_of_lt (Char.le_def.mp hc) hl
  rcases digit with ⟨_, hc⟩ | ⟨_, hc⟩ | ⟨_, hc⟩
  · exact ascii '9' (by decide) hc
  · exact ascii 'f' (by decide) hc
  · exact ascii 'F' (by decide) hc

/-- A digit is written back in lower case. -/
theorem hexDigit_of_hexValue? (h : hexValue? c = some value) :
    value < 16 ∧ hexDigit value = c.toLower := by
  have all : ∀ n : Fin 128, (hexValue? (Char.ofNat n)).all
      (fun value => value < 16 && hexDigit value == (Char.ofNat n).toLower) = true := by
    decide
  have digit := all ⟨c.toNat, toNat_lt_of_hexValue? h⟩
  rw [Char.ofNat_toNat, h] at digit
  simpa using digit

end Bytes

namespace ContentHash

variable {first second : Char} {chars : List Char} {bytes : Bytes} {byte : UInt8}

/-- The digit that a sign stands for, in lower case as all others. -/
def plainDigit (c : Char) : Char :=
  if c = '+' then '0' else c.toLower

theorem byteOfPair?_isSome_iff : (byteOfPair? first second).isSome = true ↔
    (IsHexDigit first ∨ first = '+') ∧ IsHexDigit second := by
  rw [← Bytes.hexValue?_isSome_iff, ← Bytes.hexValue?_isSome_iff]
  unfold byteOfPair?
  by_cases sign : first = '+'
  · subst sign
    cases hs : Bytes.hexValue? second <;> simp [Bytes.hexNumber?, hs]
  · cases hf : Bytes.hexValue? first <;> cases hs : Bytes.hexValue? second <;>
      simp [Bytes.hexNumber?, sign, hf, hs]

theorem hexPair_of_byteOfPair? (h : byteOfPair? first second = some byte) :
    Bytes.hexPair byte = [plainDigit first, plainDigit second] := by
  have pair : (IsHexDigit first ∨ first = '+') ∧ IsHexDigit second :=
    byteOfPair?_isSome_iff.mp (Option.isSome_of_eq_some h)
  obtain ⟨low, hlow⟩ := Option.isSome_iff_exists.mp (Bytes.hexValue?_isSome_iff.mpr pair.2)
  obtain ⟨small, written⟩ := Bytes.hexDigit_of_hexValue? hlow
  have plain : second ≠ '+' := by
    rintro rfl
    cases hlow
  by_cases sign : first = '+'
  · have value : UInt8.ofNat low = byte := by
      simpa [byteOfPair?, Bytes.hexNumber?, sign, hlow] using h
    have same : byte.toNat = low := by
      rw [← value]
      exact UInt8.toNat_ofNat_of_lt' (by change low < 256; omega)
    have high : byte.toNat / 16 = 0 := by omega
    have rest : byte.toNat % 16 = low := by omega
    rw [Bytes.hexPair, high, rest, written, plainDigit, plainDigit, if_pos sign, if_neg plain]
    rfl
  · have digit := pair.1.resolve_right sign
    obtain ⟨high, hhigh⟩ := Option.isSome_iff_exists.mp (Bytes.hexValue?_isSome_iff.mpr digit)
    obtain ⟨less, shown⟩ := Bytes.hexDigit_of_hexValue? hhigh
    have value : UInt8.ofNat (high * 16 + low) = byte := by
      simpa [byteOfPair?, Bytes.hexNumber?, sign, hhigh, hlow] using h
    have same : byte.toNat = high * 16 + low := by
      rw [← value]
      exact UInt8.toNat_ofNat_of_lt' (by change high * 16 + low < 256; omega)
    have front : byte.toNat / 16 = high := by omega
    have back : byte.toNat % 16 = low := by omega
    rw [Bytes.hexPair, front, back, shown, written, plainDigit, plainDigit, if_neg sign,
      if_neg plain]

theorem bytesOfPairs?_isSome_iff (chars : List Char) : (bytesOfPairs? chars).isSome = true ↔
    chars.length % 2 = 0 ∧ ∀ i c, chars[i]? = some c → IsHexDigit c ∨ (i % 2 = 0 ∧ c = '+') := by
  fun_induction bytesOfPairs? chars with
  | case1 => simp
  | case2 first second rest ih =>
    have places : (∀ i c, (first :: second :: rest)[i]? = some c →
        IsHexDigit c ∨ (i % 2 = 0 ∧ c = '+')) ↔ (IsHexDigit first ∨ first = '+') ∧
          IsHexDigit second ∧
          ∀ i c, rest[i]? = some c → IsHexDigit c ∨ (i % 2 = 0 ∧ c = '+') := by
      have shift (n : Nat) : (n + 1 + 1) % 2 = n % 2 := by omega
      rw [← Nat.and_forall_add_one, ← Nat.and_forall_add_one]
      simp [shift]
    have even : (first :: second :: rest).length % 2 = 0 ↔ rest.length % 2 = 0 := by
      rw [List.length_cons, List.length_cons]
      omega
    have both : (do
        let byte ← byteOfPair? first second
        let bytes ← bytesOfPairs? rest
        return byte :: bytes : Option Bytes).isSome = true ↔
          (byteOfPair? first second).isSome = true ∧ (bytesOfPairs? rest).isSome = true := by
      cases byteOfPair? first second <;> cases bytesOfPairs? rest <;> simp
    rw [both, byteOfPair?_isSome_iff, ih, places, even]
    constructor
    · rintro ⟨⟨hf, hs⟩, he, hr⟩
      exact ⟨he, hf, hs, hr⟩
    · rintro ⟨he, hf, hs, hr⟩
      exact ⟨⟨hf, hs⟩, he, hr⟩
  | case3 => simp

/-- The bytes that a text spells are written as its digits. -/
theorem flatMap_hexPair_of_bytesOfPairs? (h : bytesOfPairs? chars = some bytes) :
    bytes.flatMap Bytes.hexPair = chars.map plainDigit := by
  fun_induction bytesOfPairs? chars generalizing bytes with
  | case1 =>
    cases h
    rfl
  | case2 first second rest ih =>
    obtain ⟨byte, hb, h⟩ := Option.bind_eq_some_iff.mp h
    obtain ⟨others, ho, h⟩ := Option.bind_eq_some_iff.mp h
    cases h
    rw [List.flatMap_cons, hexPair_of_byteOfPair? hb, ih ho]
    rfl
  | case3 => cases h

theorem ofString?_eq_some_iff {text : String} {hash : ContentHash} :
    ofString? text = some hash ↔ bytesOfPairs? text.toList = some hash.bytes := by
  unfold ofString?
  cases hb : bytesOfPairs? text.toList with
  | none => simp
  | some bytes =>
    by_cases size : bytes.length = 32
    · cases hash
      simp [size]
    · have other : bytes ≠ hash.bytes := fun same => size (same ▸ hash.size)
      simp [size, other]

/-- A text that spells a hash: sixty-four digits, with signs for those that begin a byte allowed. -/
structure Spells (text : String) : Prop where
  length : text.toList.length = 64
  digits : ∀ i c, text.toList[i]? = some c → IsHexDigit c ∨ (i % 2 = 0 ∧ c = '+')

theorem length_of_bytesOfPairs? (h : bytesOfPairs? chars = some bytes) :
    chars.length = 2 * bytes.length := by
  have written := congrArg List.length (flatMap_hexPair_of_bytesOfPairs? h)
  rw [length_flatMap_hexPair, List.length_map] at written
  exact written.symm

theorem ofString?_isSome_iff {text : String} : (ofString? text).isSome = true ↔ Spells text := by
  rw [Option.isSome_iff_exists]
  constructor
  · rintro ⟨hash, h⟩
    have read := ofString?_eq_some_iff.mp h
    have length := length_of_bytesOfPairs? read
    have digits := (bytesOfPairs?_isSome_iff text.toList).mp (Option.isSome_of_eq_some read)
    rw [hash.size] at length
    exact ⟨length, digits.2⟩
  · rintro ⟨length, digits⟩
    have even : text.toList.length % 2 = 0 := by rw [length]
    have some := (bytesOfPairs?_isSome_iff text.toList).mpr ⟨even, digits⟩
    obtain ⟨bytes, read⟩ := Option.isSome_iff_exists.mp some
    have size := length_of_bytesOfPairs? read
    rw [length] at size
    exact ⟨⟨bytes, by omega⟩, ofString?_eq_some_iff.mpr read⟩

theorem toString_of_ofString? {text : String} {hash : ContentHash} (h : ofString? text = some hash) :
    hash.toString = (text.map fun c => if c = '+' then '0' else c).toLower := by
  have written := flatMap_hexPair_of_bytesOfPairs? (ofString?_eq_some_iff.mp h)
  have lower (text : String) : text.toLower = text.map Char.toLower := rfl
  apply String.toList_inj.mp
  rw [toString, Bytes.toHex, String.toList_ofList, written, lower, String.toList_map,
    String.toList_map, List.map_map]
  refine List.map_congr_left fun c _ => ?_
  by_cases sign : c = '+'
  · simp [plainDigit, sign]
  · simp [plainDigit, sign]

/-- A text without signs spells a hash by its digits only. -/
theorem spells_iff_of_plain {text : String} (plain : '+' ∉ text.toList) :
    Spells text ↔ text.toList.length = 64 ∧ ∀ c ∈ text.toList, IsHexDigit c := by
  constructor
  · rintro ⟨length, digits⟩
    refine ⟨length, fun c hc => ?_⟩
    obtain ⟨i, hi⟩ := List.mem_iff_getElem?.mp hc
    rcases digits i c hi with digit | ⟨_, sign⟩
    · exact digit
    · exact absurd (sign ▸ hc) plain
  · rintro ⟨length, digits⟩
    exact ⟨length, fun i c hi => .inl (digits c (List.mem_of_getElem? hi))⟩

theorem map_sign_of_plain {text : String} (plain : '+' ∉ text.toList) :
    (text.map fun c => if c = '+' then '0' else c) = text := by
  have same : ∀ c ∈ text.toList, (if c = '+' then '0' else c) = c := by
    intro c hc
    rw [if_neg]
    rintro rfl
    exact plain hc
  apply String.toList_inj.mp
  rw [String.toList_map, List.map_congr_left same, List.map_id']

/-- A text is taken for a hash just when it has sixty-four digits, of which those that begin a byte
may be signs; the text of that hash is then the same one with zeros for signs, in lower case. Where a
text has no sign, its digits alone decide. Every hash is what its own text spells. -/
theorem ofString?_spells (text : String) (hash : ContentHash) :
    ((ofString? text).isSome = true ↔ Spells text) ∧
    (ofString? text = some hash →
      hash.toString = (text.map fun c => if c = '+' then '0' else c).toLower) ∧
    ('+' ∉ text.toList →
      ((ofString? text).isSome = true ↔
        text.toList.length = 64 ∧ ∀ c ∈ text.toList, IsHexDigit c) ∧
      (ofString? text = some hash → hash.toString = text.toLower)) ∧
    ofString? hash.toString = some hash := by
  refine ⟨ofString?_isSome_iff, toString_of_ofString?, fun plain => ⟨?_, fun accepted => ?_⟩,
    ofString?_toString hash⟩
  · rw [ofString?_isSome_iff, spells_iff_of_plain plain]
  · rw [toString_of_ofString? accepted, map_sign_of_plain plain]

/-- Thirty-two bytes of one digit each, with a sign before every digit. -/
def signedText : String :=
  String.ofList ((List.replicate 32 ['+', 'A']).flatten)

theorem toList_signedText : signedText.toList = (List.replicate 32 ['+', 'A']).flatten :=
  String.toList_ofList

def signedHash : ContentHash :=
  ⟨List.replicate 32 10, rfl⟩

theorem ofString?_signedText : ofString? signedText = some signedHash := by
  rw [ofString?_eq_some_iff, toList_signedText]
  decide +kernel

theorem ofString?_spells_signedText : ofString? signedText = some signedHash ∧
    Spells signedText ∧
    signedHash.toString = (signedText.map fun c => if c = '+' then '0' else c).toLower ∧
    '+' ∉ signedHash.toString.toList ∧
    signedHash.toString.toLower = signedHash.toString := by
  obtain ⟨spells, written, _, again⟩ := ofString?_spells signedText signedHash
  obtain ⟨_, _, alone, _⟩ := ofString?_spells signedHash.toString signedHash
  have accepted := Option.isSome_of_eq_some ofString?_signedText
  have plain : '+' ∉ signedHash.toString.toList := by
    rw [toString, Bytes.toHex, String.toList_ofList]
    decide +kernel
  exact ⟨ofString?_signedText, spells.mp accepted, written ofString?_signedText, plain,
    ((alone plain).2 again).symm⟩

theorem not_ofString?_isSome_iff_digits : ¬∀ text, (ofString? text).isSome = true ↔
    text.toList.length = 64 ∧ ∀ c ∈ text.toList, IsHexDigit c := by
  intro h
  obtain ⟨_, digits⟩ := (h signedText).mp (Option.isSome_of_eq_some ofString?_signedText)
  have sign : '+' ∈ signedText.toList := by
    rw [toList_signedText]
    decide +kernel
  have digit := digits '+' sign
  simp [IsHexDigit] at digit

end ContentHash

end MethodTrace
