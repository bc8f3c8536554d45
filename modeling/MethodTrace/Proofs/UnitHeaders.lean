import MethodTrace.Cache.UnitHeader
import MethodTrace.Proofs.HashSpellings
import MethodTrace.Proofs.ModifiedUtf8
import MethodTrace.Proofs.SliceReaders
import MethodTrace.Proofs.Utf8

/-!
How the headers of stored units are spelled.

A header may be spelled in several ways: a number need not be as short as it can be, and the digits
of a hash have other forms. A header is read exactly where one of its spellings is, which include
what is written for it.
-/

namespace MethodTrace

theorem Bytes.toString?_eq_some_iff {bytes : Bytes} {text : String} :
    bytes.toString? = some text ↔ bytes = ofString text := by
  constructor
  · intro h
    rw [ofString_eq_flatMap]
    exact ModifiedUtf8.toString?_eq_some h
  · rintro rfl
    exact toString?_ofString text

theorem Bytes.ofLittleEndian_lt (bytes : Bytes) : ofLittleEndian bytes < limit bytes.length := by
  have := ofBigEndian_lt bytes.reverse
  rwa [ofBigEndian_eq_reverse, List.reverse_reverse, List.length_reverse] at this

namespace Varint

variable {maxWidth n width : Nat} {mark : UInt8} {bytes rest : Bytes}

/-- The bytes that stand for a number: a small one is its own byte, and any number that fits may
stand behind a byte that tells its width. -/
inductive Spells (maxWidth : Nat) : Bytes → Nat → Prop
  | small {mark : UInt8} (h : mark.toNat ≤ maxSmall) : Spells maxWidth [mark] mark.toNat
  | wide {mark : UInt8} {width n : Nat} (hm : width? mark = some width) (hw : width ≤ maxWidth)
      (hn : n < Bytes.limit width) : Spells maxWidth (mark :: Bytes.littleEndian width n) n

theorem maxSmall_lt_of_width? (h : width? mark = some width) : maxSmall < mark.toNat := by
  unfold width? at h
  split at h <;> first | decide | cases h

theorem decode?_eq_some_iff : decode? maxWidth bytes = some (n, rest) ↔
    ∃ front, Spells maxWidth front n ∧ bytes = front ++ rest := by
  constructor
  · intro h
    cases bytes with
    | nil => cases h
    | cons mark bytes =>
      rw [decode?] at h
      split at h
      next small =>
        cases h
        exact ⟨_, .small small, rfl⟩
      next =>
        obtain ⟨width, hm, h⟩ := Option.bind_eq_some_iff.mp h
        split at h
        next fits =>
          cases h
          have short : (bytes.take width).length = width := by
            rw [List.length_take, Nat.min_eq_left fits.2]
          have back := Bytes.littleEndian_ofLittleEndian (bytes.take width)
          have bound := Bytes.ofLittleEndian_lt (bytes.take width)
          rw [short] at back bound
          refine ⟨_, .wide hm fits.1 bound, ?_⟩
          rw [back, List.cons_append, List.take_append_drop]
        next => cases h
  · rintro ⟨front, spelled, rfl⟩
    cases spelled with
    | small h => rw [List.singleton_append, decode?, if_pos h]
    | @wide mark width n hm hw hn =>
      have large := maxSmall_lt_of_width? hm
      rw [List.cons_append, decode?, if_neg (by omega), hm]
      simp only [Option.bind_eq_bind, Option.bind_some]
      rw [if_pos ⟨hw, by simp⟩, List.take_left' (by simp), List.drop_left' (by simp),
        Bytes.ofLittleEndian_littleEndian, Nat.mod_eq_of_lt hn]
      rfl

theorem Spells.lt_of_four (h : Spells 4 bytes n) : n < UInt32.size := by
  cases h with
  | small h =>
    have : maxSmall < UInt32.size := by decide
    omega
  | @wide mark width n hm hw hn =>
    unfold width? at hm
    split at hm
    · cases hm
      exact hn.trans (by decide)
    · cases hm
      exact hn
    · cases hm
      omega
    · cases hm

theorem length_encode_le (n : Nat) : (encode n).length ≤ 9 := by
  unfold encode
  repeat' split
  all_goals simp

/-- What is written for a number is one of its spellings. -/
theorem spells_encode (h : n < 2 ^ 64) (hw : n ≤ maxSmall ∨ 8 ≤ maxWidth) :
    Spells maxWidth (encode n) n := by
  unfold encode
  split
  next small =>
    have value : (UInt8.ofNat n).toNat = n := by
      rw [UInt8.toNat_ofNat']
      exact Nat.mod_eq_of_lt (by unfold maxSmall at small; omega)
    have spelled : Spells maxWidth [UInt8.ofNat n] (UInt8.ofNat n).toNat := .small (by rwa [value])
    rwa [value] at spelled
  next large =>
    have full : 8 ≤ maxWidth := by omega
    split
    next hn => exact .wide rfl (by omega) hn
    next =>
      split
      next hn => exact .wide rfl (by omega) hn
      next => exact .wide rfl full h

end Varint

namespace UnitHeader

variable {α β : Type} {bytes : Bytes} {header : UnitHeader} {text version : String}

/-- A reader takes just what spells its results from the front of some bytes. -/
def Reads (decoder : Decoder α) (spells : Bytes → α → Prop) : Prop :=
  ∀ bytes a rest, decoder.run bytes = some (a, rest) ↔
    ∃ front, spells front a ∧ bytes = front ++ rest

theorem Reads.congr {decoder : Decoder α} {spells spells' : Bytes → α → Prop}
    (h : Reads decoder spells) (same : ∀ front a, spells front a ↔ spells' front a) :
    Reads decoder spells' := by
  intro bytes a rest
  simp only [h bytes a rest, same]

theorem Reads.bind {decoder : Decoder α} {next : α → Decoder β} {spells : Bytes → α → Prop}
    {spells' : α → Bytes → β → Prop} (h : Reads decoder spells)
    (hn : ∀ a, Reads (next a) (spells' a)) :
    Reads (decoder >>= next) fun front b =>
      ∃ first a second, spells first a ∧ spells' a second b ∧ front = first ++ second := by
  intro bytes b rest
  rw [StateT.run_bind, Option.bind_eq_bind, Option.bind_eq_some_iff]
  constructor
  · rintro ⟨⟨a, behind⟩, ha, hb⟩
    obtain ⟨first, spelled, rfl⟩ := (h _ _ _).mp ha
    obtain ⟨second, spelled', rfl⟩ := (hn a _ _ _).mp hb
    exact ⟨_, ⟨first, a, second, spelled, spelled', rfl⟩, (List.append_assoc _ _ _).symm⟩
  · rintro ⟨_, ⟨first, a, second, spelled, spelled', rfl⟩, rfl⟩
    exact ⟨(a, second ++ rest), (h _ _ _).mpr ⟨first, spelled, List.append_assoc _ _ _⟩,
      (hn a _ _ _).mpr ⟨second, spelled', rfl⟩⟩

theorem reads_pure (a : α) : Reads (pure a) fun front b => front = [] ∧ b = a := by
  intro bytes b rest
  rw [StateT.run_pure]
  constructor
  · intro h
    cases h
    exact ⟨[], ⟨rfl, rfl⟩, rfl⟩
  · rintro ⟨_, ⟨rfl, rfl⟩, rfl⟩
    rfl

theorem reads_lift (found : Option α) :
    Reads (liftM found) fun front a => front = [] ∧ found = some a := by
  intro bytes b rest
  cases found with
  | none =>
    constructor
    · intro h
      cases h
    · rintro ⟨_, ⟨_, h⟩, _⟩
      cases h
  | some a =>
    constructor
    · intro h
      cases h
      exact ⟨[], ⟨rfl, rfl⟩, rfl⟩
    · rintro ⟨_, ⟨rfl, h⟩, rfl⟩
      cases h
      rfl

theorem reads_take (count : Nat) :
    Reads (take count) fun front bytes => front = bytes ∧ bytes.length = count := by
  intro bytes taken rest
  have run : (take count).run bytes =
      if bytes.length < count then none else some (bytes.take count, bytes.drop count) := by
    simp only [take, StateT.run_bind, StateT.run_get, Option.pure_def, Option.bind_eq_bind,
      Option.bind_some]
    split <;> rfl
  rw [run]
  constructor
  · intro h
    split at h
    next => cases h
    next long =>
      cases h
      refine ⟨_, ⟨rfl, ?_⟩, (List.take_append_drop count bytes).symm⟩
      rw [List.length_take]
      omega
  · rintro ⟨front, ⟨rfl, rfl⟩, rfl⟩
    rw [if_neg (by simp), List.take_left, List.drop_left]

theorem reads_decodeNumber (maxWidth : Nat) :
    Reads (decodeNumber maxWidth) (Varint.Spells maxWidth) := by
  intro bytes n rest
  have run : (decodeNumber maxWidth).run bytes = Varint.decode? maxWidth bytes := by
    simp only [decodeNumber, StateT.run_bind, StateT.run_get, Option.pure_def, Option.bind_eq_bind,
      Option.bind_some]
    cases Varint.decode? maxWidth bytes <;> rfl
  rw [run, Varint.decode?_eq_some_iff]

/-- The bytes of a text stand behind their number. -/
def SpellsText (bytes : Bytes) (text : String) : Prop :=
  ∃ size, Varint.Spells 8 size (Bytes.ofString text).length ∧ bytes = size ++ Bytes.ofString text

theorem reads_decodeText : Reads decodeText SpellsText := by
  unfold decodeText
  refine ((reads_decodeNumber 8).bind fun size =>
    (reads_take size).bind fun bytes => reads_lift bytes.toString?).congr ?_
  intro front text
  simp only [Bytes.toString?_eq_some_iff]
  constructor
  · rintro ⟨size, _, _, spelled, ⟨_, _, _, ⟨rfl, rfl⟩, ⟨rfl, rfl⟩, rfl⟩, rfl⟩
    exact ⟨size, spelled, by rw [List.append_nil]⟩
  · rintro ⟨size, spelled, rfl⟩
    exact ⟨size, _, _, spelled, ⟨_, _, [], ⟨rfl, rfl⟩, ⟨rfl, rfl⟩, rfl⟩, by rw [List.append_nil]⟩

/-- The bytes that stand for a header: four bytes, a number, a text, and a text for the hash. -/
inductive Spells : Bytes → UnitHeader → Prop
  | mk {magic format version checksum : Bytes} {text : String} {header : UnitHeader}
      (hm : magic = header.magic) (hl : magic.length = 4)
      (hf : Varint.Spells 4 format header.format.toNat)
      (hv : SpellsText version header.version) (hc : SpellsText checksum text)
      (hash : ContentHash.ofString? text = some header.checksum) :
      Spells (magic ++ format ++ version ++ checksum) header

theorem reads_decode : Reads decode Spells := by
  have whole (magic : Bytes) (format : Nat) (version text : String) :=
    (reads_lift (ContentHash.ofString? text)).bind fun checksum =>
      reads_pure (⟨magic, UInt32.ofNat format, version, checksum⟩ : UnitHeader)
  have behindVersion (magic : Bytes) (format : Nat) (version : String) :=
    reads_decodeText.bind (whole magic format version)
  have behindFormat (magic : Bytes) (format : Nat) :=
    reads_decodeText.bind (behindVersion magic format)
  have behindMagic (magic : Bytes) := (reads_decodeNumber 4).bind (behindFormat magic)
  have header := (reads_take 4).bind behindMagic
  refine Reads.congr header ?_
  intro front header
  constructor
  · rintro ⟨front, _, _, ⟨rfl, hl⟩, ⟨format, number, _, hf, ⟨version, name, _, hv, ⟨checksum, text, _,
      hc, ⟨_, found, _, ⟨rfl, hash⟩, ⟨rfl, rfl⟩, rfl⟩, rfl⟩, rfl⟩, rfl⟩, rfl⟩
    have back : (UInt32.ofNat number).toNat = number :=
      UInt32.toNat_ofNat_of_lt' (Varint.Spells.lt_of_four hf)
    rw [← back] at hf
    have spelled : Spells (front ++ format ++ version ++ checksum)
        ⟨front, UInt32.ofNat number, name, found⟩ := .mk rfl hl hf hv hc hash
    simpa only [List.append_nil, List.append_assoc] using spelled
  · rintro ⟨rfl, hl, hf, hv, hc, hash⟩
    have last := UInt32.ofNat_toNat (x := header.format)
    refine ⟨_, _, _, ⟨rfl, hl⟩, ⟨_, _, _, hf, ⟨_, _, _, hv, ⟨_, _, _, hc, ⟨_, _, _, ⟨rfl, hash⟩,
      ⟨rfl, ?_⟩, rfl⟩, rfl⟩, rfl⟩, rfl⟩, ?_⟩
    · rw [last]
    · simp only [List.append_nil, List.append_assoc]

/-- The header at the front of some bytes is the one that they spell there. -/
theorem decode?_eq_some_iff : decode? bytes = some header ↔
    ∃ front rest, Spells front header ∧ bytes = front ++ rest := by
  unfold decode?
  rw [Option.map_eq_map, Option.map_eq_some_iff]
  constructor
  · rintro ⟨⟨_, rest⟩, h, rfl⟩
    obtain ⟨front, spelled, rfl⟩ := (reads_decode _ _ _).mp h
    exact ⟨front, rest, spelled, rfl⟩
  · rintro ⟨front, rest, spelled, rfl⟩
    exact ⟨(header, rest), (reads_decode _ _ _).mpr ⟨front, spelled, rfl⟩, rfl⟩

theorem length_encode_le (version : String) (content : Bytes) :
    (ofContent version content).encode.length ≤ 300 + 4 * version.toList.length := by
  have magic : magicBytes.length ≤ 4 * 4 := Bytes.length_ofString_le "TRCX"
  have format := Varint.length_encode_le currentFormat.toNat
  have text (text : String) : (encodeText text).length ≤ 9 + 4 * text.toList.length := by
    have := Varint.length_encode_le (Bytes.ofString text).length
    have := Bytes.length_ofString_le text
    simp only [encodeText, List.length_append]
    omega
  have name := text version
  have hash := text (ContentHash.ofBytes content).toString
  rw [ContentHash.length_toString] at hash
  simp only [encode, ofContent, List.length_append]
  omega

theorem spellsText_encodeText (h : (Bytes.ofString text).length < 2 ^ 64) :
    SpellsText (encodeText text) text :=
  ⟨_, Varint.spells_encode h (.inr (by omega)), rfl⟩

/-- What is written for a header is one of its spellings. -/
theorem spells_encode (content : Bytes) (hv : (Bytes.ofString version).length < 2 ^ 64) :
    Spells (ofContent version content).encode (ofContent version content) := by
  have magic : magicBytes.length = 4 := by cbv
  have format : Varint.Spells 4 (Varint.encode currentFormat.toNat) currentFormat.toNat :=
    Varint.spells_encode (by decide) (.inl (by decide))
  have hash : (Bytes.ofString (ContentHash.ofBytes content).toString).length < 2 ^ 64 := by
    have := Bytes.length_ofString_le (ContentHash.ofBytes content).toString
    rw [ContentHash.length_toString] at this
    omega
  exact .mk rfl magic format (spellsText_encodeText hv) (spellsText_encodeText hash)
    (ContentHash.ofString?_toString _)

/-- A header is what its bytes hold. -/
theorem decode?_encode {version : String} (content : Bytes)
    (hv : (Bytes.ofString version).length < 2 ^ 64) :
    decode? (ofContent version content).encode = some (ofContent version content) :=
  decode?_eq_some_iff.mpr ⟨_, [], spells_encode content hv, (List.append_nil _).symm⟩

end UnitHeader

end MethodTrace
