import MethodTrace.Proofs.ClassRoundTrip

/-!
What has been read is spelled by the bytes that were taken for it.

This is the direction opposite to reading what has been written: a reader that accepts the front of a
slice tells what stands there. The parts of a class file have one spelling each, so that writing them
gives back the bytes they were read from.
-/

namespace MethodTrace

namespace Reader

variable {α β : Type} {reader : Reader α} {extent : Nat} {slice rest : Bytes}

/-- A reader of which each value is in a relation to the bytes that it has taken for it. -/
structure Spells (reader : Reader α) (P : α → Bytes → Prop) : Prop where
  of_ok : ∀ {extent slice value rest}, slice.length ≤ extent →
    reader.onPart extent slice = .ok (value, rest) → ∃ taken, slice = taken ++ rest ∧ P value taken

variable {P : α → Bytes → Prop} {Q : β → Bytes → Prop}

theorem Spells.bind {next : α → Reader β} (h : reader.Spells P)
    (hn : ∀ value taken, P value taken → (next value).Spells fun result more =>
      Q result (taken ++ more)) : (reader >>= next).Spells Q := by
  refine ⟨fun hx hr => ?_⟩
  obtain ⟨value, left, hv, hl⟩ := bind_onPart_iff.mp hr
  obtain ⟨taken, rfl, hp⟩ := h.of_ok hx hv
  rw [List.length_append] at hx
  obtain ⟨more, rfl, hq⟩ := (hn value taken hp).of_ok (by omega) hl
  exact ⟨taken ++ more, (List.append_assoc _ _ _).symm, hq⟩

theorem Spells.pure {value : α} (h : P value []) : (Pure.pure value : Reader α).Spells P := by
  refine ⟨fun _ hr => ?_⟩
  obtain ⟨rfl, rfl⟩ := Prod.mk.inj (Except.pure_eq_ok_iff.mp hr)
  exact ⟨[], rfl, h⟩

theorem Spells.throw (e : ClassFileError) : (MonadExcept.throw e : Reader α).Spells P := by
  refine ⟨fun _ hr => ?_⟩
  cases hr

theorem Spells.throw_bind (e : ClassFileError) (next : β → Reader α) :
    ((MonadExcept.throw e : Reader β) >>= next).Spells P :=
  .bind (P := fun _ _ => False) (.throw e) fun _ _ h => h.elim

theorem Spells.ite {c : Prop} [Decidable c] {other : Reader α} (h : c → reader.Spells P)
    (ho : ¬c → other.Spells P) : (if c then reader else other).Spells P := by
  split
  · next hc => exact h hc
  · next hc => exact ho hc

theorem spells_take (count : Nat) :
    (take count).Spells fun bytes taken => taken = bytes ∧ bytes.length = count := by
  refine ⟨fun {extent slice bytes rest} hx h => ?_⟩
  have length := (take_yields count).of_ok h
  rw [take, get_bind_onPart] at h
  dsimp only at h
  split at h
  · cases h
  · cases h
    exact ⟨slice.take count, (List.take_append_drop count slice).symm, rfl, length⟩

theorem spells_number (width : Nat) : (number width).Spells fun value taken =>
    taken = Bytes.bigEndian width value ∧ value < Bytes.limit width := by
  refine .bind (spells_take width) ?_
  rintro _ bytes ⟨rfl, rfl⟩
  refine .pure ⟨?_, Bytes.ofBigEndian_lt bytes⟩
  rw [List.append_nil, Bytes.bigEndian_ofBigEndian]

theorem spells_u8 : u8.Spells fun value taken => taken = Bytes.ofUInt8 value := by
  refine .bind (spells_number 1) ?_
  rintro value _ ⟨rfl, fits⟩
  refine .pure ?_
  rw [List.append_nil, Bytes.ofUInt8, UInt8.toNat_ofNat_of_lt' fits]

theorem spells_u16 : u16.Spells fun value taken => taken = Bytes.ofUInt16 value := by
  refine .bind (spells_number 2) ?_
  rintro value _ ⟨rfl, fits⟩
  refine .pure ?_
  rw [List.append_nil, Bytes.ofUInt16, UInt16.toNat_ofNat_of_lt' fits]

theorem spells_u32 : u32.Spells fun value taken => taken = Bytes.ofUInt32 value := by
  refine .bind (spells_number 4) ?_
  rintro value _ ⟨rfl, fits⟩
  refine .pure ?_
  rw [List.append_nil, Bytes.ofUInt32, UInt32.toNat_ofNat_of_lt' fits]

theorem spells_u64 : u64.Spells fun value taken => taken = Bytes.ofUInt64 value := by
  refine .bind (spells_number 8) ?_
  rintro value _ ⟨rfl, fits⟩
  refine .pure ?_
  rw [List.append_nil, Bytes.ofUInt64, UInt64.toNat_ofNat_of_lt' fits]

variable {write : α → Bytes}

theorem spells_times (h : reader.Spells fun value taken => taken = write value) (count : Nat) :
    (times count reader).Spells fun values taken =>
      values.length = count ∧ taken = values.flatMap write := by
  unfold times
  induction count with
  | zero => exact .pure ⟨rfl, rfl⟩
  | succ count ih =>
    rw [List.replicate_succ, List.mapM_cons]
    refine .bind h ?_
    rintro value _ rfl
    refine .bind ih ?_
    rintro values _ ⟨rfl, rfl⟩
    exact .pure ⟨rfl, by rw [List.append_nil, List.flatMap_cons]⟩

theorem spells_counted (h : reader.Spells fun value taken => taken = write value) :
    (counted reader).Spells fun values taken => taken = Bytes.counted write values := by
  refine .bind spells_u16 ?_
  rintro count _ rfl
  refine ⟨fun hx hr => ?_⟩
  obtain ⟨taken, rfl, length, rfl⟩ := (spells_times h count.toNat).of_ok hx hr
  exact ⟨_, rfl, by rw [Bytes.counted, length, Bytes.ofUInt16]⟩

end Reader

namespace Constant

variable {α β : Type} {reader : Reader α} {other : Reader β} {write : α → Bytes}
  {writeOther : β → Bytes} {tag : UInt8}

theorem spells_word {make : α → Constant} (h : reader.Spells fun value taken => taken = write value)
    (hw : ∀ value, (make value).write = tag :: write value) (hu : ∀ value, make value ≠ unusable) :
    (do return make (← reader)).Spells fun constant more =>
      [tag] ++ more = constant.write ∧ constant ≠ unusable := by
  refine .bind h ?_
  rintro value _ rfl
  exact .pure ⟨by rw [List.append_nil, hw]; rfl, hu value⟩

theorem spells_pair {make : α → β → Constant}
    (h : reader.Spells fun value taken => taken = write value)
    (ho : other.Spells fun value taken => taken = writeOther value)
    (hw : ∀ first last, (make first last).write = tag :: (write first ++ writeOther last))
    (hu : ∀ first last, make first last ≠ unusable) :
    (do return make (← reader) (← other)).Spells fun constant more =>
      [tag] ++ more = constant.write ∧ constant ≠ unusable := by
  refine .bind h ?_
  rintro first _ rfl
  refine .bind ho ?_
  rintro last _ rfl
  exact .pure ⟨by rw [List.append_nil, hw]; rfl, hu first last⟩

open Reader in
theorem spells_read (index : UInt16) : (read index).Spells fun constant taken =>
    taken = constant.write ∧ constant ≠ unusable := by
  unfold read
  refine .bind spells_u8 ?_
  rintro tag _ rfl
  rw [Bytes.ofUInt8_eq]
  split
  · refine .bind spells_u16 ?_
    rintro length _ rfl
    refine .bind (spells_take _) ?_
    rintro _ bytes ⟨rfl, hb⟩
    exact .pure ⟨by simp [Constant.write, Bytes.ofUInt16, hb], by simp⟩
  · exact spells_word spells_u32 (fun _ => rfl) (by simp)
  · exact spells_word spells_u32 (fun _ => rfl) (by simp)
  · exact spells_word spells_u64 (fun _ => rfl) (by simp)
  · exact spells_word spells_u64 (fun _ => rfl) (by simp)
  · exact spells_word spells_u16 (fun _ => rfl) (by simp)
  · exact spells_word spells_u16 (fun _ => rfl) (by simp)
  · exact spells_pair spells_u16 spells_u16 (fun _ _ => rfl) (by simp)
  · exact spells_pair spells_u16 spells_u16 (fun _ _ => rfl) (by simp)
  · exact spells_pair spells_u16 spells_u16 (fun _ _ => rfl) (by simp)
  · exact spells_pair spells_u16 spells_u16 (fun _ _ => rfl) (by simp)
  · exact spells_pair spells_u8 spells_u16 (by simp [Constant.write, Bytes.ofUInt8_eq]) (by simp)
  · exact spells_word spells_u16 (fun _ => rfl) (by simp)
  · exact spells_pair spells_u16 spells_u16 (fun _ _ => rfl) (by simp)
  · exact spells_pair spells_u16 spells_u16 (fun _ _ => rfl) (by simp)
  · exact spells_word spells_u16 (fun _ => rfl) (by simp)
  · exact spells_word spells_u16 (fun _ => rfl) (by simp)
  · exact .throw _

end Constant

namespace ConstantPool

variable {slots : Array Constant} {count : UInt16}

/-- A pool of one slot more than its count, which a wide constant at the end has brought about. -/
structure Overhangs (pool : ConstantPool) (count : UInt16) : Prop where
  size : pool.size = count.toNat + 1
  last : pool.slots[count.toNat - 1]?.any Constant.isWide = true

/-- The counter of slots stops at the count, or it has passed over it by a wide constant. -/
theorem agrees_or_overhangs {constant : Constant}
    (small : slots.size < 65536 ∨ count.toNat = 65535) (more : UInt16.ofNat slots.size < count)
    (last : ¬UInt16.ofNat (slots ++ constant.slots).size < count) :
    UInt16.ofNat (slots ++ constant.slots).size = count ∨
      Overhangs ⟨slots ++ constant.slots⟩ count := by
  have fits := count.toNat_lt
  rw [UInt16.lt_iff_toNat_lt, UInt16.toNat_ofNat'] at more last
  rw [← UInt16.toNat_inj, UInt16.toNat_ofNat']
  by_cases wide : constant.isWide = true
  · have size : (slots ++ constant.slots).size = slots.size + 2 := by
      simp [Constant.slots, wide]
    rw [size] at last ⊢
    by_cases past : slots.size + 2 = count.toNat + 1
    · refine .inr ⟨size.trans past, ?_⟩
      have place : count.toNat - 1 = slots.size := by omega
      have found : (slots ++ constant.slots)[slots.size]? = some constant := by
        rw [← Array.getElem?_toList, Array.toList_appendList, Constant.slots, if_pos wide]
        exact List.getElem?_append_right le_rfl |>.trans (by simp)
      rw [place, found]
      exact wide
    · exact .inl (by omega)
  · have size : (slots ++ constant.slots).size = slots.size + 1 := by
      simp [Constant.slots, wide]
    rw [size] at last ⊢
    exact .inl (by omega)

/-- What is read into the slots behind those before, and that the counter agrees with it. -/
theorem readSlots_spelled {fuel extent : Nat} {index : UInt16} {read : Array Constant}
    {slice rest : Bytes} (hindex : index = UInt16.ofNat slots.size)
    (small : slots.size < 65536 ∨ count.toNat = 65535) (hx : slice.length ≤ extent)
    (hfuel : slice.length < fuel)
    (h : (readSlots count fuel index slots).onPart extent slice = .ok (read, rest)) :
    ∃ constants : List Constant, slice = constants.flatMap Constant.write ++ rest ∧
      read.toList = slots.toList ++ constants.flatMap Constant.slots ∧
      ((constants = [] ∧ ¬index < count) ∨ UInt16.ofNat read.size = count ∨
        Overhangs ⟨read⟩ count) := by
  induction fuel generalizing index slots slice with
  | zero => omega
  | succ fuel ih =>
    rw [readSlots] at h
    split at h
    · next more =>
      obtain ⟨constant, left, hc, hl⟩ := Reader.bind_onPart_iff.mp h
      obtain ⟨_, rfl, rfl, used⟩ := (Constant.spells_read index).of_ok hx hc
      have shorter := Constant.length_write_pos used
      rw [List.length_append] at hx hfuel
      have size : (slots ++ constant.slots).size
          = if constant.isWide then slots.size + 2 else slots.size + 1 := by
        unfold Constant.slots
        split <;> simp
      have next : (if constant.isWide then index + 2 else index + 1)
          = UInt16.ofNat (slots ++ constant.slots).size := by
        rw [hindex, size]
        split <;> rw [UInt16.ofNat_add] <;> rfl
      have room : (slots ++ constant.slots).size < 65536 ∨ count.toNat = 65535 := by
        have fits := count.toNat_lt
        rw [hindex, UInt16.lt_iff_toNat_lt, UInt16.toNat_ofNat'] at more
        rw [size]
        split <;> omega
      obtain ⟨constants, rfl, list, ends⟩ := ih next room (by omega) (by omega) hl
      refine ⟨constant :: constants, by rw [List.flatMap_cons, List.append_assoc], ?_, .inr ?_⟩
      · rw [list, Array.toList_appendList, List.flatMap_cons, List.append_assoc]
      rcases ends with ⟨rfl, last⟩ | ends
      · obtain rfl : read = slots ++ constant.slots := Array.toList_inj.mp (by simpa using list)
        exact agrees_or_overhangs small (hindex ▸ more) (next ▸ last)
      · exact ends
    · next last =>
      obtain ⟨rfl, rfl⟩ := Prod.mk.inj (Except.pure_eq_ok_iff.mp h)
      exact ⟨[], rfl, by simp, .inl ⟨rfl, last⟩⟩

/-- A pool that has been read is spelled as it is written, but for its count. -/
theorem spells_read : read.Spells fun pool taken => ∃ count : UInt16,
    taken = Bytes.ofUInt16 count ++ (pool.slots.toList.drop 1).flatMap Constant.write ∧
      (pool = empty ∨ UInt16.ofNat pool.size = count ∨ Overhangs pool count) := by
  refine ⟨fun {extent slice pool rest} hx h => ?_⟩
  obtain ⟨count, left, hc, hl⟩ := Reader.bind_onPart_iff.mp h
  obtain ⟨_, rfl, rfl⟩ := Reader.spells_u16.of_ok hx hc
  rw [List.length_append] at hx
  obtain ⟨found, last, hf, hp⟩ := Reader.bind_onPart_iff.mp
    (show (readSlots count (extent + 1) 1 #[.unusable] >>= fun slots =>
      pure (ConstantPool.mk slots)).onPart extent left = .ok (pool, rest) from hl)
  obtain ⟨rfl, rfl⟩ := Prod.mk.inj (Except.pure_eq_ok_iff.mp hp)
  have first : (1 : UInt16) = UInt16.ofNat #[Constant.unusable].size := rfl
  obtain ⟨constants, rfl, list, ends⟩ :=
    readSlots_spelled first (.inl (by decide)) (by omega) (by omega) hf
  refine ⟨_, (List.append_assoc _ _ _).symm, count, ?_, ?_⟩
  · rw [list]
    change _ = _ ++ (constants.flatMap Constant.slots).flatMap Constant.write
    rw [Constant.flatMap_write_slots]
  · rcases ends with ⟨rfl, _⟩ | ends
    · exact .inl (congrArg mk (Array.toList_inj.mp (by simpa using list)))
    · exact .inr ends

end ConstantPool

theorem Attribute.spells_read : read.Spells fun attr taken => taken = attr.write := by
  refine .bind Reader.spells_u16 ?_
  rintro name _ rfl
  refine .bind Reader.spells_u32 ?_
  rintro length _ rfl
  refine .bind (Reader.spells_take _) ?_
  rintro _ info ⟨rfl, hl⟩
  exact .pure (by simp [Attribute.write, Bytes.ofUInt32, hl])

theorem Member.spells_read : read.Spells fun member taken => taken = member.write := by
  refine .bind Reader.spells_u16 ?_
  rintro access _ rfl
  refine .bind Reader.spells_u16 ?_
  rintro name _ rfl
  refine .bind Reader.spells_u16 ?_
  rintro descriptor _ rfl
  refine .bind (Reader.spells_counted Attribute.spells_read) ?_
  rintro attributes _ rfl
  exact .pure (by simp [Member.write])

namespace ClassFile

variable {file : ClassFile} {data : Bytes}

/-- The bytes of a class file before the count of its slots. -/
def beforeCount (file : ClassFile) : Bytes :=
  Bytes.ofUInt32 magic ++ Bytes.ofUInt16 file.minorVersion ++ Bytes.ofUInt16 file.majorVersion

/-- The bytes of a class file after the count of its slots. -/
def afterCount (file : ClassFile) : Bytes :=
  (file.pool.slots.toList.drop 1).flatMap Constant.write ++ Bytes.ofUInt16 file.access
    ++ Bytes.ofUInt16 file.thisClass ++ Bytes.ofUInt16 file.superClass
    ++ Bytes.counted Bytes.ofUInt16 file.interfaces ++ Bytes.counted Member.write file.fields
    ++ Bytes.counted Member.write file.methods ++ Bytes.counted Attribute.write file.attributes

theorem length_beforeCount (file : ClassFile) : file.beforeCount.length = 8 := by
  simp [beforeCount, Bytes.ofUInt32, Bytes.ofUInt16]

theorem toBytes_eq (file : ClassFile) :
    file.toBytes = file.beforeCount ++ Bytes.bigEndian 2 file.pool.size ++ file.afterCount := by
  simp only [toBytes, beforeCount, afterCount, ConstantPool.write, List.append_assoc]

/-- Bytes that spell a class file with a count of slots, and how that count has come about. -/
structure Spelled (file : ClassFile) (count : UInt16) (data : Bytes) : Prop where
  data_eq : data = file.beforeCount ++ Bytes.ofUInt16 count ++ file.afterCount
  count : file.pool = .empty ∨ UInt16.ofNat file.pool.size = count ∨ file.pool.Overhangs count

theorem spells_read : read.Spells fun file taken => ∃ count, Spelled file count taken := by
  unfold read
  refine .bind Reader.spells_u32 ?_
  rintro found _ rfl
  refine .ite (fun _ => .throw_bind _ _) fun hm => ?_
  obtain rfl : found = magic := by simpa using hm
  refine .bind Reader.spells_u16 ?_
  rintro minor _ rfl
  refine .bind Reader.spells_u16 ?_
  rintro major _ rfl
  refine .bind ConstantPool.spells_read ?_
  rintro pool _ ⟨count, rfl, ends⟩
  refine .bind Reader.spells_u16 ?_
  rintro access _ rfl
  refine .bind Reader.spells_u16 ?_
  rintro thisClass _ rfl
  refine .bind Reader.spells_u16 ?_
  rintro superClass _ rfl
  refine .bind (Reader.spells_counted Reader.spells_u16) ?_
  rintro interfaces _ rfl
  refine .bind (Reader.spells_counted Member.spells_read) ?_
  rintro fields _ rfl
  refine .bind (Reader.spells_counted Member.spells_read) ?_
  rintro methods _ rfl
  refine .bind (Reader.spells_counted Attribute.spells_read) ?_
  rintro attributes _ rfl
  refine .pure ⟨count, ?_, ends⟩
  simp only [beforeCount, afterCount, List.append_assoc, List.append_nil]

theorem parse_spelled (h : parse data = .ok file) : ∃ count, Spelled file count data := by
  obtain ⟨⟨found, rest⟩, hr, h⟩ := Except.bind_eq_ok_iff.mp h
  dsimp only at h
  split at h
  · cases h
  · next hn =>
    obtain ⟨name, _, h⟩ := Except.bind_eq_ok_iff.mp h
    cases h
    obtain ⟨taken, rfl, spelled⟩ := spells_read.of_ok le_rfl hr
    obtain rfl : rest = [] := by simpa using hn
    rwa [List.append_nil]

/-- The count of slots that a class file states. -/
def slotCount (data : Bytes) : UInt16 :=
  UInt16.ofNat (Bytes.ofBigEndian ((data.drop 8).take 2))

theorem Spelled.slotCount_eq {count : UInt16} (h : Spelled file count data) :
    slotCount data = count := by
  have bytes : (data.drop 8).take 2 = Bytes.ofUInt16 count := by
    rw [h.data_eq, List.append_assoc, ← file.length_beforeCount, List.drop_left]
    exact List.take_left' (Bytes.length_bigEndian 2 _)
  rw [slotCount, bytes, Bytes.ofUInt16, Bytes.ofBigEndian_bigEndian,
    Nat.mod_eq_of_lt (show count.toNat < Bytes.limit 2 from count.toNat_lt), UInt16.ofNat_toNat]

theorem Spelled.toBytes_eq {count : UInt16} (h : Spelled file count data) :
    file.toBytes = data.take 8 ++ Bytes.bigEndian 2 file.pool.size ++ data.drop 10 := by
  have front : data.take 8 = file.beforeCount := by
    rw [h.data_eq, List.append_assoc]
    exact List.take_left' file.length_beforeCount
  have back : data.drop 10 = file.afterCount := by
    rw [h.data_eq]
    refine List.drop_left' ?_
    rw [List.length_append, file.length_beforeCount, Bytes.ofUInt16, Bytes.length_bigEndian]
  rw [front, back, ClassFile.toBytes_eq]

theorem Spelled.toBytes_eq_iff {count : UInt16} (h : Spelled file count data) :
    file.toBytes = data ↔ UInt16.ofNat file.pool.size = count := by
  rw [h.data_eq, ClassFile.toBytes_eq, List.append_left_inj, List.append_right_inj, Bytes.ofUInt16,
    Bytes.bigEndian_inj_iff, ← UInt16.toNat_inj, UInt16.toNat_ofNat']
  exact Eq.congr_right (Nat.mod_eq_of_lt (show count.toNat < Bytes.limit 2 from count.toNat_lt))

theorem pool_ne_empty (h : parse data = .ok file) : file.pool ≠ .empty := by
  intro empty
  obtain ⟨text, hn⟩ := (parse_eq_ok h).2
  obtain ⟨name, hg, _⟩ := ConstantPool.className_eq_ok_iff.mp hn
  rw [empty, ConstantPool.get?, ConstantPool.empty, List.getElem?_toArray] at hg
  have found := List.mem_of_getElem? hg
  simp at found

/-- A class file is written as it was read, but for a count of slots that is now that of its pool. So
it is the same again unless the last slot that was counted holds a wide constant. -/
theorem toBytes_of_parse (h : parse data = .ok file) :
    file.toBytes = data.take 8 ++ Bytes.bigEndian 2 file.pool.size ++ data.drop 10 ∧
      (file.toBytes = data ↔ ¬file.pool.Overhangs (slotCount data)) := by
  obtain ⟨count, spelled⟩ := parse_spelled h
  rw [spelled.slotCount_eq]
  refine ⟨spelled.toBytes_eq, ?_⟩
  rw [spelled.toBytes_eq_iff]
  constructor
  · intro agrees overhangs
    have fits := count.toNat_lt
    rw [overhangs.size, ← UInt16.toNat_inj, UInt16.toNat_ofNat'] at agrees
    omega
  · intro within
    rcases spelled.count with empty | agrees | overhangs
    · exact absurd empty (pool_ne_empty h)
    · exact agrees
    · exact absurd overhangs within

/-- A class file that counts one slot for the wide constant at the end of its pool. -/
def overhangingData : Bytes :=
  [0xca, 0xfe, 0xba, 0xbe, 0, 0, 0, 0x34, 0, 4, 1, 0, 1, 0x41, 7, 0, 1, 5, 0, 0, 0, 0, 0, 0, 0, 0,
   0, 0, 0, 2, 0, 0, 0, 0, 0, 0, 0, 0, 0, 0]

def overhangingClass : ClassFile where
  minorVersion := 0
  majorVersion := 52
  pool := ⟨#[.unusable, .utf8 [0x41], .classRef 1, .long 0, .unusable]⟩
  access := 0
  thisClass := 2
  superClass := 0
  interfaces := []
  fields := []
  methods := []
  attributes := []

theorem parse_overhangingData : parse overhangingData = .ok overhangingClass := by cbv

theorem toBytes_of_parse_overhangingData : parse overhangingData = .ok overhangingClass ∧
    overhangingClass.toBytes = overhangingData.take 8 ++ Bytes.bigEndian 2 5
      ++ overhangingData.drop 10 ∧
    (overhangingClass.toBytes = overhangingData ↔
      ¬overhangingClass.pool.Overhangs (slotCount overhangingData)) :=
  ⟨parse_overhangingData, toBytes_of_parse parse_overhangingData⟩

theorem not_forall_toBytes_eq : ¬∀ data file, parse data = .ok file → file.toBytes = data := by
  intro h
  exact absurd (h _ _ parse_overhangingData) (by decide)

end ClassFile

end MethodTrace
