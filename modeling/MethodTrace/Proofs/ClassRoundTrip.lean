import MethodTrace.ClassFile
import MethodTrace.Code.Body
import MethodTrace.Proofs.FormedInstructions
import MethodTrace.Proofs.PoolExtension
import MethodTrace.Proofs.SliceReaders

/-!
Class files and method bodies that are read as they have been written.

A count or a length is written into a field of two or four bytes, which keeps no more of it than
fits. What has been read always fits; what is written can be read again if and only if it does.
-/

namespace MethodTrace

theorem Bytes.ofUInt8_eq (byte : UInt8) : Bytes.ofUInt8 byte = [byte] := by
  simp [ofUInt8, bigEndian, littleEndian]

/-- A list of things of a kind whose length can be written before it. -/
structure Counted {α : Type} (P : α → Prop) (items : List α) : Prop where
  length : items.length < UInt16.size
  all : ∀ item ∈ items, P item

namespace Reader

variable {α β : Type} {reader : Reader α} {bytes rest : Bytes} {value : α} {extent : Nat}

theorem Takes.onPart_bind {next : α → Reader β} {result : Except ClassFileError (β × Bytes)}
    (h : reader.Takes bytes value) (hn : (next value).onPart extent rest = result) :
    (reader >>= next).onPart extent (bytes ++ rest) = result := by
  rw [← hn]
  exact congrArg (· >>= fun taken => (next taken.1).onPart extent taken.2) (h.onPart extent rest)

theorem takes_byte (byte : UInt8) : u8.Takes [byte] byte := by
  have read := takes_u8 byte
  rwa [Bytes.ofUInt8_eq] at read

theorem takes_u64 (value : UInt64) : u64.Takes (Bytes.ofUInt64 value) value := by
  have read := (takes_number 8 value.toNat).bind_pure (f := UInt64.ofNat)
  have whole : UInt64.ofNat (value.toNat % Bytes.limit 8) = value := by
    rw [Nat.mod_eq_of_lt (show value.toNat < Bytes.limit 8 from value.toNat_lt), UInt64.ofNat_toNat]
  rwa [whole] at read

theorem takes_length_u16 {length : Nat} (h : length < UInt16.size) :
    ∃ word : UInt16, length = word.toNat ∧ u16.Takes (Bytes.bigEndian 2 length) word := by
  have whole : (UInt16.ofNat length).toNat = length := UInt16.toNat_ofNat_of_lt' h
  have read := takes_u16 (UInt16.ofNat length)
  rw [Bytes.ofUInt16, whole] at read
  exact ⟨_, whole.symm, read⟩

theorem takes_length_u32 {length : Nat} (h : length < UInt32.size) :
    ∃ word : UInt32, length = word.toNat ∧ u32.Takes (Bytes.bigEndian 4 length) word := by
  have whole : (UInt32.ofNat length).toNat = length := UInt32.toNat_ofNat_of_lt' h
  have read := takes_u32 (UInt32.ofNat length)
  rw [Bytes.ofUInt32, whole] at read
  exact ⟨_, whole.symm, read⟩

variable {P : α → Prop}

theorem times_forall (h : reader.Yields P) (count : Nat) :
    (times count reader).Yields fun values => ∀ value ∈ values, P value := by
  unfold times
  induction count with
  | zero => exact .pure (by simp)
  | succ count ih =>
    rw [List.replicate_succ, List.mapM_cons]
    refine .bind_of h fun value hv => .bind_of ih fun values hvs => .pure ?_
    exact List.forall_mem_cons.mpr ⟨hv, hvs⟩

theorem counted_yields (h : reader.Yields P) : (counted reader).Yields (Counted P) := by
  refine .bind fun count => ⟨fun hr => ⟨?_, (times_forall h _).of_ok hr⟩⟩
  rw [(times_yields _ reader).of_ok hr]
  exact count.toNat_lt

theorem takes_counted_of {items : List α} {write : α → Bytes} (h : Counted P items)
    (hr : ∀ item, P item → reader.Takes (write item) item) :
    (counted reader).Takes (Bytes.counted write items) items :=
  takes_counted h.length fun item hi => hr item (h.all item hi)

end Reader

namespace Constant

variable {constant : Constant}

/-- A text is not longer than the length that is written before it can tell. -/
def Fits : Constant → Prop
  | utf8 bytes => bytes.length < UInt16.size
  | _ => True

theorem takes_read (index : UInt16) (hf : constant.Fits) (hu : constant ≠ unusable) :
    (read index).Takes constant.write constant := by
  unfold read
  cases constant with
  | unusable => exact absurd rfl hu
  | utf8 bytes =>
    obtain ⟨length, hl, read⟩ := Reader.takes_length_u16 hf
    exact (Reader.takes_byte 1).bind (read.bind (Reader.takes_take hl).bind_pure)
  | integer bits => exact (Reader.takes_byte 3).bind (Reader.takes_u32 bits).bind_pure
  | float bits => exact (Reader.takes_byte 4).bind (Reader.takes_u32 bits).bind_pure
  | long bits => exact (Reader.takes_byte 5).bind (Reader.takes_u64 bits).bind_pure
  | double bits => exact (Reader.takes_byte 6).bind (Reader.takes_u64 bits).bind_pure
  | classRef name => exact (Reader.takes_byte 7).bind (Reader.takes_u16 name).bind_pure
  | string text => exact (Reader.takes_byte 8).bind (Reader.takes_u16 text).bind_pure
  | fieldref owner member =>
    exact (Reader.takes_byte 9).bind
      ((Reader.takes_u16 owner).bind (Reader.takes_u16 member).bind_pure)
  | methodref owner member =>
    exact (Reader.takes_byte 10).bind
      ((Reader.takes_u16 owner).bind (Reader.takes_u16 member).bind_pure)
  | interfaceMethodref owner member =>
    exact (Reader.takes_byte 11).bind
      ((Reader.takes_u16 owner).bind (Reader.takes_u16 member).bind_pure)
  | nameAndType name descriptor =>
    exact (Reader.takes_byte 12).bind
      ((Reader.takes_u16 name).bind (Reader.takes_u16 descriptor).bind_pure)
  | methodHandle kind reference =>
    exact (Reader.takes_byte 15).bind
      ((Reader.takes_byte kind).bind (Reader.takes_u16 reference).bind_pure)
  | methodType descriptor =>
    exact (Reader.takes_byte 16).bind (Reader.takes_u16 descriptor).bind_pure
  | dynamic bootstrap member =>
    exact (Reader.takes_byte 17).bind
      ((Reader.takes_u16 bootstrap).bind (Reader.takes_u16 member).bind_pure)
  | invokeDynamic bootstrap member =>
    exact (Reader.takes_byte 18).bind
      ((Reader.takes_u16 bootstrap).bind (Reader.takes_u16 member).bind_pure)
  | module name => exact (Reader.takes_byte 19).bind (Reader.takes_u16 name).bind_pure
  | package name => exact (Reader.takes_byte 20).bind (Reader.takes_u16 name).bind_pure

theorem read_yields (index : UInt16) :
    (read index).Yields fun constant => constant ≠ unusable ∧ constant.Fits := by
  unfold read
  refine .bind fun tag => ?_
  split
  · refine .bind fun length => .bind_of (Reader.take_yields _) fun bytes hb => .pure ⟨by simp, ?_⟩
    rw [Fits, hb]
    exact length.toNat_lt
  all_goals first
    | exact .bind fun _ => .pure ⟨by simp, trivial⟩
    | exact .bind fun _ => .bind fun _ => .pure ⟨by simp, trivial⟩
    | exact .throw _

theorem isNarrow_iff :
    constant.isNarrow = true ↔ constant ≠ unusable ∧ constant.slots = [constant] := by
  cases constant <;> simp [isNarrow, slots, isWide]

/-- An unusable slot is not written. -/
theorem flatMap_write_slots (constants : List Constant) :
    (constants.flatMap slots).flatMap write = constants.flatMap write := by
  rw [List.flatMap_assoc]
  refine List.flatMap_congr fun constant _ => ?_
  unfold slots
  split <;> simp [write]

theorem length_write_pos (h : constant ≠ unusable) : 0 < constant.write.length := by
  cases constant with
  | unusable => exact absurd rfl h
  | _ => simp [write]

end Constant

namespace ConstantPool

variable {pool later : ConstantPool} {extent : Nat}

/-- A pool in which the slots that hold nothing are the first one and those behind wide constants. -/
def Laid (slots : Array Constant) : Prop :=
  ∃ constants : List Constant, (∀ constant ∈ constants, constant ≠ .unusable) ∧
    slots.toList = .unusable :: constants.flatMap Constant.slots

/-- A pool that is written with nothing cut off. -/
structure Fits (pool : ConstantPool) : Prop where
  size : pool.size < UInt16.size
  laid : Laid pool.slots
  texts : ∀ constant ∈ pool.slots, constant.Fits

theorem Extends.laid (h : pool.Extends later) (hl : Laid pool.slots) : Laid later.slots := by
  obtain ⟨constants, used, list⟩ := hl
  obtain ⟨added, ha⟩ := h.keeps
  have narrow : ∀ constant ∈ added, constant.isNarrow = true := by
    have narrow := h.narrow
    rwa [← ha, show pool.size = pool.slots.toList.length from rfl, List.drop_left] at narrow
  refine ⟨constants ++ added, ?_, ?_⟩
  · intro constant hc
    rcases List.mem_append.mp hc with hc | hc
    · exact used constant hc
    · exact (Constant.isNarrow_iff.mp (narrow constant hc)).1
  · have single : added.flatMap Constant.slots = added := by
      rw [List.flatMap_congr fun constant hc => (Constant.isNarrow_iff.mp (narrow constant hc)).2]
      simp
    rw [← ha, list, List.flatMap_append, single, List.cons_append]

/-- Constants are read into the slots that they fill. -/
theorem takes_readSlots {constants : List Constant} {count index : UInt16} {fuel : Nat}
    {slots : Array Constant} (hc : ∀ constant ∈ constants, constant ≠ .unusable ∧ constant.Fits)
    (hcount : (slots.toList ++ constants.flatMap Constant.slots).length = count.toNat)
    (hindex : index = UInt16.ofNat slots.toList.length) (hfuel : constants.length < fuel) :
    (readSlots count fuel index slots).Takes (constants.flatMap Constant.write)
      (slots.toList ++ constants.flatMap Constant.slots).toArray := by
  induction constants generalizing fuel index slots with
  | nil =>
    obtain ⟨fuel, rfl⟩ := Nat.exists_eq_add_of_lt hfuel
    have last : ¬index < count := by
      have small := count.toNat_lt
      rw [List.flatMap_nil, List.append_nil] at hcount
      rw [hindex, UInt16.lt_iff_toNat_lt, UInt16.toNat_ofNat']
      omega
    rw [readSlots, if_neg last, List.flatMap_nil, List.flatMap_nil, List.append_nil,
      Array.toArray_toList]
    exact .pure slots
  | cons constant constants ih =>
    obtain ⟨fuel, rfl⟩ := Nat.exists_eq_add_of_lt hfuel
    obtain ⟨⟨used, fits⟩, hc⟩ := List.forall_mem_cons.mp hc
    have list : slots.toList ++ (constant :: constants).flatMap Constant.slots
        = (slots ++ constant.slots).toList ++ constants.flatMap Constant.slots := by
      rw [List.flatMap_cons, Array.toList_appendList, List.append_assoc]
    rw [list] at hcount ⊢
    have more : index < count := by
      have small := count.toNat_lt
      have taken : 0 < constant.slots.length := by
        unfold Constant.slots
        split <;> simp
      rw [Array.toList_appendList, List.length_append, List.length_append] at hcount
      rw [hindex, UInt16.lt_iff_toNat_lt, UInt16.toNat_ofNat']
      omega
    have next : (if constant.isWide then index + 2 else index + 1)
        = UInt16.ofNat (slots ++ constant.slots).toList.length := by
      rw [hindex, Array.toList_appendList, List.length_append, UInt16.ofNat_add]
      unfold Constant.slots
      split <;> rfl
    have rest := @ih _ (constants.length + fuel + 1) _ hc hcount next (by omega)
    rw [show (constant :: constants).length + fuel + 1 = constants.length + fuel + 1 + 1 by
      rw [List.length_cons]; omega, readSlots, if_pos more]
    exact (Constant.takes_read index fits used).bind rest

/-- A pool is read as it is written, out of a slice that is as long as the pool. -/
theorem read_onPart (h : pool.Fits) {extent : Nat} (hx : pool.write.length ≤ extent)
    (rest : Bytes) : read.onPart extent (pool.write ++ rest) = .ok (pool, rest) := by
  obtain ⟨constants, used, list⟩ := h.laid
  have hc : ∀ constant ∈ constants, constant ≠ .unusable ∧ constant.Fits := by
    intro constant hc
    refine ⟨used constant hc, h.texts constant ?_⟩
    rw [← Array.mem_toList_iff, list]
    refine List.mem_cons_of_mem _ (List.mem_flatMap.mpr ⟨constant, hc, ?_⟩)
    unfold Constant.slots
    split <;> simp
  have bytes : (pool.slots.toList.drop 1).flatMap Constant.write
      = constants.flatMap Constant.write := by
    rw [list, List.drop_succ_cons, List.drop_zero, Constant.flatMap_write_slots]
  have enough : constants.length ≤ (constants.flatMap Constant.write).length := by
    rw [List.length_flatMap, ← List.length_map (fun constant => constant.write.length)]
    refine List.length_le_sum_of_one_le _ fun length hl => ?_
    obtain ⟨constant, hc, rfl⟩ := List.mem_map.mp hl
    exact Constant.length_write_pos (used constant hc)
  obtain ⟨count, hcount, counted⟩ := Reader.takes_length_u16 h.size
  rw [write, bytes] at hx
  rw [write, bytes, List.append_assoc]
  refine counted.onPart_bind ?_
  have slots := @takes_readSlots _ count 1 (extent + 1) #[.unusable] hc
    (by rw [← hcount, size, ← Array.length_toList, list]; rfl) rfl
    (by rw [List.length_append] at hx; omega)
  have whole := slots.bind_pure (f := ConstantPool.mk) |>.onPart extent rest
  have same : (#[Constant.unusable].toList ++ constants.flatMap Constant.slots).toArray
      = pool.slots := by
    rw [← @Array.toArray_toList _ pool.slots, list]
    rfl
  rwa [same] at whole

theorem readSlots_yields {count index : UInt16} {fuel : Nat} {slots : Array Constant}
    (hl : Laid slots) (hf : ∀ constant ∈ slots, constant.Fits) :
    (readSlots count fuel index slots).Yields fun read =>
      Laid read ∧ ∀ constant ∈ read, constant.Fits := by
  induction fuel generalizing index slots with
  | zero => exact .pure ⟨hl, hf⟩
  | succ fuel ih =>
    rw [readSlots]
    refine .ite (fun _ => ?_) fun _ => .pure ⟨hl, hf⟩
    refine .bind_of (Constant.read_yields index) fun constant ⟨used, fits⟩ => ih ?_ ?_
    · obtain ⟨constants, hu, list⟩ := hl
      refine ⟨constants ++ [constant], ?_, ?_⟩
      · intro other ho
        rcases List.mem_append.mp ho with ho | ho
        · exact hu other ho
        · rwa [List.mem_singleton.mp ho]
      · rw [Array.toList_appendList, list, List.flatMap_append, List.flatMap_singleton,
          List.cons_append]
    · intro other ho
      rw [← Array.mem_toList_iff, Array.toList_appendList, List.mem_append,
        Array.mem_toList_iff] at ho
      rcases ho with ho | ho
      · exact hf other ho
      · unfold Constant.slots at ho
        split at ho
        · rcases List.mem_pair.mp ho with rfl | rfl
          · exact fits
          · trivial
        · rwa [List.mem_singleton.mp ho]

theorem read_yields : read.Yields fun pool =>
    Laid pool.slots ∧ ∀ constant ∈ pool.slots, constant.Fits := by
  refine .bind fun count => .bind fun extent => .bind_of (readSlots_yields ?_ ?_) fun _ h => .pure h
  · exact ⟨[], by simp, rfl⟩
  · intro constant hc
    rw [Array.mem_singleton.mp (show constant ∈ #[Constant.unusable] from hc)]
    trivial

end ConstantPool

namespace Attribute

variable {attr : Attribute}

/-- An attribute that is written with nothing cut off. -/
def Fits (attr : Attribute) : Prop :=
  attr.info.length < UInt32.size

theorem takes_read (h : attr.Fits) : read.Takes attr.write attr := by
  obtain ⟨length, hl, counted⟩ := Reader.takes_length_u32 h
  unfold read
  refine .congr ?_ (List.append_assoc _ _ _)
  exact (Reader.takes_u16 attr.name).bind (counted.bind (Reader.takes_take hl).bind_pure)

theorem read_yields : read.Yields Fits := by
  refine .bind fun name => .bind fun length => .bind_of (Reader.take_yields _) fun info h => .pure ?_
  change info.length < UInt32.size
  rw [h]
  exact length.toNat_lt

theorem takes_counted {attributes : List Attribute} (h : Counted Fits attributes) :
    (Reader.counted read).Takes (Bytes.counted write attributes) attributes :=
  Reader.takes_counted_of h fun _ => takes_read

end Attribute

namespace Member

/-- A field or a method that is written with nothing cut off. -/
def Fits (member : Member) : Prop :=
  Counted Attribute.Fits member.attributes

theorem takes_read {member : Member} (h : member.Fits) : read.Takes member.write member := by
  unfold read write
  simp only [List.append_assoc]
  exact (Reader.takes_u16 _).bind ((Reader.takes_u16 _).bind ((Reader.takes_u16 _).bind
    (Attribute.takes_counted h).bind_pure))

theorem read_yields : read.Yields Fits :=
  .bind fun _ => .bind fun _ => .bind fun _ =>
    .bind_of (Reader.counted_yields Attribute.read_yields) fun _ h => .pure h

end Member

theorem ExceptionRow.takes_read (row : ExceptionRow) : read.Takes row.write row := by
  unfold read write
  simp only [List.append_assoc]
  exact (Reader.takes_u16 _).bind ((Reader.takes_u16 _).bind ((Reader.takes_u16 _).bind
    (Reader.takes_u16 _).bind_pure))

namespace Body

/-- A body that is written with nothing cut off. -/
structure Fits (body : Body) : Prop where
  code : body.code.length < UInt32.size
  exceptions : body.exceptions.length < UInt16.size
  attributes : Counted Attribute.Fits body.attributes

variable {body : Body}

theorem takes_read (h : body.Fits) : read.Takes body.toBytes body := by
  obtain ⟨length, hl, counted⟩ := Reader.takes_length_u32 h.code
  unfold read toBytes
  simp only [List.append_assoc]
  refine (Reader.takes_u16 _).bind ((Reader.takes_u16 _).bind (counted.bind ?_))
  refine (Reader.takes_take hl).bind ?_
  exact (Reader.takes_counted h.exceptions fun _ _ => ExceptionRow.takes_read _).bind
    (Attribute.takes_counted h.attributes).bind_pure

theorem read_yields : read.Yields Fits := by
  refine .bind fun _ => .bind fun _ => .bind fun length => .bind_of (Reader.take_yields _) ?_
  intro code hcode
  have rows : ExceptionRow.read.Yields fun _ => True := ⟨fun _ => trivial⟩
  refine .bind_of (Reader.counted_yields rows) fun exceptions he => ?_
  refine .bind_of (Reader.counted_yields Attribute.read_yields) fun attributes ha => .pure ?_
  refine ⟨?_, he.length, ha⟩
  change code.length < UInt32.size
  rw [hcode]
  exact length.toNat_lt

/-- A body can be read from its payload if and only if nothing is cut off there. -/
theorem parse_toBytes_iff : parse body.toBytes = .ok body ↔ body.Fits := by
  constructor
  · intro h
    obtain ⟨⟨found, rest⟩, hr, h⟩ := Except.bind_eq_ok_iff.mp h
    dsimp only at h
    split at h
    · cases h
    · cases h
      exact read_yields.of_ok hr
  · exact fun h => Except.bind_eq_ok_iff.mpr ⟨_, (takes_read h).onSlice, rfl⟩

end Body

namespace ClassFile

/-- A class file that is written with nothing cut off. -/
structure Fits (file : ClassFile) : Prop where
  pool : file.pool.Fits
  interfaces : file.interfaces.length < UInt16.size
  fields : Counted Member.Fits file.fields
  methods : Counted Member.Fits file.methods
  attributes : Counted Attribute.Fits file.attributes

variable {file : ClassFile}

theorem read_onSlice (h : file.Fits) : read.onSlice file.toBytes = .ok (file, []) := by
  have room : file.pool.write.length ≤ file.toBytes.length := by
    simp only [toBytes, List.length_append]
    omega
  unfold Reader.onSlice read
  generalize file.toBytes.length = extent at room ⊢
  simp only [toBytes, List.append_assoc]
  refine (Reader.takes_u32 magic).onPart_bind ?_
  rw [if_neg (by simp)]
  refine (Reader.takes_u16 file.minorVersion).onPart_bind ?_
  refine (Reader.takes_u16 file.majorVersion).onPart_bind ?_
  -- The reader of the pool is the only one that looks at the extent of the slice.
  refine Reader.bind_onPart_iff.mpr ⟨_, _, ConstantPool.read_onPart h.pool room _, ?_⟩
  refine (Reader.takes_u16 file.access).onPart_bind ?_
  refine (Reader.takes_u16 file.thisClass).onPart_bind ?_
  refine (Reader.takes_u16 file.superClass).onPart_bind ?_
  refine (Reader.takes_counted h.interfaces fun _ _ => Reader.takes_u16 _).onPart_bind ?_
  refine (Reader.takes_counted_of h.fields fun _ => Member.takes_read).onPart_bind ?_
  refine (Reader.takes_counted_of h.methods fun _ => Member.takes_read).onPart_bind ?_
  have last := (Attribute.takes_counted h.attributes).bind_pure
    (f := fun attributes => { file with attributes }) |>.onPart extent []
  rwa [List.append_nil] at last

/-- What is read fits, but for a pool with more slots than a count can tell. -/
theorem read_yields : read.Yields fun file => file.pool.size < UInt16.size → file.Fits := by
  unfold read
  refine .bind fun found => .ite (fun _ => .throw_bind _ _) fun _ => ?_
  refine .bind fun _ => .bind fun _ => .bind_of ConstantPool.read_yields fun pool ⟨laid, texts⟩ => ?_
  refine .bind fun _ => .bind fun _ => .bind fun _ => ?_
  have word : Reader.u16.Yields fun _ => True := ⟨fun _ => trivial⟩
  refine .bind_of (Reader.counted_yields word) fun interfaces hi => ?_
  refine .bind_of (Reader.counted_yields Member.read_yields) fun fields hf => ?_
  refine .bind_of (Reader.counted_yields Member.read_yields) fun methods hm => ?_
  refine .bind_of (Reader.counted_yields Attribute.read_yields) fun attributes ha => .pure ?_
  exact fun size => ⟨⟨size, laid, texts⟩, hi.length, hf, hm, ha⟩

theorem parse_eq_ok {data : Bytes} (h : parse data = .ok file) :
    (file.pool.size < UInt16.size → file.Fits) ∧ ∃ name, file.name = .ok name := by
  obtain ⟨⟨found, rest⟩, hr, h⟩ := Except.bind_eq_ok_iff.mp h
  dsimp only at h
  split at h
  · cases h
  · obtain ⟨name, hn, h⟩ := Except.bind_eq_ok_iff.mp h
    cases h
    exact ⟨read_yields.of_ok hr, name, hn⟩

/-- A class file can be read from its bytes if and only if nothing is cut off there and its name is
found. -/
theorem parse_toBytes_iff (hp : file.pool.size < UInt16.size) :
    parse file.toBytes = .ok file ↔ file.Fits ∧ ∃ name, file.name = .ok name := by
  constructor
  · intro h
    exact ⟨(parse_eq_ok h).1 hp, (parse_eq_ok h).2⟩
  · rintro ⟨fits, name, hn⟩
    exact Except.bind_eq_ok_iff.mpr ⟨_, read_onSlice fits, Except.bind_eq_ok_iff.mpr ⟨_, hn, rfl⟩⟩

end ClassFile

end MethodTrace
