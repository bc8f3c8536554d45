import MethodTrace.Proofs.ClassRoundTrip

/-!
The class files that the format can represent, told slot by slot.

A pool is laid out as constants one after another. Seen from its slots this says which of them hold
nothing: the first one, and each that comes after a wide constant.
-/

namespace MethodTrace

namespace ConstantPool

/-- Slots of which exactly those behind wide constants hold nothing; the first one is left open. -/
def Paired (slots : List Constant) : Prop :=
  ∀ index, slots[index]?.any Constant.isWide = true ↔ slots[index + 1]? = some .unusable

variable {first constant : Constant} {rest : List Constant}

theorem paired_singleton (h : first.isWide = false) : Paired [first] := by
  intro index
  cases index <;> simp [h]

theorem paired_cons_iff : Paired (first :: constant :: rest) ↔
    (first.isWide = true ↔ constant = .unusable) ∧ Paired (constant :: rest) := by
  unfold Paired
  rw [← Nat.and_forall_add_one]
  simp

theorem paired_wide_iff (h : first.isWide = true) :
    Paired (first :: rest) ↔ ∃ others, rest = .unusable :: others ∧ Paired rest := by
  cases rest with
  | nil =>
    refine iff_of_false (fun paired => ?_) (by simp)
    have := (paired 0).mp (by simpa using h)
    simp at this
  | cons constant rest => simp [paired_cons_iff, h]

theorem paired_of_constants {constants : List Constant} (hf : first.isWide = false)
    (used : ∀ constant ∈ constants, constant ≠ .unusable) :
    Paired (first :: constants.flatMap Constant.slots) := by
  induction constants generalizing first with
  | nil => exact paired_singleton hf
  | cons constant constants ih =>
    obtain ⟨hc, used⟩ := List.forall_mem_cons.mp used
    rw [List.flatMap_cons, Constant.slots]
    split
    · next wide =>
      rw [List.cons_append, List.singleton_append, paired_cons_iff, paired_cons_iff]
      exact ⟨by simp [hf, hc], by simp [wide], ih rfl used⟩
    · next narrow =>
      rw [List.singleton_append, paired_cons_iff]
      exact ⟨by simp [hf, hc], ih (by simpa using narrow) used⟩

theorem exists_constants_of_paired (hf : first.isWide = false) (h : Paired (first :: rest)) :
    ∃ constants : List Constant, (∀ constant ∈ constants, constant ≠ .unusable) ∧
      rest = constants.flatMap Constant.slots := by
  induction hn : rest.length using Nat.strong_induction_on generalizing first rest with
  | _ length ih =>
    subst hn
    cases rest with
    | nil => exact ⟨[], by simp, rfl⟩
    | cons constant rest =>
      obtain ⟨hfirst, h⟩ := paired_cons_iff.mp h
      have hc : constant ≠ .unusable := fun he => by simp [hf, he] at hfirst
      by_cases wide : constant.isWide = true
      · obtain ⟨others, rfl, h⟩ := (paired_wide_iff wide).mp h
        obtain ⟨constants, used, rfl⟩ := ih others.length (by simp) rfl h rfl
        exact ⟨constant :: constants, List.forall_mem_cons.mpr ⟨hc, used⟩,
          by simp [Constant.slots, wide]⟩
      · obtain ⟨constants, used, rfl⟩ := ih rest.length (by simp) (by simpa using wide) h rfl
        exact ⟨constant :: constants, List.forall_mem_cons.mpr ⟨hc, used⟩,
          by simp [Constant.slots, wide]⟩

/-- Constants one after another leave empty the first slot and those behind wide constants. -/
theorem laid_iff_paired {slots : Array Constant} :
    Laid slots ↔ slots[0]? = some .unusable ∧ Paired slots.toList := by
  constructor
  · rintro ⟨constants, used, list⟩
    refine ⟨?_, list ▸ paired_of_constants rfl used⟩
    rw [← Array.getElem?_toList, list]
    rfl
  · rintro ⟨reserved, paired⟩
    rw [← Array.getElem?_toList, ← List.head?_eq_getElem?] at reserved
    obtain ⟨rest, list⟩ := List.head?_eq_some_iff.mp reserved
    rw [list] at paired
    obtain ⟨constants, used, rfl⟩ := exists_constants_of_paired rfl paired
    exact ⟨constants, used, list⟩

/-- Only texts can be too long for what is written before them. -/
theorem forall_fits_iff {slots : Array Constant} : (∀ constant ∈ slots, constant.Fits) ↔
    ∀ bytes, .utf8 bytes ∈ slots → bytes.length ≤ 65535 := by
  refine ⟨fun h bytes hb => Nat.le_of_lt_succ (h _ hb), fun h constant hc => ?_⟩
  cases constant with
  | utf8 bytes => exact Nat.lt_succ_of_le (h bytes hc)
  | _ => trivial

end ConstantPool

namespace ClassFile

/-- A class file that the format can represent. -/
structure Representable (file : ClassFile) : Prop where
  /-- Slot zero is reserved. -/
  reserved : file.pool.slots[0]? = some .unusable
  /-- The slots that hold nothing are behind the wide constants, and only there. -/
  paired : ∀ index : Nat, file.pool.slots[index]?.any Constant.isWide = true ↔
    file.pool.slots[index + 1]? = some .unusable
  texts : ∀ bytes, .utf8 bytes ∈ file.pool.slots → bytes.length ≤ 65535
  interfaces : file.interfaces.length ≤ 65535
  fields : Counted Member.Fits file.fields
  methods : Counted Member.Fits file.methods
  attributes : Counted Attribute.Fits file.attributes
  /-- The class has a name. -/
  named : ∃ name bytes, file.pool.get? file.thisClass = some (.classRef name) ∧
    file.pool.get? name = some (.utf8 bytes)

variable {file : ClassFile}

theorem exists_name_iff : (∃ name, file.name = .ok name) ↔
    ∃ name bytes, file.pool.get? file.thisClass = some (.classRef name) ∧
      file.pool.get? name = some (.utf8 bytes) := by
  simp only [name, ConstantPool.className_eq_ok_iff, ConstantPool.utf8_eq_ok_iff]
  constructor
  · rintro ⟨_, name, hc, bytes, hb, rfl⟩
    exact ⟨name, bytes, hc, hb⟩
  · rintro ⟨name, bytes, hc, hb⟩
    exact ⟨_, name, hc, bytes, hb, rfl⟩

theorem representable_iff (hp : file.pool.size ≤ 65535) :
    file.Representable ↔ file.Fits ∧ ∃ name, file.name = .ok name := by
  have texts := @ConstantPool.forall_fits_iff file.pool.slots
  rw [exists_name_iff]
  constructor
  · intro h
    have laid := ConstantPool.laid_iff_paired.mpr ⟨h.reserved, by
      simpa [ConstantPool.Paired] using h.paired⟩
    exact ⟨⟨⟨Nat.lt_succ_of_le hp, laid, texts.mpr h.texts⟩, Nat.lt_succ_of_le h.interfaces,
      h.fields, h.methods, h.attributes⟩, h.named⟩
  · rintro ⟨h, named⟩
    obtain ⟨reserved, paired⟩ := ConstantPool.laid_iff_paired.mp h.pool.laid
    exact ⟨reserved, by simpa [ConstantPool.Paired] using paired, texts.mp h.pool.texts,
      Nat.le_of_lt_succ h.interfaces, h.fields, h.methods, h.attributes, named⟩

/-- A class file whose slots can be counted is read back from its bytes if and only if the format can
represent it. -/
theorem parse_toBytes_iff_representable (hp : file.pool.size ≤ 65535) :
    parse file.toBytes = .ok file ↔ file.Representable := by
  rw [parse_toBytes_iff (Nat.lt_succ_of_le hp), representable_iff hp]

/-- A class file with a wide constant among the others, and with members and attributes. -/
def sampleClass : ClassFile where
  minorVersion := 0
  majorVersion := 52
  pool := ⟨#[.unusable, .utf8 [65], .classRef 1, .long 7, .unusable, .utf8 [66], .integer 1]⟩
  access := 0x21
  thisClass := 2
  superClass := 0
  interfaces := [2]
  fields := [⟨0x2, 5, 5, []⟩]
  methods := [⟨0x1, 5, 1, [⟨5, [1, 2, 3]⟩]⟩]
  attributes := [⟨1, []⟩]

theorem parse_toBytes_sampleClass : sampleClass.pool.size ≤ 65535 ∧ sampleClass.Representable ∧
    parse sampleClass.toBytes = .ok sampleClass := by
  have size : sampleClass.pool.size ≤ 65535 := by decide
  have laid : ConstantPool.Laid sampleClass.pool.slots :=
    ⟨[.utf8 [65], .classRef 1, .long 7, .utf8 [66], .integer 1], by decide, rfl⟩
  obtain ⟨reserved, paired⟩ := ConstantPool.laid_iff_paired.mp laid
  have representable : sampleClass.Representable :=
    { reserved
      paired := by simpa [ConstantPool.Paired] using paired
      texts := by simp [sampleClass]
      interfaces := by decide
      fields := ⟨by decide, List.forall_mem_singleton.mpr ⟨by decide, by simp⟩⟩
      methods := ⟨by decide, List.forall_mem_singleton.mpr ⟨by decide,
        List.forall_mem_singleton.mpr (by decide : 3 < UInt32.size)⟩⟩
      attributes := ⟨by decide, List.forall_mem_singleton.mpr (by decide : 0 < UInt32.size)⟩
      named := ⟨1, [65], rfl, rfl⟩ }
  exact ⟨size, representable, (parse_toBytes_iff_representable size).mpr representable⟩

end ClassFile

end MethodTrace
