import MethodTrace.Proofs.LaidOutCode

/-!
Code that is written for a layout is decoded to the instructions of that layout, at its offsets.

A layout keeps the form of every instruction and the label of every target, so this holds of whatever
can be laid out at all, with the jumps that had to be widened in their wide form.
-/

namespace MethodTrace

open Layout

namespace Reader

variable {α : Type} {reader : Reader α} {bytes : Bytes} {value : α}

theorem takes_lift {e : Except ClassFileError α} (h : e = .ok value) :
    (liftM e : Reader α).Takes [] value := by
  subst h
  exact ⟨fun _ _ => rfl⟩

theorem takes_u16_ofInt (value : Int) :
    ∃ word, u16.Takes (Bytes.ofInt 2 value) word ∧ word.toInt16 = Int16.ofInt value := by
  refine ⟨_, (takes_number 2 _).bind_pure (f := UInt16.ofNat), ?_⟩
  apply Int16.toBitVec_inj.mp
  apply BitVec.eq_of_toNat_eq
  change (BitVec.ofNat 16 ((value % (65536 : Nat)).toNat % 65536)).toNat
    = (BitVec.ofInt 16 value).toNat
  rw [BitVec.toNat_ofNat, BitVec.toNat_ofInt]
  omega

/-- A reader that makes a value of the front of any slice, whatever it leaves. -/
structure Sees (reader : Reader α) (bytes : Bytes) (value : α) : Prop where
  onPart : ∀ extent rest, ∃ left, reader.onPart extent (bytes ++ rest) = .ok (value, left)

theorem Takes.sees (h : reader.Takes bytes value) : reader.Sees bytes value :=
  ⟨fun extent rest => ⟨rest, h.onPart extent rest⟩⟩

end Reader

theorem Opcode.not_isShortBranch_of_isLongBranch {opcode : Opcode}
    (h : opcode.isLongBranch = true) : opcode.isShortBranch = false := by
  simp only [isLongBranch, Bool.or_eq_true, beq_iff_eq] at h
  rcases h with rfl | rfl <;> rfl

namespace Instruction

variable {total offset target : Nat} {delta : Int}

theorem takes_readShortJump (ht : offset + delta = target) (hle : target ≤ total)
    (hs : fitsShort delta = true) :
    (readShortJump total offset).Takes (Bytes.ofInt 2 delta) target := by
  obtain ⟨word, read, hw⟩ := Reader.takes_u16_ofInt delta
  have fits : word.toInt16.toInt = delta := by
    simp only [fitsShort, Bool.and_eq_true, decide_eq_true_eq] at hs
    rw [hw, Int16.toInt_ofInt_of_le (by omega) (by omega)]
  have lands : jump total offset word.toInt16.toInt = .ok target := by
    rw [jump, fits, ht]
    rw [if_neg (by omega)]
    rfl
  rw [← List.append_nil (Bytes.ofInt 2 delta)]
  exact read.bind (Reader.takes_lift lands)

theorem takes_readLongJump (ht : offset + delta = target) (hle : target ≤ total)
    (hl : -2 ^ 31 ≤ delta ∧ delta < 2 ^ 31) :
    (readLongJump total offset).Takes (Bytes.ofInt 4 delta) target := by
  have lands : jump total offset (Int32.ofInt delta).toInt = .ok target := by
    rw [Int32.toInt_ofInt_of_le hl.1 hl.2, jump, ht]
    rw [if_neg (by omega)]
    rfl
  rw [← List.append_nil (Bytes.ofInt 4 delta)]
  exact (Reader.takes_i32 delta).bind (Reader.takes_lift lands)

variable {offsets : Array Nat} {label : Label} {insn : Instruction}

theorem offsetAt_add_delta (offsets : Array Nat) (source target : Label) :
    (offsetAt offsets source : Int) + Layout.delta offsets source target
      = offsetAt offsets target := by
  rw [Layout.delta, offsetAt, offsetAt]
  omega

theorem takes_longJump (hl : offsetAt offsets label ≤ total) (ht : offsetAt offsets target ≤ total)
    (hs : total ≤ maxCodeLength) : (readLongJump total (offsetAt offsets label)).Takes
      (Bytes.ofInt 4 (Layout.delta offsets label target)) (offsetAt offsets target) := by
  have lands := offsetAt_add_delta offsets label target
  refine takes_readLongJump lands ht ?_
  unfold maxCodeLength at hs
  omega

theorem length_ofInt (width : Nat) (value : Int) : (Bytes.ofInt width value).length = width :=
  Bytes.length_bigEndian width _

/-- The bytes of an instruction take the room that it has. -/
theorem length_operands (offsets : Array Nat) (label : Label) (insn : Instruction) :
    (operands offsets label insn).length + 1 = insn.size (offsetAt offsets label) := by
  cases insn with
  | plain => simp [operands, size, Nat.add_comm]
  | branch opcode target =>
    simp only [operands, size, length_ofInt]
    split <;> rfl
  | tableSwitch fallback =>
    simp only [operands, size, List.length_append, List.length_replicate, length_ofInt,
      List.length_flatMap, List.map_const', List.sum_replicate, smul_eq_mul, offsetAt]
    omega
  | lookupSwitch fallback pairs =>
    simp only [operands, size, List.length_append, List.length_replicate, length_ofInt,
      Bytes.length_bigEndian, List.length_flatMap, List.map_const', List.sum_replicate,
      smul_eq_mul, offsetAt]
    omega

theorem int32_ofNat_last {low : Int32} {count : Nat} (hp : 0 < count)
    (hl : low.toInt + count - 1 ≤ Int32.maxValue.toInt) :
    (low + Int32.ofNat count - 1).toInt = low.toInt + count - 1 := by
  have least := low.le_toInt
  have greatest : Int32.maxValue.toInt = 2147483647 := rfl
  have same : low + Int32.ofNat count - 1 = Int32.ofInt (low.toInt + count - 1) := by
    rw [Int32.ofInt_sub, Int32.ofInt_add, Int32.ofInt_toInt]
    rfl
  rw [same, Int32.toInt_ofInt_of_le (by omega) (by omega)]

theorem takes_readTableSwitch {fallback : Label} {low : Int32} {targets : List Label}
    (hne : targets ≠ []) (hlast : low.toInt + targets.length - 1 ≤ Int32.maxValue.toInt)
    (hlabel : offsetAt offsets label ≤ total) (hfallback : offsetAt offsets fallback ≤ total)
    (htargets : ∀ t ∈ targets, offsetAt offsets t ≤ total) (hcount : targets.length ≤ total)
    (hs : total ≤ maxCodeLength) :
    (readTableSwitch total (offsetAt offsets label)).Takes
      (operands offsets label (tableSwitch fallback low targets))
      (tableSwitch (offsetAt offsets fallback) low (targets.map (offsetAt offsets))) := by
  have pos : 0 < targets.length := List.length_pos_of_ne_nil hne
  have last := int32_ofNat_last pos hlast
  have rows := (Reader.takes_times (f := offsetAt offsets)
    fun t ht => takes_longJump hlabel (htargets t ht) hs).bind_pure
    (f := tableSwitch (offsetAt offsets fallback) low)
  have read : (readTableSwitch total (offsetAt offsets label)).Takes
      (List.replicate (padding (offsetAt offsets label)) 0
        ++ (Bytes.ofInt 4 (Layout.delta offsets label fallback) ++ (Bytes.ofInt 4 low.toInt
        ++ (Bytes.ofInt 4 (low + Int32.ofNat targets.length - 1).toInt
        ++ targets.flatMap fun t => Bytes.ofInt 4 (Layout.delta offsets label t)))))
      (tableSwitch (offsetAt offsets fallback) low (targets.map (offsetAt offsets))) := by
    refine (Reader.takes_take List.length_replicate).bind ?_
    refine (takes_longJump hlabel hfallback hs).bind ?_
    refine (Reader.takes_i32 _).bind ?_
    refine (Reader.takes_i32 _).bind ?_
    rw [Int32.ofInt_toInt, Int32.ofInt_toInt]
    rw [if_neg (by rw [Int32.lt_iff_toInt_lt]; omega)]
    have count : ((low + Int32.ofNat targets.length - 1).toInt - low.toInt + 1).toNat
        = targets.length := by omega
    rw [count]
    dsimp only
    rw [if_neg (by omega)]
    exact rows
  exact read.congr (by simp [operands, offsetAt])

theorem takes_readLookupSwitch {fallback : Label} {pairs : List (Int32 × Label)}
    (hlabel : offsetAt offsets label ≤ total) (hfallback : offsetAt offsets fallback ≤ total)
    (htargets : ∀ pair ∈ pairs, offsetAt offsets pair.2 ≤ total) (hcount : pairs.length ≤ total)
    (hs : total ≤ maxCodeLength) :
    (readLookupSwitch total (offsetAt offsets label)).Takes
      (operands offsets label (lookupSwitch fallback pairs))
      (lookupSwitch (offsetAt offsets fallback)
        (pairs.map fun pair => (pair.1, offsetAt offsets pair.2))) := by
  have small : pairs.length ≤ 65535 := hcount.trans hs
  have number : (Int32.ofInt pairs.length).toInt = pairs.length :=
    Int32.toInt_ofInt_of_le (by omega) (by omega)
  have row (pair : Int32 × Label) (hp : pair ∈ pairs) : (do
      let key ← Reader.i32
      return (key, ← readLongJump total (offsetAt offsets label)) : Reader (Int32 × Label)).Takes
      (Bytes.ofInt 4 pair.1.toInt ++ Bytes.ofInt 4 (Layout.delta offsets label pair.2))
      (pair.1, offsetAt offsets pair.2) := by
    refine (Reader.takes_i32 _).bind ?_
    rw [Int32.ofInt_toInt]
    exact (takes_longJump hlabel (htargets pair hp) hs).bind_pure
  have rows := (Reader.takes_times row).bind_pure (f := lookupSwitch (offsetAt offsets fallback))
  have read : (readLookupSwitch total (offsetAt offsets label)).Takes
      (List.replicate (padding (offsetAt offsets label)) 0
        ++ (Bytes.ofInt 4 (Layout.delta offsets label fallback) ++ (Bytes.ofInt 4 pairs.length
        ++ pairs.flatMap fun pair => Bytes.ofInt 4 pair.1.toInt
          ++ Bytes.ofInt 4 (Layout.delta offsets label pair.2))))
      (lookupSwitch (offsetAt offsets fallback)
        (pairs.map fun pair => (pair.1, offsetAt offsets pair.2))) := by
    refine (Reader.takes_take List.length_replicate).bind ?_
    refine (takes_longJump hlabel hfallback hs).bind ?_
    refine (Reader.takes_i32 _).bind ?_
    have fits : ¬(Int32.ofInt pairs.length < 0
        ∨ total < (Int32.ofInt pairs.length).toInt.toNat) := by
      rw [Int32.lt_iff_toInt_lt, number, Int32.toInt_zero]
      omega
    dsimp only
    rw [if_neg fits, number, Int.toNat_natCast]
    exact rows
  exact read.congr (by simp [operands, offsetAt, Bytes.ofInt_natCast])

theorem sees_readWide {inner : Opcode} {operands : Bytes} (takes : inner.takesWide = true)
    (length : operands.length = if inner = Opcode.iinc then 4 else 2) :
    (readWide total offset).Sees (inner :: operands) (plain Opcode.wide (inner :: operands)) := by
  refine ⟨fun extent rest => ?_⟩
  have extentOf : (if inner = Opcode.iinc then 5 else 3) = (inner :: operands).length := by
    rw [List.length_cons, length]
    split <;> rfl
  have first : Reader.u8.onPart extent (inner :: operands ++ rest)
      = .ok (inner, operands ++ rest) := by
    have read := (Reader.takes_u8 inner).onPart extent (operands ++ rest)
    have byte : Bytes.ofUInt8 inner = [inner] := by
      simp [Bytes.ofUInt8, Bytes.bigEndian, Bytes.littleEndian]
    rwa [byte] at read
  refine ⟨operands ++ rest, ?_⟩
  rw [readWide, Reader.get_bind_onPart, Reader.bind_onPart_iff]
  refine ⟨inner, operands ++ rest, first, ?_⟩
  rw [takes]
  dsimp only
  rw [extentOf, List.take_left, if_neg (by simp), if_neg (Nat.lt_irrefl _)]
  rfl

/-- An instruction is read from its bytes with offsets for targets. -/
theorem sees_readAfter (h : insn.Formed)
    (hroom : offsetAt offsets label + insn.size (offsetAt offsets label) ≤ total)
    (htargets : ∀ t ∈ insn.targets, offsetAt offsets t ≤ total) (hs : total ≤ maxCodeLength)
    (hreach : overflows offsets label insn = false) :
    (readAfter total (offsetAt offsets label) insn.opcode).Sees (operands offsets label insn)
      (insn.mapTargets (offsetAt offsets)) := by
  have hlabel : offsetAt offsets label ≤ total := by omega
  unfold readAfter
  cases h with
  | @plain opcode bytes short long table lookup wide length =>
    simp only [Instruction.opcode, short, long, table, lookup, wide, length, if_false,
      Bool.false_eq_true]
    exact ((Reader.takes_take rfl).bind_pure (f := plain opcode)).sees
  | @wide inner bytes takes length =>
    exact sees_readWide takes length
  | @branch opcode target h =>
    have ht : offsetAt offsets target ≤ total := htargets target (by simp [targets])
    rcases h with short | long
    · have fits : fitsShort (Layout.delta offsets label target) = true := by
        simpa [overflows, short] using hreach
      have long : opcode.isLongBranch = false := by
        by_contra hn
        have := Opcode.not_isShortBranch_of_isLongBranch (Bool.eq_true_of_not_eq_false hn)
        simp [short] at this
      simp only [Instruction.opcode, short, if_true]
      have read := (takes_readShortJump (offsetAt_add_delta offsets label target) ht fits).bind_pure
        (f := branch opcode)
      exact (read.congr (by simp [operands, long])).sees
    · have short := Opcode.not_isShortBranch_of_isLongBranch long
      simp only [Instruction.opcode, short, long, if_true, Bool.false_eq_true, if_false]
      have read := (takes_longJump hlabel ht hs).bind_pure (f := branch opcode)
      exact (read.congr (by simp [operands, long])).sees
  | @tableSwitch fallback low targets ne_nil last =>
    have count : targets.length ≤ total := by
      simp only [size] at hroom
      omega
    exact (takes_readTableSwitch ne_nil last hlabel (htargets _ (by simp [Instruction.targets]))
      (fun t ht => htargets t (by simp [Instruction.targets, ht])) count hs).sees
  | lookupSwitch fallback pairs =>
    have count : pairs.length ≤ total := by
      simp only [size] at hroom
      omega
    refine (takes_readLookupSwitch hlabel (htargets _ (by simp [Instruction.targets]))
      (fun pair hp => htargets pair.2 ?_) count hs).sees
    exact List.mem_cons_of_mem _ (List.mem_map_of_mem hp)

theorem mapTargetsM_mapTargets {ε : Type} {f : Label → Except ε Label} {g : Label → Label}
    (h : ∀ t ∈ insn.targets, f (g t) = .ok t) : (insn.mapTargets g).mapTargetsM f = .ok insn := by
  cases insn with
  | plain => rfl
  | branch opcode target =>
    exact Except.bind_eq_ok_iff.mpr ⟨target, h target (by simp [targets]), rfl⟩
  | tableSwitch fallback low all =>
    have back : (all.map g).mapM f = .ok all := by
      rw [Except.mapM_eq_ok_iff, List.forall₂_map_left_iff, List.forall₂_same]
      exact fun t ht => h t (by simp [targets, ht])
    exact Except.bind_eq_ok_iff.mpr ⟨fallback, h fallback (by simp [targets]),
      Except.bind_eq_ok_iff.mpr ⟨all, back, rfl⟩⟩
  | lookupSwitch fallback pairs =>
    have back : (pairs.map fun p => (p.1, g p.2)).mapM
        (fun p => return (p.1, ← f p.2)) = .ok pairs := by
      rw [Except.mapM_eq_ok_iff, List.forall₂_map_left_iff, List.forall₂_same]
      intro pair hp
      exact Except.bind_eq_ok_iff.mpr
        ⟨pair.2, h pair.2 (List.mem_cons_of_mem _ (List.mem_map_of_mem hp)), rfl⟩
    exact Except.bind_eq_ok_iff.mpr ⟨fallback, h fallback (by simp [targets]),
      Except.bind_eq_ok_iff.mpr ⟨pairs, back, rfl⟩⟩

theorem size_mapTargets (insn : Instruction) (f : Label → Label) (offset : Nat) :
    (insn.mapTargets f).size offset = insn.size offset := by
  cases insn <;> simp [mapTargets, size]

end Instruction

namespace Layout

/-- The bytes of instructions whose first one has a label. -/
def encodeFrom (offsets : Array Nat) (label : Label) : List Instruction → Bytes
  | [] => []
  | insn :: rest => insn.opcode :: operands offsets label insn ++ encodeFrom offsets (label + 1) rest

theorem encode_eq (instructions : Array Instruction) (offsets : Array Nat) :
    encode instructions offsets = encodeFrom offsets 0 instructions.toList := by
  unfold encode
  generalize instructions.toList = insns
  generalize 0 = label
  induction insns generalizing label with
  | nil => rfl
  | cons insn insns ih => simp [List.zipIdx_cons, encodeFrom, ih]

theorem take_succ_offsets {offsets : Array Nat} {label : Nat} (h : label < offsets.size) :
    offsets.toList.take (label + 1) = offsets.toList.take label ++ [offsetAt offsets label] := by
  rw [List.take_add_one, Array.getElem?_toList, offsetAt, Array.getElem?_eq_getElem h]
  rfl

theorem of_drop_eq_cons {instructions : Array Instruction} {label : Nat} {insn : Instruction}
    {rest : List Instruction} (h : instructions.toList.drop label = insn :: rest) :
    instructions[label]? = some insn ∧ instructions.toList.drop (label + 1) = rest := by
  constructor
  · rw [← Array.getElem?_toList, ← List.head?_drop, h]
    rfl
  · rw [← List.tail_drop, h]
    rfl

theorem Spaced.length_encodeFrom {instructions : Array Instruction} {offsets : Array Nat}
    (h : Spaced instructions offsets) {label : Nat} {rest : List Instruction}
    (hr : instructions.toList.drop label = rest) (hl : label ≤ instructions.size) :
    offsetAt offsets label + (encodeFrom offsets label rest).length
      = offsetAt offsets instructions.size := by
  induction rest generalizing label with
  | nil =>
    have : instructions.size ≤ label := by simpa using hr
    rw [encodeFrom, Nat.le_antisymm hl this]
    rfl
  | cons insn rest ih =>
    obtain ⟨hi, next⟩ := of_drop_eq_cons hr
    have lt := (Array.getElem?_eq_some_iff.mp hi).1
    have room := Instruction.length_operands offsets label insn
    have step := h.step label insn hi
    have tail := ih next lt
    simp only [encodeFrom, List.length_append, List.length_cons]
    omega

theorem Spaced.length_toCode {layout : Layout} (h : Spaced layout.instructions layout.offsets) :
    layout.toCode.length = offsetAt layout.offsets layout.instructions.size := by
  have length := h.length_encodeFrom rfl (Nat.zero_le _)
  rw [toCode, encode_eq]
  rw [h.start] at length
  simpa using length

/-- Instructions that can be read back once they are laid out. -/
structure Readable (layout : Layout) : Prop extends layout.Settled where
  formed : ∀ insn ∈ layout.instructions, insn.Formed
  targets_le : ∀ insn ∈ layout.instructions, ∀ t ∈ insn.targets, t ≤ layout.instructions.size

namespace Readable

variable {layout : Layout}

theorem cut_encodeFrom (h : layout.Readable) {label : Nat} {rest : List Instruction}
    (hr : layout.instructions.toList.drop label = rest) (hl : label ≤ layout.instructions.size) :
    Decoded.cut (offsetAt layout.offsets layout.instructions.size) (offsetAt layout.offsets label)
      (encodeFrom layout.offsets label rest)
      ⟨((layout.instructions.toList.take label).map (·.mapTargets (offsetAt layout.offsets))).toArray,
        (layout.offsets.toList.take label).toArray⟩
      = .ok ⟨layout.instructions.map (·.mapTargets (offsetAt layout.offsets)), layout.offsets⟩ := by
  have size := h.spaced.size
  induction rest generalizing label with
  | nil =>
    have le : layout.instructions.size ≤ label := by simpa using hr
    obtain rfl := Nat.le_antisymm hl le
    have whole := @take_succ_offsets layout.offsets layout.instructions.size (by omega)
    rw [← size, ← Array.length_toList, List.take_length] at whole
    have all : layout.instructions.toList.take layout.instructions.size
        = layout.instructions.toList := by
      rw [← Array.length_toList, List.take_length]
    rw [encodeFrom, Decoded.cut, all, ← List.map_toArray, Array.toArray_toList]
    simp [← whole]
  | cons insn rest ih =>
    obtain ⟨hi, next⟩ := of_drop_eq_cons hr
    have lt := (Array.getElem?_eq_some_iff.mp hi).1
    have hm := Array.mem_of_getElem? hi
    have formed := h.formed insn hm
    have room := Instruction.length_operands layout.offsets label insn
    have step := h.spaced.step label insn hi
    have inside : offsetAt layout.offsets (label + 1)
        ≤ offsetAt layout.offsets layout.instructions.size := h.spaced.le lt le_rfl
    have within : ∀ t ∈ insn.targets, offsetAt layout.offsets t
        ≤ offsetAt layout.offsets layout.instructions.size :=
      fun t ht => h.spaced.le (h.targets_le insn hm t ht) le_rfl
    have read := Instruction.sees_readAfter formed (by omega) within h.short
      (h.reaches label insn hi)
    rw [encodeFrom, List.cons_append]
    obtain ⟨left, ho⟩ := read.onPart (offsetAt layout.offsets layout.instructions.size
      - offsetAt layout.offsets label - 1) (encodeFrom layout.offsets (label + 1) rest)
    refine Decoded.cut_cons_eq_ok_iff.mpr ⟨_, left, ho, ?_⟩
    rw [Instruction.size_mapTargets, ← step, ← room, Nat.add_sub_cancel, List.drop_left]
    refine ⟨inside, ?_⟩
    have more : layout.instructions.toList.take (label + 1)
        = layout.instructions.toList.take label ++ [insn] := by
      rw [List.take_add_one, Array.getElem?_toList, hi]
      rfl
    have cut := ih next lt
    rw [more, take_succ_offsets (by omega)] at cut
    simpa using cut

/-- What is laid out is decoded. -/
theorem ofCode_toCode (h : layout.Readable) :
    Decoded.ofCode layout.toCode = .ok ⟨layout.instructions, layout.offsets⟩ := by
  have cut := @cut_encodeFrom _ h 0 _ rfl (Nat.zero_le _)
  rw [h.spaced.start, ← encode_eq] at cut
  rw [← h.spaced.length_toCode] at cut
  refine Decoded.ofCode_eq_ok_iff.mpr ⟨_, cut, rfl, ?_⟩
  rw [Array.toList_map, List.forall₂_map_left_iff, List.forall₂_same]
  intro insn hi
  refine Instruction.mapTargetsM_mapTargets fun t ht => ?_
  exact @Spaced.labelAt_offsetAt _ ⟨_, layout.offsets⟩ h.spaced _
    (h.targets_le insn (Array.mem_toList_iff.mp hi) t ht)

end Readable

end Layout

variable {instructions : Array Instruction} {result : Layout}

/-- What is laid out can be read back if bytecode has a form for every instruction and every jump
stays within the labels. -/
theorem layout_readable (formed : ∀ insn ∈ instructions, insn.Formed)
    (targets : ∀ insn ∈ instructions, ∀ t ∈ insn.targets, t ≤ instructions.size)
    (h : layout instructions = .ok result) : result.Readable := by
  have widened := layout_widened h
  refine ⟨layout_settled h, ?_, ?_⟩
  · intro insn hi
    obtain ⟨former, hf, hw⟩ := widened.exists_former hi
    exact (formed former hf).widens hw
  · intro insn hi
    obtain ⟨former, hf, hw⟩ := widened.exists_former hi
    rw [hw.targets, widened.size]
    exact targets former hf

end MethodTrace
