import MethodTrace.Proofs.BoundaryTables
import MethodTrace.Proofs.LayoutRounds
import MethodTrace.Proofs.SpelledSlices

/-!
Code that is decoded is spelled by its instructions, but for the padding of switches.

Every reader of an instruction takes the bytes that the instruction is written in at the offset where
it stands, and a jump that was read from two bytes still fits into two. So the offsets that are met
while code is cut are those of a layout of the instructions, in which nothing has to be widened, and
writing that layout gives back the code with zeros for its padding.
-/

namespace MethodTrace

open Layout

namespace Bytes

/-- A word is written alike whether or not it is taken as signed. -/
theorem ofInt_toInt {width bits : Nat} (word : BitVec bits) (h : limit width = 2 ^ bits) :
    ofInt width word.toInt = bigEndian width word.toNat := by
  have same : word.toInt % (limit width : Nat) = (word.toNat : Int) % (limit width : Nat) := by
    rw [h, BitVec.toInt_eq_toNat_bmod, Int.bmod_emod]
  rw [← ofInt_natCast, ofInt, ofInt, same]

theorem ofInt_toInt16 (word : UInt16) : ofInt 2 word.toInt16.toInt = ofUInt16 word :=
  ofInt_toInt word.toBitVec rfl

theorem ofInt_toInt32 (word : UInt32) : ofInt 4 word.toInt32.toInt = ofUInt32 word :=
  ofInt_toInt word.toBitVec rfl

end Bytes

namespace Reader

variable {α : Type} {reader : Reader α} {P : α → Bytes → Prop}

theorem Spells.lift {e : Except ClassFileError α} (h : ∀ value, e = .ok value → P value []) :
    (liftM e : Reader α).Spells P := by
  cases e with
  | error e => exact .throw e
  | ok value => exact .pure (h value rfl)

theorem spells_i32 : i32.Spells fun value taken => taken = Bytes.ofInt 4 value.toInt := by
  refine .bind spells_u32 ?_
  rintro word _ rfl
  exact .pure (by rw [List.append_nil, Bytes.ofInt_toInt32])

/-- A reader of which each value is in a relation to the front of the slice, whatever it leaves. -/
structure Shows (reader : Reader α) (P : α → Bytes → Prop) : Prop where
  of_ok : ∀ {extent slice value rest}, slice.length ≤ extent →
    reader.onPart extent slice = .ok (value, rest) → ∃ front behind,
      slice = front ++ behind ∧ P value front

theorem Spells.shows (h : reader.Spells P) : reader.Shows P := by
  refine ⟨fun hx hr => ?_⟩
  obtain ⟨taken, rfl, hp⟩ := h.of_ok hx hr
  exact ⟨taken, _, rfl, hp⟩

theorem Shows.ite {c : Prop} [Decidable c] {other : Reader α} (h : c → reader.Shows P)
    (ho : ¬c → other.Shows P) : (if c then reader else other).Shows P := by
  split
  · next hc => exact h hc
  · next hc => exact ho hc

end Reader

namespace Instruction

/-- The padding between the opcode of an instruction at an offset and its operands. -/
def gap (offset : Nat) : Instruction → Nat
  | tableSwitch _ _ _ | lookupSwitch _ _ => padding offset
  | plain _ _ | branch _ _ => 0

/-- The operands of an instruction at an offset, behind its padding; its targets are offsets too. -/
def spelling (offset : Nat) : Instruction → Bytes
  | plain _ operands => operands
  | branch opcode target => Bytes.ofInt (if opcode.isLongBranch then 4 else 2) (target - offset)
  | tableSwitch fallback low targets =>
    Bytes.ofInt 4 (fallback - offset) ++ Bytes.ofInt 4 low.toInt
      ++ Bytes.ofInt 4 (low + Int32.ofNat targets.length - 1).toInt
      ++ targets.flatMap fun (target : Label) => Bytes.ofInt 4 (target - offset)
  | lookupSwitch fallback pairs =>
    Bytes.ofInt 4 (fallback - offset) ++ Bytes.bigEndian 4 pairs.length
      ++ pairs.flatMap fun (key, target) =>
        Bytes.ofInt 4 key.toInt ++ Bytes.ofInt 4 (target - offset)

/-- Whether a short branch at an offset reaches the offset that is its target. -/
def reaches (offset : Nat) : Instruction → Bool
  | branch opcode target => !opcode.isShortBranch || fitsShort (target - offset)
  | _ => true

variable {insn : Instruction} {total offset : Nat} {offsets : Array Nat} {label : Label}

theorem operands_eq (offsets : Array Nat) (label : Label) (insn : Instruction) :
    operands offsets label insn = List.replicate (insn.gap (offsetAt offsets label)) 0
      ++ (insn.mapTargets (offsetAt offsets)).spelling (offsetAt offsets label) := by
  cases insn with
  | plain => rfl
  | branch => rfl
  | tableSwitch fallback low targets =>
    simp [operands, gap, mapTargets, spelling, List.flatMap_map, delta, offsetAt]
  | lookupSwitch fallback pairs =>
    simp [operands, gap, mapTargets, spelling, List.flatMap_map, delta, offsetAt]

theorem gap_mapTargets (insn : Instruction) (f : Label → Label) (offset : Nat) :
    (insn.mapTargets f).gap offset = insn.gap offset := by
  cases insn <;> rfl

theorem size_eq (offset : Nat) (insn : Instruction) :
    insn.size offset = 1 + insn.gap offset + (insn.spelling offset).length := by
  cases insn with
  | plain => rfl
  | branch opcode target =>
    simp only [size, gap, spelling, length_ofInt]
    split <;> rfl
  | tableSwitch => simp [size, gap, spelling, length_ofInt]; omega
  | lookupSwitch => simp [size, gap, spelling, length_ofInt]; omega

theorem overflows_eq (offsets : Array Nat) (label : Label) (insn : Instruction) :
    overflows offsets label insn
      = !(insn.mapTargets (offsetAt offsets)).reaches (offsetAt offsets label) := by
  cases insn with
  | branch opcode target => simp [overflows, mapTargets, reaches, delta, offsetAt]
  | _ => rfl

/-- The bytes after an opcode at an offset that an instruction is read from. -/
structure Follows (opcode : Opcode) (offset : Nat) (insn : Instruction) (bytes : Bytes) : Prop where
  opcode_eq : insn.opcode = opcode
  spelled : ∃ zeros, bytes = zeros ++ insn.spelling offset ∧ zeros.length = insn.gap offset
  reaches : insn.reaches offset = true

theorem jump_eq_ok {delta : Int} {target : Nat} (h : jump total offset delta = .ok target) :
    (target : Int) - offset = delta := by
  unfold jump at h
  dsimp only at h
  split at h
  · cases h
  · cases h
    omega

theorem spells_readShortJump : (readShortJump total offset).Spells fun target taken =>
    taken = Bytes.ofInt 2 (target - offset) ∧ fitsShort (target - offset) = true := by
  refine .bind Reader.spells_u16 ?_
  rintro word _ rfl
  refine .lift fun target h => ?_
  have least := word.toInt16.le_toInt
  have greatest := word.toInt16.toInt_le
  rw [jump_eq_ok h, List.append_nil, Bytes.ofInt_toInt16]
  refine ⟨rfl, ?_⟩
  simpa [fitsShort] using ⟨least, greatest⟩

theorem spells_readLongJump : (readLongJump total offset).Spells fun target taken =>
    taken = Bytes.ofInt 4 (target - offset) := by
  refine .bind Reader.spells_i32 ?_
  rintro word _ rfl
  refine .lift fun target h => ?_
  rw [jump_eq_ok h, List.append_nil]

theorem spells_readTableSwitch :
    (readTableSwitch total offset).Spells (Follows Opcode.tableswitch offset) := by
  refine .bind (Reader.spells_take _) ?_
  rintro _ zeros ⟨rfl, hz⟩
  refine .bind spells_readLongJump ?_
  rintro fallback _ rfl
  refine .bind Reader.spells_i32 ?_
  rintro low _ rfl
  refine .bind Reader.spells_i32 ?_
  rintro high _ rfl
  refine .ite (fun _ => .throw_bind _ _) fun ordered => ?_
  refine .ite (fun _ => .throw_bind _ _) fun _ => ?_
  refine .bind (Reader.spells_times spells_readLongJump _) ?_
  rintro targets _ ⟨length, rfl⟩
  have le : low.toInt ≤ high.toInt := by
    rw [Int32.lt_iff_toInt_lt] at ordered
    omega
  have bound := high.toInt_le
  have last : (low + Int32.ofNat targets.length - 1).toInt = high.toInt := by
    rw [int32_ofNat_last (by omega) (by omega)]
    omega
  refine .pure ⟨rfl, ⟨zeros, ?_, hz⟩, rfl⟩
  simp [spelling, last]

theorem spells_readLookupSwitch :
    (readLookupSwitch total offset).Spells (Follows Opcode.lookupswitch offset) := by
  refine .bind (Reader.spells_take _) ?_
  rintro _ zeros ⟨rfl, hz⟩
  refine .bind spells_readLongJump ?_
  rintro fallback _ rfl
  refine .bind Reader.spells_i32 ?_
  rintro count _ rfl
  refine .ite (fun _ => .throw_bind _ _) fun fits => ?_
  have pair : (do
      let key ← Reader.i32
      return (key, ← readLongJump total offset) : Reader (Int32 × Label)).Spells
      fun pair taken => taken = Bytes.ofInt 4 pair.1.toInt ++ Bytes.ofInt 4 (pair.2 - offset) := by
    refine .bind Reader.spells_i32 ?_
    rintro key _ rfl
    refine .bind spells_readLongJump ?_
    rintro target _ rfl
    exact .pure (by rw [List.append_nil])
  refine .bind (Reader.spells_times pair _) ?_
  rintro pairs _ ⟨length, rfl⟩
  have number : count.toInt = pairs.length := by
    rw [Int32.lt_iff_toInt_lt, Int32.toInt_zero] at fits
    omega
  refine .pure ⟨rfl, ⟨zeros, ?_, hz⟩, rfl⟩
  simp [spelling, number, Bytes.ofInt_natCast]

theorem shows_readWide : (readWide total offset).Shows (Follows Opcode.wide offset) := by
  refine ⟨fun {extent slice value rest} _ h => ?_⟩
  rw [readWide, Reader.get_bind_onPart, Reader.bind_onPart_iff] at h
  obtain ⟨inner, left, _, h⟩ := h
  have front : value = plain Opcode.wide (slice.take (if inner = Opcode.iinc then 5 else 3)) :=
    Reader.Yields.of_ok (P := (· = _)) (.ite (fun _ => .throw_bind _ _) fun _ =>
      .ite (fun _ => .throw_bind _ _) fun _ => .pure rfl) h
  subst front
  exact ⟨_, _, (List.take_append_drop _ slice).symm, rfl, ⟨[], rfl, rfl⟩, rfl⟩

/-- What is read after an opcode is spelled by the bytes that follow it. -/
theorem shows_readAfter (opcode : Opcode) :
    (readAfter total offset opcode).Shows (Follows opcode offset) := by
  unfold readAfter
  refine .ite (fun short => ?_) fun short => ?_
  · have long : opcode.isLongBranch = false := by
      by_contra hn
      have := Opcode.not_isShortBranch_of_isLongBranch (Bool.eq_true_of_not_eq_false hn)
      simp [short] at this
    refine (Reader.Spells.bind spells_readShortJump ?_).shows
    rintro target _ ⟨rfl, fits⟩
    exact .pure ⟨rfl, ⟨[], by simp [spelling, long], rfl⟩, by simp [reaches, fits]⟩
  refine .ite (fun long => ?_) fun _ => ?_
  · refine (Reader.Spells.bind spells_readLongJump ?_).shows
    rintro target _ rfl
    exact .pure ⟨rfl, ⟨[], by simp [spelling, long], rfl⟩, by simp [reaches, short]⟩
  refine .ite (fun table => table ▸ spells_readTableSwitch.shows) fun _ => ?_
  refine .ite (fun lookup => lookup ▸ spells_readLookupSwitch.shows) fun _ => ?_
  refine .ite (fun wide => wide ▸ shows_readWide) fun _ => ?_
  split
  · refine (Reader.Spells.bind (Reader.spells_take _) ?_).shows
    rintro _ operands ⟨rfl, _⟩
    exact .pure ⟨rfl, ⟨[], by simp [spelling], rfl⟩, rfl⟩
  · exact (Reader.Spells.throw _).shows

end Instruction

namespace Decoded

open Instruction (gap reaches spelling Follows)

/-- Code from an offset on, and the instructions with offsets for targets that spell it. -/
inductive Spelled : Nat → List Instruction → Bytes → Prop
  | nil (offset : Nat) : Spelled offset [] []
  | cons {offset : Nat} {insn : Instruction} {insns : List Instruction} {zeros code : Bytes}
      (length : zeros.length = insn.gap offset) (reaches : insn.reaches offset = true)
      (rest : Spelled (offset + insn.size offset) insns code) :
      Spelled offset (insn :: insns) (insn.opcode :: (zeros ++ insn.spelling offset) ++ code)

variable {total offset : Nat} {code : Bytes} {before decoded : Decoded}

/-- Cutting finds instructions that spell the code, and the offsets where they stand. -/
theorem cut_spelled (h : cut total offset code before = .ok decoded)
    (hx : offset + code.length = total) : ∃ insns, Spelled offset insns code ∧
      decoded.instructions.toList = before.instructions.toList ++ insns ∧
      decoded.offsets = offsetsFrom offset insns before.offsets := by
  induction offset, code, before using cut.induct with
  | case1 offset before =>
    rw [cut] at h
    cases h
    rw [List.length_nil, Nat.add_zero] at hx
    exact ⟨[], .nil offset, by simp, by simp [offsetsFrom, hx]⟩
  | case2 offset before opcode rest ih =>
    obtain ⟨insn, left, hr, room, h⟩ := cut_cons_eq_ok_iff.mp h
    rw [List.length_cons] at hx
    obtain ⟨front, behind, rfl, follows⟩ :=
      (Instruction.shows_readAfter opcode).of_ok (by omega) hr
    obtain ⟨zeros, rfl, length⟩ := follows.spelled
    have size := insn.size_eq offset
    have taken : (zeros ++ insn.spelling offset).length = insn.size offset - 1 := by
      rw [List.length_append]
      omega
    have next := ih insn
    dsimp only at next
    rw [List.drop_left' taken] at h next
    rw [List.length_append] at hx
    obtain ⟨insns, spelled, list, offsets⟩ := next h (by omega)
    refine ⟨insn :: insns, ?_, ?_, offsets⟩
    · rw [← follows.opcode_eq]
      exact .cons length follows.reaches spelled
    · rw [list]
      simp

end Decoded

namespace Instruction

/-- The targets of an instruction are back when a function undoes what they were mapped by. -/
theorem mapTargets_of_mapTargetsM {ε : Type} {f : Label → Except ε Label} {g : Label → Label}
    {insn mapped : Instruction} (h : insn.mapTargetsM f = .ok mapped)
    (back : ∀ target label, f target = .ok label → g label = target) :
    mapped.mapTargets g = insn := by
  cases insn with
  | plain =>
    cases h
    rfl
  | branch opcode target =>
    obtain ⟨label, hl, h⟩ := Except.bind_eq_ok_iff.mp h
    cases h
    rw [mapTargets, back _ _ hl]
  | tableSwitch fallback low targets =>
    obtain ⟨label, hl, h⟩ := Except.bind_eq_ok_iff.mp h
    obtain ⟨labels, hls, h⟩ := Except.bind_eq_ok_iff.mp h
    cases h
    have all : labels.map g = targets := by
      rw [← List.forall₂_eq_eq_eq, List.forall₂_map_left_iff]
      exact (Except.mapM_eq_ok_iff.mp hls).flip.imp fun label target ht => back _ _ ht
    rw [mapTargets, back _ _ hl, all]
  | lookupSwitch fallback pairs =>
    obtain ⟨label, hl, h⟩ := Except.bind_eq_ok_iff.mp h
    obtain ⟨labels, hls, h⟩ := Except.bind_eq_ok_iff.mp h
    cases h
    have all : labels.map (fun p => (p.1, g p.2)) = pairs := by
      rw [← List.forall₂_eq_eq_eq, List.forall₂_map_left_iff]
      refine (Except.mapM_eq_ok_iff.mp hls).flip.imp fun label pair hp => ?_
      obtain ⟨found, hf, hp⟩ := Except.bind_eq_ok_iff.mp hp
      cases hp
      rw [back _ _ hf]
    rw [mapTargets, back _ _ hl, all]

end Instruction

namespace Decoded

theorem offsetsFrom_map_mapTargets (f : Label → Label) (offset : Nat) (insns : List Instruction)
    (before : Array Nat) :
    offsetsFrom offset (insns.map (·.mapTargets f)) before = offsetsFrom offset insns before := by
  induction insns generalizing offset before with
  | nil => rfl
  | cons insn insns ih =>
    rw [List.map_cons, offsetsFrom, offsetsFrom, Instruction.size_mapTargets, ih]

variable {code : Bytes} {decoded : Decoded} {label : Nat} {rest : List Instruction}

theorem ofCode_spelled (h : ofCode code = .ok decoded) :
    Spelled 0 (decoded.instructions.toList.map (·.mapTargets (offsetAt decoded.offsets))) code ∧
      decoded.offsets = offsetsOf decoded.instructions := by
  obtain ⟨raw, hraw, shared, mapped⟩ := ofCode_eq_ok_iff.mp h
  obtain ⟨insns, spelled, list, offsets⟩ := cut_spelled hraw (Nat.zero_add _)
  have same : decoded.instructions.toList.map (·.mapTargets (offsetAt decoded.offsets)) = insns := by
    rw [list, List.nil_append] at mapped
    rw [shared, ← List.forall₂_eq_eq_eq, List.forall₂_map_left_iff]
    exact mapped.flip.imp fun mapped insn hm =>
      Instruction.mapTargets_of_mapTargetsM hm fun _ _ => offsetAt_of_labelAt
  refine ⟨same ▸ spelled, ?_⟩
  rw [offsetsOf, ← offsetsFrom_map_mapTargets (offsetAt decoded.offsets), same, shared]
  exact offsets

/-- Whether a byte stands between the opcode of a switch and its operands. -/
def pads (decoded : Decoded) (position : Nat) : Bool :=
  decoded.instructions.toList.zipIdx.any fun (insn, label) =>
    let offset := offsetAt decoded.offsets label
    offset < position && position ≤ offset + insn.gap offset

/-- Bytes from a position on, with zeros for padding. -/
def clearFrom (decoded : Decoded) (start : Nat) (code : Bytes) : Bytes :=
  (code.zipIdx start).map fun (byte, position) => if decoded.pads position then 0 else byte

/-- Code with zeros for the padding of its switches. -/
def clearPadding (decoded : Decoded) (code : Bytes) : Bytes :=
  decoded.clearFrom 0 code

theorem length_clearPadding (decoded : Decoded) (code : Bytes) :
    (decoded.clearPadding code).length = code.length := by
  rw [clearPadding, clearFrom, List.length_map, List.length_zipIdx]

theorem pads_iff {position : Nat} : decoded.pads position = true ↔
    ∃ label insn, decoded.instructions[label]? = some insn ∧
      offsetAt decoded.offsets label < position ∧
      position ≤ offsetAt decoded.offsets label + insn.gap (offsetAt decoded.offsets label) := by
  simp only [pads, List.any_eq_true, Prod.exists, List.mem_zipIdx_iff_getElem?,
    Array.getElem?_toList, Bool.and_eq_true, decide_eq_true_eq]
  exact exists_comm

theorem clearFrom_append (start : Nat) (front behind : Bytes) :
    decoded.clearFrom start (front ++ behind)
      = decoded.clearFrom start front ++ decoded.clearFrom (start + front.length) behind := by
  rw [clearFrom, List.zipIdx_append, List.map_append]
  rfl

theorem clearFrom_of_not {start : Nat} (h : ∀ position, start ≤ position →
    position < start + code.length → ¬decoded.pads position = true) :
    decoded.clearFrom start code = code := by
  conv_rhs => rw [← List.zipIdx_map_fst start code]
  refine List.map_congr_left fun pair hp => ?_
  obtain ⟨low, high, _⟩ := List.mem_zipIdx hp
  exact if_neg (h pair.2 low high)

theorem clearFrom_of_pads {start : Nat} (h : ∀ position, start ≤ position →
    position < start + code.length → decoded.pads position = true) :
    decoded.clearFrom start code = List.replicate code.length 0 := by
  rw [← List.map_const']
  conv_rhs => rw [← List.zipIdx_map_fst start code, List.map_map]
  refine List.map_congr_left fun pair hp => ?_
  obtain ⟨low, high, _⟩ := List.mem_zipIdx hp
  exact if_pos (h pair.2 low high)

section Clearing

variable (spaced : Spaced decoded.instructions decoded.offsets)
include spaced

/-- Between two labels the padding is that of the instruction at the first one. -/
theorem pads_eq {position : Nat} {insn : Instruction}
    (hi : decoded.instructions[label]? = some insn)
    (after : offsetAt decoded.offsets label ≤ position)
    (below : position < offsetAt decoded.offsets (label + 1)) : decoded.pads position = true ↔
      offsetAt decoded.offsets label < position ∧
      position ≤ offsetAt decoded.offsets label + insn.gap (offsetAt decoded.offsets label) := by
  rw [pads_iff]
  constructor
  · rintro ⟨other, found, hf, past, within⟩
    have lt := (Array.getElem?_eq_some_iff.mp hi).1
    have lt' := (Array.getElem?_eq_some_iff.mp hf).1
    have step := spaced.step other found hf
    have size := found.size_eq (offsetAt decoded.offsets other)
    rcases Nat.lt_trichotomy other label with less | rfl | more
    · have := spaced.le (show other + 1 ≤ label from less) lt.le
      omega
    · obtain rfl := Option.some.inj (hf.symm.trans hi)
      exact ⟨past, within⟩
    · have := spaced.le (show label + 1 ≤ other from more) lt'.le
      omega
  · rintro ⟨past, within⟩
    exact ⟨label, insn, hi, past, within⟩

/-- Of the bytes of one instruction only those behind its opcode are cleared, as many as its gap. -/
theorem clearFrom_instruction {insn : Instruction} (opcode : UInt8) {zeros operands : Bytes}
    (hi : decoded.instructions[label]? = some insn)
    (length : zeros.length = insn.gap (offsetAt decoded.offsets label))
    (size : insn.size (offsetAt decoded.offsets label) = 1 + zeros.length + operands.length) :
    decoded.clearFrom (offsetAt decoded.offsets label) (opcode :: (zeros ++ operands))
      = opcode :: (List.replicate zeros.length 0 ++ operands) := by
  have step := spaced.step label insn hi
  have first : decoded.clearFrom (offsetAt decoded.offsets label) [opcode] = [opcode] :=
    clearFrom_of_not fun position low high => by
      rw [List.length_singleton] at high
      rw [pads_eq spaced hi low (by omega)]
      omega
  have middle : decoded.clearFrom (offsetAt decoded.offsets label + 1) zeros
      = List.replicate zeros.length 0 :=
    clearFrom_of_pads fun position low high => by
      rw [pads_eq spaced hi (by omega) (by omega)]
      omega
  have last : decoded.clearFrom (offsetAt decoded.offsets label + 1 + zeros.length) operands
      = operands :=
    clearFrom_of_not fun position low high => by
      rw [pads_eq spaced hi (by omega) (by omega)]
      omega
  rw [← List.singleton_append, clearFrom_append, clearFrom_append, List.length_singleton, first,
    middle, last, List.singleton_append]

/-- The instruction at a label reaches its target and spells the front of the code from there on, and
the next ones spell the rest. -/
theorem Spelled.uncons {insn : Instruction}
    (hr : decoded.instructions.toList.drop label = insn :: rest)
    (h : Spelled (offsetAt decoded.offsets label)
      ((insn :: rest).map (·.mapTargets (offsetAt decoded.offsets))) code) :
    overflows decoded.offsets label insn = false ∧ ∃ zeros behind,
      zeros.length = insn.gap (offsetAt decoded.offsets label) ∧
      code = insn.opcode :: (zeros ++ (insn.mapTargets (offsetAt decoded.offsets)).spelling
        (offsetAt decoded.offsets label)) ++ behind ∧
      Spelled (offsetAt decoded.offsets (label + 1))
        (rest.map (·.mapTargets (offsetAt decoded.offsets))) behind := by
  have step := spaced.step label insn (of_drop_eq_cons hr).1
  rw [List.map_cons] at h
  cases h with
  | @cons _ _ _ zeros behind length reaches more =>
    rw [Instruction.gap_mapTargets] at length
    rw [Instruction.size_mapTargets, ← step] at more
    refine ⟨?_, zeros, behind, length, ?_, more⟩
    · rw [Instruction.overflows_eq, reaches]
      rfl
    · rw [Instruction.opcode_mapTargets]

/-- Instructions that stand at the offsets of a layout are encoded as the code that they spell. -/
theorem encodeFrom_eq_clearFrom (hr : decoded.instructions.toList.drop label = rest)
    (h : Spelled (offsetAt decoded.offsets label)
      (rest.map (·.mapTargets (offsetAt decoded.offsets))) code) :
    encodeFrom decoded.offsets label rest
      = decoded.clearFrom (offsetAt decoded.offsets label) code := by
  induction rest generalizing label code with
  | nil =>
    cases h
    rfl
  | cons insn rest ih =>
    obtain ⟨_, zeros, behind, length, rfl, more⟩ := h.uncons spaced hr
    obtain ⟨hi, next⟩ := of_drop_eq_cons hr
    have size := (insn.mapTargets (offsetAt decoded.offsets)).size_eq
      (offsetAt decoded.offsets label)
    rw [Instruction.size_mapTargets, Instruction.gap_mapTargets, ← length] at size
    have here := clearFrom_instruction spaced insn.opcode hi length size
    have width : (insn.opcode :: (zeros ++ (insn.mapTargets (offsetAt decoded.offsets)).spelling
        (offsetAt decoded.offsets label))).length
        = insn.size (offsetAt decoded.offsets label) := by
      rw [List.length_cons, List.length_append]
      omega
    rw [clearFrom_append, here, width, ← spaced.step label insn hi, ← ih next more, encodeFrom,
      Instruction.operands_eq, length]

theorem reaches_of_spelled (hr : decoded.instructions.toList.drop label = rest)
    (h : Spelled (offsetAt decoded.offsets label)
      (rest.map (·.mapTargets (offsetAt decoded.offsets))) code) {other : Nat} {insn : Instruction}
    (le : label ≤ other) (ho : decoded.instructions[other]? = some insn) :
    overflows decoded.offsets other insn = false := by
  induction rest generalizing label code with
  | nil =>
    have : decoded.instructions.size ≤ label := by simpa using hr
    have lt := (Array.getElem?_eq_some_iff.mp ho).1
    omega
  | cons first rest ih =>
    obtain ⟨reaches, _, _, _, _, more⟩ := h.uncons spaced hr
    obtain ⟨hi, next⟩ := of_drop_eq_cons hr
    rcases Nat.eq_or_lt_of_le le with rfl | lt
    · obtain rfl := Option.some.inj (hi.symm.trans ho)
      exact reaches
    · exact ih next more lt

end Clearing

/-- Code that is decoded and not too long is laid out as it was found, and written as it was but for
the padding of its switches, which becomes zero. -/
theorem toCode_of_ofCode (h : ofCode code = .ok decoded) (short : code.length ≤ 65535) :
    layout decoded.instructions = .ok ⟨decoded.instructions, decoded.offsets⟩ ∧
      Layout.toCode ⟨decoded.instructions, decoded.offsets⟩ = decoded.clearPadding code := by
  obtain ⟨spelled, offsets⟩ := ofCode_spelled h
  have spaced : Spaced decoded.instructions decoded.offsets :=
    offsets ▸ spaced_offsetsOf decoded.instructions
  rw [← spaced.start] at spelled
  have reaches : ∀ (other : Nat) insn, decoded.instructions[other]? = some insn →
      overflows decoded.offsets other insn = false :=
    fun other insn ho => reaches_of_spelled spaced rfl spelled (Nat.zero_le other) ho
  have written := encodeFrom_eq_clearFrom spaced rfl spelled
  rw [List.drop_zero, ← encode_eq, spaced.start] at written
  have all : total decoded.instructions = code.length := by
    rw [total_eq, ← offsets, ← length_clearPadding decoded code, clearPadding, ← written]
    exact (@Spaced.length_toCode ⟨_, _⟩ spaced).symm
  refine ⟨?_, written⟩
  rw [offsets] at reaches
  rw [(Rounds.settled (all ▸ short) (pass_of_reaches reaches)).layout_eq, ← offsets]

/-- Code with a switch whose padding is not zero. -/
def paddedCode : Bytes :=
  [0x1a, 0xaa, 7, 9, 0, 0, 0, 25, 0, 0, 0, 0, 0, 0, 0, 1, 0, 0, 0, 23, 0, 0, 0, 25, 4, 0xac, 3, 0xac]

def paddedDecoded : Decoded :=
  ⟨#[.plain 0x1a [], .tableSwitch 4 0 [2, 4], .plain 4 [], .plain 0xac [], .plain 3 [],
    .plain 0xac []], #[0, 1, 24, 25, 26, 27, 28]⟩

theorem ofCode_paddedCode : ofCode paddedCode = .ok paddedDecoded := by cbv

theorem toCode_of_ofCode_paddedCode : ofCode paddedCode = .ok paddedDecoded ∧
    paddedCode.length ≤ 65535 ∧
    layout paddedDecoded.instructions = .ok ⟨paddedDecoded.instructions, paddedDecoded.offsets⟩ ∧
    Layout.toCode ⟨paddedDecoded.instructions, paddedDecoded.offsets⟩
      = paddedDecoded.clearPadding paddedCode ∧
    paddedDecoded.clearPadding paddedCode = (paddedCode.set 2 0).set 3 0 :=
  have ⟨laid, written⟩ := toCode_of_ofCode ofCode_paddedCode (by decide)
  ⟨ofCode_paddedCode, by decide, laid, written, by decide⟩

end Decoded

end MethodTrace
