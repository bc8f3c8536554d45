import MethodTrace.Code.Decoded
import MethodTrace.Proofs.Runs

/-!
What decoded code is like: none of its labels lies behind its end, and nothing that returns jumps.
-/

namespace MethodTrace

namespace Reader

variable {α β : Type} {P : β → Prop}

/-- A reader whose values all have a property. -/
structure Yields (P : β → Prop) (reader : Reader β) : Prop where
  of_ok : ∀ {extent slice value rest}, reader.onPart extent slice = .ok (value, rest) → P value

theorem Yields.bind {reader : Reader α} {next : α → Reader β} (h : ∀ a, Yields P (next a)) :
    Yields P (reader >>= next) := by
  refine ⟨fun hr => ?_⟩
  obtain ⟨⟨a, left⟩, _, hn⟩ := Except.bind_eq_ok_iff.mp hr
  exact (h a).of_ok hn

theorem Yields.pure {b : β} (h : P b) : Yields P (pure b : Reader β) := by
  refine ⟨fun hr => ?_⟩
  obtain ⟨rfl, rfl⟩ := Prod.mk.inj (Except.pure_eq_ok_iff.mp hr)
  exact h

theorem Yields.throw (e : ClassFileError) : Yields P (throw e : Reader β) := by
  refine ⟨fun hr => ?_⟩
  cases hr

theorem Yields.ite {c : Prop} [Decidable c] {reader other : Reader β}
    (h : c → Yields P reader) (ho : ¬ c → Yields P other) :
    Yields P (if c then reader else other) := by
  split
  · next hc => exact h hc
  · next hc => exact ho hc

end Reader

namespace Opcode

theorem isReturn_iff {opcode : Opcode} :
    opcode.isReturn = true ↔ 0xac ≤ opcode.toNat ∧ opcode.toNat ≤ 0xb1 := by
  simp only [isReturn, between, Bool.and_eq_true, decide_eq_true_eq, UInt8.le_iff_toNat_le]
  exact Iff.rfl

theorem not_isReturn_of_isShortBranch {opcode : Opcode} (h : opcode.isShortBranch = true) :
    opcode.isReturn = false := by
  simp only [isShortBranch, between, Bool.or_eq_true, Bool.and_eq_true, decide_eq_true_eq,
    UInt8.le_iff_toNat_le] at h
  rw [← Bool.not_eq_true, isReturn_iff]
  change (0x99 ≤ _ ∧ _ ≤ 0xa8) ∨ (0xc6 ≤ _ ∧ _ ≤ 0xc7) at h
  omega

theorem not_isReturn_of_isLongBranch {opcode : Opcode} (h : opcode.isLongBranch = true) :
    opcode.isReturn = false := by
  simp only [isLongBranch, Bool.or_eq_true, beq_iff_eq] at h
  rcases h with rfl | rfl <;> rfl

end Opcode

namespace Instruction

/-- An instruction that is plain if it returns. -/
def ReturnsPlainly (insn : Instruction) : Prop :=
  insn.opcode.isReturn = true → ∃ operands, insn = plain insn.opcode operands

variable {total offset : Nat}

theorem ReturnsPlainly.plain (opcode : Opcode) (operands : Bytes) :
    ReturnsPlainly (plain opcode operands) :=
  fun _ => ⟨operands, rfl⟩

theorem ReturnsPlainly.of_not {insn : Instruction} (h : insn.opcode.isReturn = false) :
    ReturnsPlainly insn := by
  intro hr
  rw [h] at hr
  cases hr

theorem readTableSwitch_yields : (readTableSwitch total offset).Yields ReturnsPlainly := by
  refine .bind fun _ => .bind fun _ => .bind fun _ => .bind fun _ => ?_
  dsimp only
  refine .ite (fun _ => .bind fun _ => ?_) fun _ => ?_
  all_goals
    refine .ite (fun _ => .bind fun _ => .bind fun _ => ?_) fun _ => .bind fun _ => ?_
  all_goals exact .pure (.of_not rfl)

theorem readLookupSwitch_yields : (readLookupSwitch total offset).Yields ReturnsPlainly := by
  refine .bind fun _ => .bind fun _ => .bind fun _ => ?_
  dsimp only
  refine .ite (fun _ => .bind fun _ => .bind fun _ => ?_) fun _ => .bind fun _ => ?_
  all_goals exact .pure (.of_not rfl)

theorem readWide_yields : (readWide total offset).Yields ReturnsPlainly := by
  refine .bind fun _ => .bind fun _ => ?_
  dsimp only
  refine .ite (fun _ => .bind fun _ => ?_) fun _ => ?_
  all_goals
    refine .ite (fun _ => .bind fun _ => ?_) fun _ => ?_
  all_goals exact .pure (.plain _ _)

theorem readAfter_yields (opcode : Opcode) :
    (readAfter total offset opcode).Yields ReturnsPlainly := by
  unfold readAfter
  refine .ite (fun hs => .bind fun _ => .pure ?_) fun _ => ?_
  · exact .of_not (Opcode.not_isReturn_of_isShortBranch hs)
  refine .ite (fun hl => .bind fun _ => .pure ?_) fun _ => ?_
  · exact .of_not (Opcode.not_isReturn_of_isLongBranch hl)
  refine .ite (fun _ => readTableSwitch_yields) fun _ => ?_
  refine .ite (fun _ => readLookupSwitch_yields) fun _ => ?_
  refine .ite (fun _ => readWide_yields) fun _ => ?_
  split
  · exact .bind fun _ => .pure (.plain _ _)
  · exact .throw _

end Instruction

namespace Decoded

theorem search_lt {values : Array Nat} {value low high found : Nat}
    (h : search values value low high = some found) : found < high := by
  fun_induction search values value low high with
  | case1 low high hlt middle _ =>
    have := Option.some.inj h
    omega
  | case2 low high hlt middle _ _ _ ih => exact ih h
  | case3 low high hlt middle _ _ _ ih =>
    have := ih h
    omega
  | case4 => simp at h

theorem labelAt_lt {decoded : Decoded} {offset : Nat} {label : Nat}
    (h : decoded.labelAt offset = .ok label) : label < decoded.offsets.size := by
  unfold labelAt at h
  split at h
  · next found hs =>
    cases h
    exact search_lt hs
  · cases h

theorem cut_cons_eq_ok_iff {total offset : Nat} {opcode : Opcode} {rest : Bytes}
    {before decoded : Decoded} : cut total offset (opcode :: rest) before = .ok decoded ↔
      ∃ insn left, (Instruction.readAfter total offset opcode).onPart (total - offset - 1) rest
          = .ok (insn, left) ∧
        offset + insn.size offset ≤ total ∧
        cut total (offset + insn.size offset) (rest.drop (insn.size offset - 1))
          ⟨before.instructions.push insn, before.offsets.push offset⟩ = .ok decoded := by
  rw [cut, Except.bind_eq_ok_iff]
  refine Prod.exists.trans (exists_congr fun insn => exists_congr fun left => ?_)
  refine and_congr_right fun _ => ?_
  dsimp only
  split
  · next short =>
    constructor
    · intro thrown
      cases thrown
    · intro fits
      exact absurd fits.1 (Nat.not_le.mpr short)
  · next room => exact (and_iff_right (Nat.not_lt.mp room)).symm

/-- Every instruction has its offset, and the end of the code has one more. -/
theorem cut_size {total offset : Nat} {code : Bytes} {before decoded : Decoded}
    (h : cut total offset code before = .ok decoded)
    (hb : before.offsets.size = before.instructions.size) :
    decoded.offsets.size = decoded.instructions.size + 1 := by
  induction offset, code, before using cut.induct with
  | case1 offset before =>
    rw [cut] at h
    cases h
    simp [hb]
  | case2 offset before opcode rest ih =>
    obtain ⟨insn, left, _, _, h⟩ := cut_cons_eq_ok_iff.mp h
    exact ih insn h (by simp [hb])

/-- What is cut out of code is as its reader makes it. -/
theorem cut_forall {P : Instruction → Prop} {total offset : Nat} {code : Bytes}
    {before decoded : Decoded}
    (hread : ∀ offset opcode, (Instruction.readAfter total offset opcode).Yields P)
    (h : cut total offset code before = .ok decoded) (hb : ∀ insn ∈ before.instructions, P insn) :
    ∀ insn ∈ decoded.instructions, P insn := by
  induction offset, code, before using cut.induct with
  | case1 offset before =>
    rw [cut] at h
    cases h
    exact hb
  | case2 offset before opcode rest ih =>
    obtain ⟨insn, left, hi, _, h⟩ := cut_cons_eq_ok_iff.mp h
    refine ih insn h fun other ho => ?_
    rcases Array.mem_push.mp ho with ho | rfl
    · exact hb other ho
    · exact (hread offset opcode).of_ok hi

end Decoded

namespace Instruction

theorem mapTargetsM_returnsPlainly {ε : Type} {f : Label → Except ε Label}
    {insn mapped : Instruction} (h : insn.mapTargetsM f = .ok mapped)
    (hp : insn.ReturnsPlainly) : mapped.ReturnsPlainly := by
  cases insn with
  | plain opcode operands =>
    cases h
    exact hp
  | branch opcode target =>
    obtain ⟨t, _, h⟩ := Except.bind_eq_ok_iff.mp h
    cases h
    intro hr
    obtain ⟨operands, ho⟩ := hp hr
    cases ho
  | tableSwitch fallback low all =>
    obtain ⟨t, _, h⟩ := Except.bind_eq_ok_iff.mp h
    obtain ⟨ts, _, h⟩ := Except.bind_eq_ok_iff.mp h
    cases h
    exact .of_not rfl
  | lookupSwitch fallback pairs =>
    obtain ⟨t, _, h⟩ := Except.bind_eq_ok_iff.mp h
    obtain ⟨ts, _, h⟩ := Except.bind_eq_ok_iff.mp h
    cases h
    exact .of_not rfl

/-- A target that was mapped has been given by the map. -/
theorem mapTargetsM_targets {ε : Type} {f : Label → Except ε Label} {insn mapped : Instruction}
    (h : insn.mapTargetsM f = .ok mapped) : ∀ t ∈ mapped.targets, ∃ o, f o = .ok t := by
  cases insn with
  | plain opcode operands =>
    cases h
    simp [targets]
  | branch opcode target =>
    obtain ⟨t, ht, h⟩ := Except.bind_eq_ok_iff.mp h
    cases h
    intro u hu
    have : u = t := by simpa [targets] using hu
    exact ⟨target, this ▸ ht⟩
  | tableSwitch fallback low all =>
    obtain ⟨t, ht, h⟩ := Except.bind_eq_ok_iff.mp h
    obtain ⟨ts, hts, h⟩ := Except.bind_eq_ok_iff.mp h
    cases h
    intro u hu
    rcases List.mem_cons.mp hu with rfl | hu
    · exact ⟨fallback, ht⟩
    · obtain ⟨o, _, ho⟩ := forall₂_exists_left (Except.mapM_eq_ok_iff.mp hts) hu
      exact ⟨o, ho⟩
  | lookupSwitch fallback pairs =>
    obtain ⟨t, ht, h⟩ := Except.bind_eq_ok_iff.mp h
    obtain ⟨ts, hts, h⟩ := Except.bind_eq_ok_iff.mp h
    cases h
    intro u hu
    rcases List.mem_cons.mp hu with rfl | hu
    · exact ⟨fallback, ht⟩
    · obtain ⟨pair, hp, rfl⟩ := List.mem_map.mp hu
      obtain ⟨o, _, ho⟩ := forall₂_exists_left (Except.mapM_eq_ok_iff.mp hts) hp
      obtain ⟨v, hv, ho⟩ := Except.bind_eq_ok_iff.mp ho
      cases ho
      exact ⟨o.2, hv⟩

end Instruction

namespace Decoded

variable {code : Bytes} {decoded : Decoded}

/-- Code is decoded in two steps: it is cut, and then the offsets its jumps lead to become labels. -/
theorem ofCode_eq_ok_iff : ofCode code = .ok decoded ↔
    ∃ raw, cut code.length 0 code ⟨#[], #[]⟩ = .ok raw ∧ decoded.offsets = raw.offsets ∧
      List.Forall₂ (fun insn mapped => insn.mapTargetsM raw.labelAt = .ok mapped)
        raw.instructions.toList decoded.instructions.toList := by
  obtain ⟨instructions, offsets⟩ := decoded
  simp only [ofCode, Except.bind_eq_ok_iff, Except.pure_eq_ok_iff, Decoded.mk.injEq]
  refine exists_congr fun raw => and_congr_right fun _ => ⟨?_, ?_⟩
  · rintro ⟨labelled, mapped, rfl, rfl⟩
    exact ⟨rfl, Except.mapM_eq_ok_iff.mp mapped⟩
  · rintro ⟨rfl, mapped⟩
    exact ⟨instructions.toList, Except.mapM_eq_ok_iff.mpr mapped, rfl, rfl⟩

theorem ofCode_offsets_size (h : ofCode code = .ok decoded) :
    decoded.offsets.size = decoded.instructions.size + 1 := by
  obtain ⟨raw, hraw, offsets, mapped⟩ := ofCode_eq_ok_iff.mp h
  have same := mapped.length_eq
  rw [Array.length_toList, Array.length_toList] at same
  rw [offsets, cut_size hraw rfl, same]

theorem ofCode_targets_le (h : ofCode code = .ok decoded) {insn : Instruction}
    (hi : insn ∈ decoded.instructions) : ∀ t ∈ insn.targets, t ≤ decoded.instructions.size := by
  obtain ⟨raw, _, offsets, mapped⟩ := ofCode_eq_ok_iff.mp h
  obtain ⟨former, _, hm⟩ := forall₂_exists_left mapped (Array.mem_toList_iff.mpr hi)
  intro t ht
  obtain ⟨o, ho⟩ := Instruction.mapTargetsM_targets hm t ht
  have := labelAt_lt ho
  rw [← offsets, ofCode_offsets_size h] at this
  exact Nat.lt_succ_iff.mp this

/-- Decoded instructions have what their reader gives and their labels leave alone. -/
theorem ofCode_forall {P : Instruction → Prop}
    (hread : ∀ total offset opcode, (Instruction.readAfter total offset opcode).Yields P)
    (hmap : ∀ {f : Label → Except ClassFileError Label} {insn mapped : Instruction},
      insn.mapTargetsM f = .ok mapped → P insn → P mapped)
    (h : ofCode code = .ok decoded) {insn : Instruction} (hi : insn ∈ decoded.instructions) :
    P insn := by
  obtain ⟨raw, hraw, _, mapped⟩ := ofCode_eq_ok_iff.mp h
  obtain ⟨former, hf, hm⟩ := forall₂_exists_left mapped (Array.mem_toList_iff.mpr hi)
  exact hmap hm (cut_forall (hread code.length) hraw (by simp) former (Array.mem_toList_iff.mp hf))

theorem ofCode_returnsPlainly (h : ofCode code = .ok decoded) {insn : Instruction}
    (hi : insn ∈ decoded.instructions) : insn.ReturnsPlainly :=
  ofCode_forall (fun _ _ => Instruction.readAfter_yields)
    Instruction.mapTargetsM_returnsPlainly h hi

theorem handlers_le (h : ofCode code = .ok decoded) {rows : List ExceptionRow}
    {handlers : List Handler} (hh : decoded.handlers rows = .ok handlers) {handler : Handler}
    (hm : handler ∈ handlers) : handler.start ≤ decoded.instructions.size ∧
      handler.stop ≤ decoded.instructions.size ∧ handler.handler ≤ decoded.instructions.size := by
  have hs := ofCode_offsets_size h
  obtain ⟨row, _, hr⟩ := forall₂_exists_left (Except.mapM_eq_ok_iff.mp hh) hm
  obtain ⟨start, hstart, hr⟩ := Except.bind_eq_ok_iff.mp hr
  obtain ⟨stop, hstop, hr⟩ := Except.bind_eq_ok_iff.mp hr
  obtain ⟨place, hplace, hr⟩ := Except.bind_eq_ok_iff.mp hr
  cases hr
  have h1 := labelAt_lt hstart
  have h2 := labelAt_lt hstop
  have h3 := labelAt_lt hplace
  rw [hs] at h1 h2 h3
  exact ⟨Nat.lt_succ_iff.mp h1, Nat.lt_succ_iff.mp h2, Nat.lt_succ_iff.mp h3⟩

end Decoded

end MethodTrace
