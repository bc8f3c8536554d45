import MethodTrace.Proofs.Decoding
import MethodTrace.Proofs.Widening

/-!
Instructions in the forms that bytecode has for them.

Decoding makes no others, and neither relocation nor layout breaks a form, so that what is written
can be read again.
-/

namespace MethodTrace

namespace Reader

variable {α β : Type} {P : β → Prop}

theorem bind_onPart_iff {reader : Reader α} {next : α → Reader β} {extent : Nat}
    {slice rest : Bytes} {value : β} : (reader >>= next).onPart extent slice = .ok (value, rest) ↔
      ∃ a left, reader.onPart extent slice = .ok (a, left) ∧
        (next a).onPart extent left = .ok (value, rest) := by
  constructor
  · intro h
    obtain ⟨⟨a, left⟩, ha, h⟩ := Except.bind_eq_ok_iff.mp h
    exact ⟨a, left, ha, h⟩
  · rintro ⟨a, left, ha, h⟩
    exact Except.bind_eq_ok_iff.mpr ⟨⟨a, left⟩, ha, h⟩

theorem get_bind_onPart {next : Bytes → Reader β} {extent : Nat} {slice : Bytes} :
    (get >>= next).onPart extent slice = (next slice).onPart extent slice := rfl

theorem Yields.bind_of {Q : α → Prop} {reader : Reader α} {next : α → Reader β}
    (h : reader.Yields Q) (hn : ∀ a, Q a → Yields P (next a)) : Yields P (reader >>= next) := by
  refine ⟨fun hr => ?_⟩
  obtain ⟨a, left, ha, hr⟩ := bind_onPart_iff.mp hr
  exact (hn a (h.of_ok ha)).of_ok hr

theorem Yields.throw_bind (e : ClassFileError) (next : α → Reader β) :
    Yields P ((MonadExcept.throw e : Reader α) >>= next) :=
  .bind_of (Q := fun _ => False) (.throw e) fun _ h => h.elim

theorem take_yields (count : Nat) : (take count).Yields (·.length = count) := by
  refine ⟨fun {extent slice taken rest} h => ?_⟩
  rw [take, get_bind_onPart] at h
  dsimp only at h
  split at h
  · cases h
  · next hn =>
    cases h
    rw [List.length_take] at hn ⊢
    omega

theorem times_yields (count : Nat) (reader : Reader α) :
    (times count reader).Yields (·.length = count) := by
  unfold times
  induction count with
  | zero => exact .pure rfl
  | succ count ih =>
    rw [List.replicate_succ, List.mapM_cons]
    refine .bind fun a => .bind_of ih fun as has => .pure ?_
    rw [List.length_cons, has]

theorem u8_onPart {extent : Nat} {slice rest : Bytes} {byte : UInt8}
    (h : u8.onPart extent slice = .ok (byte, rest)) : slice = byte :: rest := by
  cases slice with
  | nil => cases h
  | cons first slice =>
    have read : u8.onPart extent (first :: slice)
        = .ok (UInt8.ofNat (Bytes.ofBigEndian [first]), slice) := rfl
    have same : UInt8.ofNat (Bytes.ofBigEndian [first]) = first := by
      simp [Bytes.ofBigEndian]
    rw [read, same] at h
    cases h
    rfl

end Reader

/-- An operation with operands of one size is no branch, no switch and not `wide`. -/
theorem Opcode.plain_of_operandLength? : ∀ byte : Fin 256,
    (operandLength? (.ofFin byte)).isSome = true →
      (isShortBranch (.ofFin byte) = false ∧ isLongBranch (.ofFin byte) = false) ∧
        .ofFin byte ≠ tableswitch ∧ .ofFin byte ≠ lookupswitch ∧ .ofFin byte ≠ wide := by
  decide +kernel

namespace Instruction

/-- An instruction that bytecode has a form for. -/
inductive Formed : Instruction → Prop
  | plain {opcode : Opcode} {operands : Bytes} (short : opcode.isShortBranch = false)
      (long : opcode.isLongBranch = false) (table : opcode ≠ Opcode.tableswitch)
      (lookup : opcode ≠ Opcode.lookupswitch) (wide : opcode ≠ Opcode.wide)
      (length : opcode.operandLength? = some operands.length) : Formed (plain opcode operands)
  | wide {inner : Opcode} {operands : Bytes} (takes : inner.takesWide = true)
      (length : operands.length = if inner = Opcode.iinc then 4 else 2) :
      Formed (.plain Opcode.wide (inner :: operands))
  | branch {opcode : Opcode} (target : Label)
      (h : opcode.isShortBranch = true ∨ opcode.isLongBranch = true) : Formed (branch opcode target)
  | tableSwitch (fallback : Label) {low : Int32} {targets : List Label} (ne_nil : targets ≠ [])
      (last : low.toInt + targets.length - 1 ≤ Int32.maxValue.toInt) :
      Formed (tableSwitch fallback low targets)
  | lookupSwitch (fallback : Label) (pairs : List (Int32 × Label)) :
      Formed (lookupSwitch fallback pairs)

variable {insn widened : Instruction} {total offset : Nat}

theorem Formed.of_operandLength? {opcode : Opcode} {operands : Bytes}
    (h : opcode.operandLength? = some operands.length) :
    Formed (Instruction.plain opcode operands) := by
  obtain ⟨⟨short, long⟩, table, lookup, wide⟩ :=
    Opcode.plain_of_operandLength? opcode.toFin (by rw [UInt8.ofFin_toFin, h]; rfl)
  exact .plain short long table lookup wide h

theorem Formed.mapTargets (h : insn.Formed) (f : Label → Label) : (insn.mapTargets f).Formed := by
  cases h with
  | plain short long table lookup wide length => exact .plain short long table lookup wide length
  | wide takes length => exact .wide takes length
  | branch target h => exact .branch _ h
  | tableSwitch fallback ne_nil last =>
    exact .tableSwitch _ (by simpa using ne_nil) (by simpa using last)
  | lookupSwitch fallback pairs => exact .lookupSwitch _ _

theorem Formed.widens (h : insn.Formed) (hw : insn.Widens widened) : widened.Formed := by
  cases hw with
  | same => exact h
  | jump target hf =>
    rcases wideForm?_eq_some hf with ⟨_, rfl⟩ | ⟨_, rfl⟩
    · exact .branch _ (.inr rfl)
    · exact .branch _ (.inr rfl)

theorem readTableSwitch_formed : (readTableSwitch total offset).Yields Formed := by
  refine .bind fun _ => .bind fun fallback => .bind fun low => .bind fun high => ?_
  refine .ite (fun _ => .throw_bind _ _) fun ordered => ?_
  refine .ite (fun _ => .throw_bind _ _) fun _ => ?_
  refine .bind_of (Reader.times_yields _ _) fun targets length => .pure ?_
  have le : low.toInt ≤ high.toInt := by
    rw [Int32.lt_iff_toInt_lt] at ordered
    omega
  have bound := high.toInt_le
  refine .tableSwitch fallback ?_ ?_
  · rintro rfl
    simp only [List.length_nil] at length
    omega
  · omega

theorem readWide_formed : (readWide total offset).Yields Formed := by
  refine ⟨fun {extent slice value rest} h => ?_⟩
  rw [readWide, Reader.get_bind_onPart, Reader.bind_onPart_iff] at h
  obtain ⟨inner, left, hi, h⟩ := h
  obtain rfl := Reader.u8_onPart hi
  refine Reader.Yields.of_ok (.ite (fun _ => .throw_bind _ _) fun takes => .ite
    (fun _ => .throw_bind _ _) fun whole => .pure ?_) h
  have extent : (if inner = Opcode.iinc then 5 else 3)
      = (if inner = Opcode.iinc then 4 else 2) + 1 := by
    split <;> rfl
  rw [extent] at whole ⊢
  rw [List.take_succ_cons] at whole ⊢
  simp only [List.length_cons] at whole
  refine .wide (by simpa using takes) ?_
  have := List.length_take_le (if inner = Opcode.iinc then 4 else 2) left
  omega

theorem readAfter_formed (opcode : Opcode) : (readAfter total offset opcode).Yields Formed := by
  unfold readAfter
  refine .ite (fun hs => .bind fun target => .pure (.branch target (.inl hs))) fun _ => ?_
  refine .ite (fun hl => .bind fun target => .pure (.branch target (.inr hl))) fun _ => ?_
  refine .ite (fun _ => readTableSwitch_formed) fun _ => ?_
  refine .ite (fun _ => .bind fun _ => .bind fun _ => .bind fun _ => ?_) fun _ => ?_
  · dsimp only
    refine .ite (fun _ => .throw_bind _ _) fun _ => .bind fun pairs => .pure (.lookupSwitch _ pairs)
  refine .ite (fun _ => readWide_formed) fun _ => ?_
  split
  · next length hl =>
    refine .bind_of (Reader.take_yields length) fun operands taken => .pure ?_
    exact .of_operandLength? (taken ▸ hl)
  · exact .throw _

theorem mapTargetsM_formed {ε : Type} {f : Label → Except ε Label} {mapped : Instruction}
    (h : insn.mapTargetsM f = .ok mapped) (hi : insn.Formed) : mapped.Formed := by
  cases hi with
  | plain short long table lookup wide length =>
    cases h
    exact .plain short long table lookup wide length
  | wide takes length =>
    cases h
    exact .wide takes length
  | branch target hb =>
    obtain ⟨t, _, h⟩ := Except.bind_eq_ok_iff.mp h
    cases h
    exact .branch t hb
  | tableSwitch fallback ne_nil last =>
    obtain ⟨t, _, h⟩ := Except.bind_eq_ok_iff.mp h
    obtain ⟨ts, hts, h⟩ := Except.bind_eq_ok_iff.mp h
    cases h
    have length := (Except.mapM_eq_ok_iff.mp hts).length_eq
    refine .tableSwitch t ?_ (length ▸ last)
    rintro rfl
    exact ne_nil (List.length_eq_zero_iff.mp length)
  | lookupSwitch fallback pairs =>
    obtain ⟨t, _, h⟩ := Except.bind_eq_ok_iff.mp h
    obtain ⟨ts, _, h⟩ := Except.bind_eq_ok_iff.mp h
    cases h
    exact .lookupSwitch t ts

end Instruction

theorem Decoded.ofCode_formed {code : Bytes} {decoded : Decoded} (h : ofCode code = .ok decoded)
    {insn : Instruction} (hi : insn ∈ decoded.instructions) : insn.Formed :=
  ofCode_forall (fun _ _ => Instruction.readAfter_formed) Instruction.mapTargetsM_formed h hi

end MethodTrace
