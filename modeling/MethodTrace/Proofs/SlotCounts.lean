import MethodTrace.Proofs.Decoding
import MethodTrace.Proofs.DescriptorSpellings
import MethodTrace.Proofs.ReachedDepths

/-!
Stack slots as words of two bytes, against their numbers.

Nothing checks the additions of the replay. A descriptor takes at most two slots for each of its
characters, and an instruction raises the depth by two at most, so that texts and codes of about
half the greatest length are counted as they should be; right above these lengths they are not.
-/

namespace MethodTrace

namespace MethodDescriptor

variable {descriptor : MethodDescriptor}

/-- The stack slots of the arguments without a receiver, however many they are. -/
def slotCount (descriptor : MethodDescriptor) : Nat :=
  (descriptor.params.map (·.slots.toNat)).sum

theorem slots_le_two (type : FieldType) : type.slots.toNat ≤ 2 := by
  unfold FieldType.slots
  split
  · exact le_rfl
  · exact one_le_two

end MethodDescriptor

namespace StackEffect

variable {pool : ConstantPool} {insn : Instruction} {effect : StackEffect} {depth : UInt16}

/-- A call of a method or of a dynamic call site. -/
def IsCall (insn : Instruction) : Prop :=
  Opcode.between 0xb6 0xba insn.opcode = true

/-- The descriptor of what a call calls. -/
def callee (pool : ConstantPool) (insn : Instruction) : Except ClassFileError MethodDescriptor := do
  let index ← constantOf insn
  let descriptor ←
    if insn.opcode = Opcode.invokedynamic then pool.dynamicDescriptor index
    else (·.descriptor) <$> pool.memberRef index
  MethodDescriptor.parse descriptor

/-- The number of receivers that a call pops. -/
def receiverCount (insn : Instruction) : Nat :=
  if insn.opcode = Opcode.invokestatic ∨ insn.opcode = Opcode.invokedynamic then 0 else 1

/-- Whether the slots that a call pops can be written as a word. -/
def Fits (pool : ConstantPool) (insn : Instruction) : Prop :=
  IsCall insn → ∀ descriptor, callee pool insn = .ok descriptor →
    descriptor.slotCount + receiverCount insn ≤ 65535

theorem ofCall_eq_ok_iff : ofCall pool insn = .ok effect ↔
    ∃ descriptor, callee pool insn = .ok descriptor ∧
      effect = ⟨descriptor.argumentSlots + UInt16.ofNat (receiverCount insn),
        descriptor.resultSlots⟩ := by
  have receiver : (if insn.opcode = Opcode.invokestatic ∨ insn.opcode = Opcode.invokedynamic then 0
      else 1 : UInt16) = UInt16.ofNat (receiverCount insn) := by
    unfold receiverCount
    split <;> rfl
  have same : ofCall pool insn = do
      let descriptor ← callee pool insn
      return ⟨descriptor.argumentSlots + UInt16.ofNat (receiverCount insn),
        descriptor.resultSlots⟩ := by
    unfold ofCall callee
    rw [receiver]
    split <;> simp only [bind_assoc]
  rw [same, Except.bind_eq_ok_iff]
  exact exists_congr fun descriptor => and_congr_right fun _ => Except.pure_eq_ok_iff.trans eq_comm

theorem pushes_le_of_fixed? {opcode : Opcode} (h : fixed? opcode = some effect) :
    effect.pushes.toNat ≤ effect.pops.toNat + 2 := by
  have all : ∀ run ∈ runs, ∀ effect ∈ run.2, effect.pushes.toNat ≤ effect.pops.toNat + 2 := by
    decide
  obtain ⟨run, found, he⟩ := Option.bind_eq_some_iff.mp h
  exact all run (List.mem_of_find?_eq_some found) effect he

theorem pushes_le_of_ofWide (insn : Instruction) :
    (ofWide insn).pushes.toNat ≤ (ofWide insn).pops.toNat + 2 := by
  unfold ofWide
  split
  · next opcode inner operands =>
    split
    · cases h : fixed? inner with
      | none => decide
      | some effect => exact pushes_le_of_fixed? h
    · decide
  · decide

theorem slotsOfText_le_two (text : String) : (FieldType.slotsOfText text).toNat ≤ 2 := by
  unfold FieldType.slotsOfText
  split <;> decide

theorem pushes_le_of_ofField (h : ofField pool insn = .ok effect) :
    effect.pushes.toNat ≤ effect.pops.toNat + 2 := by
  obtain ⟨index, _, h⟩ := Except.bind_eq_ok_iff.mp h
  obtain ⟨field, _, h⟩ := Except.bind_eq_ok_iff.mp h
  have two := slotsOfText_le_two field.descriptor
  dsimp only at h
  rw [Except.pure_eq_ok_iff] at h
  rw [← h]
  split
  · exact two.trans (Nat.le_add_left _ _)
  · exact Nat.zero_le _
  · exact two.trans (Nat.le_add_left _ _)
  · exact Nat.zero_le _

theorem pushes_le_of_ofCall (h : ofCall pool insn = .ok effect) :
    effect.pushes.toNat ≤ effect.pops.toNat + 2 := by
  obtain ⟨descriptor, _, rfl⟩ := ofCall_eq_ok_iff.mp h
  have two : descriptor.resultSlots.toNat ≤ 2 := by
    unfold MethodDescriptor.resultSlots
    split
    · exact MethodDescriptor.slots_le_two _
    · exact Nat.zero_le _
  exact two.trans (Nat.le_add_left _ _)

/-- No instruction pushes more than two slots beyond those that it pops. -/
theorem pushes_le (h : ofInstruction pool insn = .ok effect) :
    effect.pushes.toNat ≤ effect.pops.toNat + 2 := by
  unfold ofInstruction at h
  split at h
  · next fixed =>
    cases h
    exact pushes_le_of_fixed? fixed
  split at h
  · exact pushes_le_of_ofField h
  split at h
  · exact pushes_le_of_ofCall h
  split at h
  · cases h
    exact pushes_le_of_ofWide insn
  split at h
  · unfold ofMultiArray at h
    split at h
    · cases h
      exact Nat.le_add_left 1 _ |>.trans (Nat.add_le_add_left one_le_two _)
    · cases h
  · cases h

theorem apply_toNat (enough : effect.pops ≤ depth)
    (small : depth.toNat - effect.pops.toNat + effect.pushes.toNat ≤ 65535) :
    (effect.apply depth).toNat = depth.toNat - effect.pops.toNat + effect.pushes.toNat := by
  rw [apply, UInt16.toNat_add, UInt16.toNat_sub_of_le _ _ enough]
  omega

end StackEffect

namespace Exploration

variable {α ε : Type} {next : Nat → α → Except ε (List (Nat × α))} {frontier : Frontier α}
  {outcome : Option (Array (Option α))}

/-- An exploration ends where its steps have led to: at a fault, or with nothing pending. -/
theorem Ends.exists_steps (h : Ends next frontier outcome) :
    ∃ last, Relation.ReflTransGen (Step next) frontier last ∧
      ((outcome = none ∧ Fault next last) ∨ ∃ table, outcome = some table ∧ last = ⟨0, table⟩) := by
  induction h with
  | done table => exact ⟨_, .refl, .inr ⟨table, rfl, rfl⟩⟩
  | fails fault => exact ⟨_, .refl, .inl ⟨rfl, fault⟩⟩
  | step step _ ih =>
    obtain ⟨last, steps, ends⟩ := ih
    exact ⟨last, .head step steps, ends⟩

end Exploration

namespace Flow

open Exploration StackDepth

variable {flow : Flow} {pool : ConstantPool} {frontier after : Frontier UInt16}
  {depths : Array (Option UInt16)} {label depth left : Nat} {word : UInt16} {insn : Instruction}

/-- The frontiers to which the explorations of a flow come, in whatever order they proceed. -/
def ComesTo (flow : Flow) (pool : ConstantPool) : Frontier UInt16 → Prop :=
  Relation.ReflTransGen (Step (flow.leadsOn pool))
    ⟨flow.first, Array.replicate flow.instructions.size none⟩

/-- Depths that are no wrapped sums: execution carries each of them to its label, and none is
greater than two slots for each instruction that has been met, and one for a thrown exception. -/
structure Counted (flow : Flow) (pool : ConstantPool) (frontier : Frontier UInt16) : Prop where
  pending : ∀ entry ∈ frontier.pending, flow.Carries pool entry.1 entry.2.toNat ∧
    entry.2.toNat + 2 * unmet frontier.table ≤ 2 * flow.instructions.size + 1
  held : ∀ (label : Nat) word, frontier.table[label]? = some (some word) →
    flow.Carries pool label word.toNat ∧
      word.toNat + 2 * unmet frontier.table + 1 ≤ 2 * flow.instructions.size

theorem counted_start (flow : Flow) (pool : ConstantPool) :
    flow.Counted pool ⟨flow.first, Array.replicate flow.instructions.size none⟩ := by
  have all : unmet (Array.replicate flow.instructions.size (none : Option UInt16))
      = flow.instructions.size := by simp [unmet, Array.countP_replicate]
  constructor
  · rintro ⟨label, word⟩ he
    dsimp only
    rw [all]
    rcases mem_first_iff.mp (Multiset.mem_coe.mp he) with
      ⟨filled, rfl, rfl⟩ | ⟨handler, hm, covers, rfl, rfl⟩
    · exact ⟨.start filled, by simp⟩
    · exact ⟨.handler hm covers, (Nat.add_comm _ _).le⟩
  · exact fun label word h => absurd h (not_held_replicate _ label word)

/-- An instruction that is executed with a depth that is low enough leaves no wrapped sum. -/
theorem executes_of_low {effect : StackEffect} (here : flow.instructions[label]? = some insn)
    (he : StackEffect.ofInstruction pool insn = .ok effect) (enough : effect.pops ≤ word)
    (low : word.toNat + 2 ≤ 65535) :
    flow.Executes pool label word.toNat insn (effect.apply word).toNat ∧
      (effect.apply word).toNat ≤ word.toNat + 2 := by
  have more := StackEffect.pushes_le he
  have le := UInt16.le_iff_toNat_le.mp enough
  have value := StackEffect.apply_toNat enough (by omega)
  exact ⟨⟨here, effect, he, le, value⟩, by omega⟩

/-- What is carried on from a depth that is low enough is no wrapped sum either. -/
theorem carries_of_leadsOn {pushed : List (Nat × UInt16)}
    (reached : flow.Carries pool label word.toNat) (low : word.toNat + 2 ≤ 65535)
    (leads : flow.leadsOn pool label word = .ok pushed) :
    ∀ entry ∈ pushed, flow.Carries pool entry.1 entry.2.toNat ∧
      entry.2.toNat ≤ word.toNat + 2 := by
  rintro ⟨target, other⟩ he
  simp only [leadsOn] at leads
  split at leads
  · next insn there =>
    obtain ⟨effect, hf, enough, rfl⟩ := next_eq_ok_iff.mp leads
    obtain ⟨executes, less⟩ := executes_of_low there hf enough low
    rcases mem_leadsTo_iff.mp he with ⟨jumps, rfl⟩ | ⟨rfl, behind⟩
    · exact ⟨.jump reached executes jumps, less⟩
    · unfold depthBehind? at behind
      split at behind
      · next call =>
        cases behind
        exact ⟨.resume reached executes call, Nat.le_add_right _ _⟩
      · next plain =>
        split at behind
        · cases behind
        · next goes =>
          cases behind
          exact ⟨.next reached executes (by simpa using goes) (by simpa using plain), less⟩
  · cases leads
    cases he

theorem Counted.step (h : flow.Counted pool frontier) (short : flow.instructions.size ≤ 32767)
    (step : Step (flow.leadsOn pool) frontier after) : flow.Counted pool after := by
  obtain ⟨pending, held⟩ := h
  cases step with
  | again seen => exact ⟨fun entry he => pending entry (Multiset.mem_cons_of_mem he), held⟩
  | @fresh place value rest table pushed inside new leads =>
    have fewer := unmet_set inside value new
    obtain ⟨reached, low⟩ := pending _ (Multiset.mem_cons_self _ _)
    dsimp only at held reached low
    have carried := carries_of_leadsOn reached (by omega) leads
    constructor
    · intro entry he
      dsimp only
      rcases Multiset.mem_add.mp he with he | he
      · obtain ⟨carries, less⟩ := carried entry (Multiset.mem_coe.mp he)
        exact ⟨carries, by omega⟩
      · obtain ⟨carries, less⟩ := pending entry (Multiset.mem_cons_of_mem he)
        dsimp only at less
        exact ⟨carries, by omega⟩
    · intro label word hw
      dsimp only at hw ⊢
      rcases (held_set_iff value inside new label word).mp hw with ⟨rfl, rfl⟩ | hw
      · exact ⟨reached, by omega⟩
      · obtain ⟨carries, less⟩ := held label word hw
        exact ⟨carries, by omega⟩

theorem ComesTo.counted (h : flow.ComesTo pool frontier) (short : flow.instructions.size ≤ 32767) :
    flow.Counted pool frontier := by
  induction h with
  | refl => exact flow.counted_start pool
  | tail _ step ih => exact ih.step short step

end Flow

open Exploration StackDepth

namespace Decoded
variable {total offset : Nat} {code rest : Bytes} {before decoded : Decoded}

end Decoded

end MethodTrace
