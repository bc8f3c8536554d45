import MethodTrace.Proofs.Exploration
import MethodTrace.Proofs.StackReplay

/-!
The greatest stack depth, against the depths with which execution reaches the labels of a flow.

The depths that execution carries along are plain numbers here. As long as they fit into two bytes,
an exploration meets just the labels that are reached, each with its depth, so that it says exactly
when the flow can be executed and how deep its stack becomes, in whatever order it proceeds.
-/

namespace MethodTrace

open StackDepth

namespace Flow

variable {flow : Flow} {pool : ConstantPool} {label depth after : Nat} {word : UInt16}
  {insn : Instruction}

/-- The instruction at a label can be executed with some depth, and leaves another one behind. -/
structure Executes (flow : Flow) (pool : ConstantPool) (label depth : Nat) (insn : Instruction)
    (after : Nat) : Prop where
  here : flow.instructions[label]? = some insn
  effect : ∃ effect, StackEffect.ofInstruction pool insn = .ok effect ∧
    effect.pops.toNat ≤ depth ∧ after = depth - effect.pops.toNat + effect.pushes.toNat

/-- The labels that execution reaches, with the depths that it carries there. A handler is entered
with the thrown exception, and a subroutine returns without its return address. -/
inductive Carries (flow : Flow) (pool : ConstantPool) : Nat → Nat → Prop
  | start (h : 0 < flow.instructions.size) : Carries flow pool 0 0
  | handler {handler : Handler} (h : handler ∈ flow.handlers)
      (covers : handler.start < handler.stop) : Carries flow pool handler.handler 1
  | jump {label depth after target : Nat} {insn : Instruction} (h : Carries flow pool label depth)
      (executes : flow.Executes pool label depth insn after) (ht : target ∈ insn.targets) :
      Carries flow pool target after
  | next {label depth after : Nat} {insn : Instruction} (h : Carries flow pool label depth)
      (executes : flow.Executes pool label depth insn after) (goes : insn.endsBlock = false)
      (plain : insn.opcode.isSubroutineCall = false) : Carries flow pool (label + 1) after
  | resume {label depth after : Nat} {insn : Instruction} (h : Carries flow pool label depth)
      (executes : flow.Executes pool label depth insn after)
      (call : insn.opcode.isSubroutineCall = true) : Carries flow pool (label + 1) depth

/-- The depths behind the instructions that are reached. -/
def Leaves (flow : Flow) (pool : ConstantPool) (after : Nat) : Prop :=
  ∃ label depth insn, flow.Carries pool label depth ∧ flow.Executes pool label depth insn after

/-- Whatever is reached is an instruction that can be executed, and is reached with one depth. -/
structure Executable (flow : Flow) (pool : ConstantPool) : Prop where
  executes : ∀ label depth, flow.Carries pool label depth →
    ∃ insn after, flow.Executes pool label depth insn after
  unique : ∀ label depth other, flow.Carries pool label depth → flow.Carries pool label other →
    depth = other

/-- Where the instruction at a label leads to. -/
abbrev leadsOn (flow : Flow) (pool : ConstantPool) (label : Nat) (depth : UInt16) :
    Except ClassFileError (List (Nat × UInt16)) :=
  match flow.instructions[label]? with
  | some insn => StackDepth.next pool insn label depth
  | none => .ok []

/-- Where the exploration of a flow begins. -/
abbrev first (flow : Flow) : List (Nat × UInt16) :=
  (roots flow.instructions flow.handlers).reverse

theorem mem_first_iff : (label, word) ∈ flow.first ↔
    (0 < flow.instructions.size ∧ label = 0 ∧ word = 0) ∨
      ∃ handler ∈ flow.handlers, handler.start < handler.stop ∧ label = handler.handler ∧
        word = 1 := by
  rw [first, List.mem_reverse, roots, List.mem_append, List.mem_map]
  refine or_congr ?_ ?_
  · rcases Nat.eq_zero_or_pos flow.instructions.size with none | some
    · simp [Array.eq_empty_of_size_eq_zero none]
    · have filled : flow.instructions.isEmpty = false := by
        rw [Array.isEmpty_eq_false_iff]
        rintro bare
        simp [bare] at some
      simp [filled, some]
  · simp only [entered, List.mem_filter, decide_eq_true_eq, Prod.mk.injEq, and_assoc]
    exact exists_congr fun handler => and_congr_right fun _ => and_congr_right fun _ =>
      and_congr eq_comm eq_comm

/-- The depth behind an instruction, as a word, is the one behind it if that fits. -/
theorem executes_iff (small : ∀ after, flow.Leaves pool after → after < UInt16.size)
    (reached : flow.Carries pool label word.toNat) :
    flow.Executes pool label word.toNat insn after ↔ flow.instructions[label]? = some insn ∧
      ∃ effect, StackEffect.ofInstruction pool insn = .ok effect ∧ effect.pops ≤ word ∧
        after = (effect.apply word).toNat := by
  have value (effect : StackEffect) (here : flow.instructions[label]? = some insn)
      (he : StackEffect.ofInstruction pool insn = .ok effect) (enough : effect.pops ≤ word) :
      (effect.apply word).toNat = word.toNat - effect.pops.toNat + effect.pushes.toNat := by
    have fits := small _ ⟨label, word.toNat, insn, reached, here, effect, he,
      UInt16.le_iff_toNat_le.mp enough, rfl⟩
    rw [StackEffect.apply, UInt16.toNat_add, UInt16.toNat_sub_of_le _ _ enough]
    exact Nat.mod_eq_of_lt fits
  constructor
  · rintro ⟨here, effect, he, enough, rfl⟩
    have enough : effect.pops ≤ word := UInt16.le_iff_toNat_le.mpr enough
    exact ⟨here, effect, he, enough, (value effect here he enough).symm⟩
  · rintro ⟨here, effect, he, enough, rfl⟩
    exact ⟨here, effect, he, UInt16.le_iff_toNat_le.mp enough, value effect here he enough⟩

/-- What is met is reached. -/
theorem carries_of_met (small : ∀ after, flow.Leaves pool after → after < UInt16.size)
    (met : Exploration.Met (flow.leadsOn pool) flow.first label word) :
    flow.Carries pool label word.toNat := by
  induction met with
  | first here =>
    rcases mem_first_iff.mp here with ⟨filled, rfl, rfl⟩ | ⟨handler, hm, covers, rfl, rfl⟩
    · exact .start filled
    · exact .handler hm covers
  | @step label target word left pushed _ leads here ih =>
    simp only [leadsOn] at leads
    split at leads
    · next insn there =>
      obtain ⟨effect, he, enough, rfl⟩ := next_eq_ok_iff.mp leads
      have executes := (executes_iff small ih).mpr ⟨there, effect, he, enough, rfl⟩
      rcases mem_leadsTo_iff.mp here with ⟨jumps, rfl⟩ | ⟨rfl, behind⟩
      · exact .jump ih executes jumps
      · unfold depthBehind? at behind
        split at behind
        · next call =>
          cases behind
          exact .resume ih executes call
        · next plain =>
          split at behind
          · cases behind
          · next goes =>
            cases behind
            exact .next ih executes (by simpa using goes) (by simpa using plain)
    · cases leads
      cases here

/-- What is reached is met. -/
theorem met_of_carries (small : ∀ after, flow.Leaves pool after → after < UInt16.size)
    (reached : flow.Carries pool label depth) : ∃ word : UInt16, word.toNat = depth ∧
      Exploration.Met (flow.leadsOn pool) flow.first label word := by
  -- An instruction that is executed leads on with what it leaves.
  have onward {label depth after : Nat} {insn : Instruction} {word : UInt16}
      (met : Exploration.Met (flow.leadsOn pool) flow.first label word) (same : word.toNat = depth)
      (executes : flow.Executes pool label depth insn after) :
      ∃ left : UInt16, left.toNat = after ∧ ∀ target other,
        (target ∈ insn.targets ∧ other = left) ∨
          (target = label + 1 ∧ depthBehind? insn word left = some other) →
        Exploration.Met (flow.leadsOn pool) flow.first target other := by
    subst same
    obtain ⟨here, effect, he, enough, rfl⟩ :=
      (executes_iff small (carries_of_met small met)).mp executes
    refine ⟨effect.apply word, rfl, fun target other leads => ?_⟩
    have next : flow.leadsOn pool label word = .ok (leadsTo insn label word (effect.apply word)) := by
      simp only [leadsOn, here]
      exact next_eq_ok_iff.mpr ⟨effect, he, enough, rfl⟩
    exact .step met next (mem_leadsTo_iff.mpr leads)
  induction reached with
  | start filled => exact ⟨0, rfl, .first (mem_first_iff.mpr (.inl ⟨filled, rfl, rfl⟩))⟩
  | @handler handler hm covers =>
    exact ⟨1, rfl, .first (mem_first_iff.mpr (.inr ⟨handler, hm, covers, rfl, rfl⟩))⟩
  | jump _ executes ht ih =>
    obtain ⟨word, same, met⟩ := ih
    obtain ⟨left, hl, leads⟩ := onward met same executes
    exact ⟨left, hl, leads _ _ (.inl ⟨ht, rfl⟩)⟩
  | next _ executes goes plain ih =>
    obtain ⟨word, same, met⟩ := ih
    obtain ⟨left, hl, leads⟩ := onward met same executes
    exact ⟨left, hl, leads _ _ (.inr ⟨rfl, by simp [depthBehind?, goes, plain]⟩)⟩
  | resume _ executes call ih =>
    obtain ⟨word, same, met⟩ := ih
    obtain ⟨left, hl, leads⟩ := onward met same executes
    exact ⟨word, same, leads _ _ (.inr ⟨rfl, by simp [depthBehind?, call]⟩)⟩

theorem met_iff (small : ∀ after, flow.Leaves pool after → after < UInt16.size) :
    Exploration.Met (flow.leadsOn pool) flow.first label word ↔
      flow.Carries pool label word.toNat := by
  refine ⟨carries_of_met small, fun reached => ?_⟩
  obtain ⟨other, same, met⟩ := met_of_carries small reached
  exact UInt16.toNat_inj.mp same ▸ met

/-- A flow can be explored just when it can be executed. -/
theorem explorable_iff (small : ∀ after, flow.Leaves pool after → after < UInt16.size) :
    Exploration.Explorable (flow.leadsOn pool) flow.first flow.instructions.size ↔
      flow.Executable pool := by
  constructor
  · rintro ⟨inside, leads, unique⟩
    refine ⟨fun label depth reached => ?_, fun label depth other reached reached' => ?_⟩
    · obtain ⟨word, rfl, met⟩ := met_of_carries small reached
      have here := Array.getElem?_eq_getElem (inside _ _ met)
      obtain ⟨pushed, hn⟩ := leads _ _ met
      simp only [leadsOn, here] at hn
      obtain ⟨effect, he, enough, _⟩ := next_eq_ok_iff.mp hn
      exact ⟨_, _, (executes_iff small reached).mpr ⟨here, effect, he, enough, rfl⟩⟩
    · obtain ⟨word, rfl, met⟩ := met_of_carries small reached
      obtain ⟨word', rfl, met'⟩ := met_of_carries small reached'
      rw [unique _ _ _ met met']
  · rintro ⟨executes, unique⟩
    refine ⟨fun label word met => ?_, fun label word met => ?_, fun label word other met met' => ?_⟩
    · obtain ⟨insn, after, ⟨here, _⟩⟩ := executes _ _ (carries_of_met small met)
      exact (Array.getElem?_eq_some_iff.mp here).1
    · have reached := carries_of_met small met
      obtain ⟨insn, after, h⟩ := executes _ _ reached
      obtain ⟨here, effect, he, enough, _⟩ := (executes_iff small reached).mp h
      simp only [leadsOn, here]
      exact ⟨_, next_eq_ok_iff.mpr ⟨effect, he, enough, rfl⟩⟩
    · exact UInt16.toNat_inj.mp
        (unique _ _ _ (carries_of_met small met) (carries_of_met small met'))

/-- The explorations of a flow in some order, and what they come to. -/
abbrev Explores (flow : Flow) (pool : ConstantPool) (outcome : Option (Array (Option UInt16))) :
    Prop :=
  Exploration.Ends (flow.leadsOn pool)
    ⟨flow.first, Array.replicate flow.instructions.size none⟩ outcome

theorem explores_table (flow : Flow) (pool : ConstantPool) :
    flow.Explores pool (table flow.instructions flow.handlers pool).toOption :=
  Exploration.ends_explore _ _ _ _

end Flow

namespace StackDepth

/-- What is the greatest as words is so as numbers. -/
theorem isGreatest_foldl_max {α : Type} (value : α → UInt16) (items : List α) (start : UInt16) :
    IsGreatest {n | n = start.toNat ∨ ∃ item ∈ items, n = (value item).toNat}
      (items.foldl (fun greatest item => max greatest (value item)) start).toNat := by
  induction items generalizing start with
  | nil => simp
  | cons item items ih =>
    have most : (max start (value item)).toNat = max start.toNat (value item).toNat := by
      change (if start ≤ value item then value item else start).toNat = _
      split
      · next le => exact (max_eq_right (UInt16.le_iff_toNat_le.mp le)).symm
      · next lt =>
        rw [UInt16.le_iff_toNat_le, not_le] at lt
        exact (max_eq_left lt.le).symm
    obtain ⟨mem, upper⟩ := ih (max start (value item))
    rw [List.foldl_cons]
    refine ⟨?_, ?_⟩
    · rcases mem with same | ⟨other, hm, same⟩
      · rw [most] at same
        rcases le_total start.toNat (value item).toNat with le | le
        · exact .inr ⟨item, List.mem_cons_self, same.trans (max_eq_right le)⟩
        · exact .inl (same.trans (max_eq_left le))
      · exact .inr ⟨other, List.mem_cons_of_mem _ hm, same⟩
    · have first := upper (.inl most.symm)
      rintro n (rfl | ⟨other, hm, rfl⟩)
      · exact (le_max_left _ _).trans first
      · rcases List.mem_cons.mp hm with rfl | hm
        · exact (le_max_right _ _).trans first
        · exact upper (.inr ⟨other, hm, rfl⟩)

end StackDepth

namespace Flow

variable {flow : Flow} {pool : ConstantPool} {depths : Array (Option UInt16)}
  {label depth after : Nat} {insn : Instruction}

/-- What the stack of a flow can become: as deep as an instruction that is reached leaves it, and
for a handler that can be entered the thrown exception. -/
def Attains (flow : Flow) (pool : ConstantPool) (depth : Nat) : Prop :=
  depth = 0 ∨ (depth = 1 ∧ ∃ handler ∈ flow.handlers, handler.start < handler.stop) ∨
    flow.Leaves pool depth

/-- The greatest depth as it is read off the depths that have been found. -/
theorem isGreatest_of_table (small : ∀ after, flow.Leaves pool after → after < UInt16.size)
    (along : Exploration.Along (flow.leadsOn pool) flow.first flow.instructions.size ⟨0, depths⟩) :
    IsGreatest {depth | flow.Attains pool depth}
      ((flow.instructions.toList.zip depths.toList).foldl
        (fun greatest item => max greatest (depthAfter pool item.1 item.2))
        (if (entered flow.handlers).isEmpty then 0 else 1)).toNat := by
  have reached (label : Nat) (word : UInt16) :
      depths[label]? = some (some word) ↔ flow.Carries pool label word.toNat :=
    (along.getElem?_iff label word).trans (met_iff small)
  have executable := (explorable_iff small).mp along.explorable
  have entering : (entered flow.handlers).isEmpty = false ↔
      ∃ handler ∈ flow.handlers, handler.start < handler.stop := by
    rw [List.isEmpty_eq_false_iff_exists_mem]
    simp [entered]
  have item_iff (insn : Instruction) (depth : Option UInt16) :
      (insn, depth) ∈ flow.instructions.toList.zip depths.toList ↔
        ∃ label : Nat, flow.instructions[label]? = some insn ∧ depths[label]? = some depth := by
    simp [List.mem_iff_getElem?, List.getElem?_zip_eq_some]
  obtain ⟨mem, upper⟩ := isGreatest_foldl_max (fun item => depthAfter pool item.1 item.2)
    (flow.instructions.toList.zip depths.toList)
    (if (entered flow.handlers).isEmpty then 0 else 1)
  refine ⟨?_, ?_⟩
  · rcases mem with same | ⟨⟨insn, found⟩, hm, same⟩
    · rw [same]
      split
      · exact .inl rfl
      · next some => exact .inr (.inl ⟨rfl, entering.mp (by simpa using some)⟩)
    · rw [same]
      obtain ⟨label, here, hd⟩ := (item_iff insn found).mp hm
      cases found with
      | none => exact .inl rfl
      | some word =>
        have hr := (reached label word).mp hd
        obtain ⟨insn', after, executes⟩ := executable.executes _ _ hr
        obtain ⟨here', effect, he, _, rfl⟩ := (executes_iff small hr).mp executes
        cases here.symm.trans here'
        refine .inr (.inr ⟨label, word.toNat, insn, hr, ?_⟩)
        simpa [depthAfter, he] using executes
  · rintro depth (rfl | ⟨rfl, covers⟩ | ⟨label, before, insn, hr, executes⟩)
    · exact Nat.zero_le _
    · refine upper (.inl ?_)
      rw [entering.mpr covers]
      rfl
    · obtain ⟨word, rfl, met⟩ := met_of_carries small hr
      obtain ⟨here, effect, he, _, rfl⟩ := (executes_iff small hr).mp executes
      refine upper (.inr ⟨(insn, some word), (item_iff _ _).mpr
        ⟨label, here, (reached label word).mpr hr⟩, ?_⟩)
      simp [depthAfter, he]

/-- As long as depths fit into two bytes, the greatest depth is found just for flows that can be
executed, and is the greatest that their stack can attain. Every order in which the pending labels
are taken comes to an end, and to the same one. -/
theorem maximum_eq_ok_iff (flow : Flow) (pool : ConstantPool) :
    ((∀ after, flow.Leaves pool after → after < UInt16.size) →
      ∀ greatest, StackDepth.maximum flow.instructions flow.handlers pool = .ok greatest ↔
        flow.Executable pool ∧ IsGreatest {depth | flow.Attains pool depth} greatest.toNat) ∧
    (WellFounded fun after before => Exploration.Step (flow.leadsOn pool) before after) ∧
    ∀ outcome, flow.Explores pool outcome ↔
      outcome = (table flow.instructions flow.handlers pool).toOption := by
  refine ⟨fun small greatest => ?_, Exploration.wellFounded_step _, fun outcome =>
    ⟨fun explores => explores.unique (flow.explores_table pool), ?_⟩⟩
  · have ends := (Exploration.Along.start (flow.leadsOn pool) flow.first
      flow.instructions.size).ends (flow.explores_table pool)
    unfold StackDepth.maximum
    rw [Except.bind_eq_ok_iff]
    cases h : table flow.instructions flow.handlers pool with
    | error fault =>
      rw [h] at ends
      obtain ⟨_, no⟩ := ends.resolve_right fun ⟨_, same, _⟩ => by cases same
      constructor
      · rintro ⟨_, found, _⟩
        cases found
      · rintro ⟨executable, _⟩
        exact absurd ((explorable_iff small).mpr executable) no
    | ok depths =>
      rw [h] at ends
      obtain ⟨_, same, along⟩ := ends.resolve_left fun ⟨no, _⟩ => by cases no
      cases same
      have isGreatest := isGreatest_of_table small along
      constructor
      · rintro ⟨_, found, same⟩
        cases found
        cases same
        exact ⟨(explorable_iff small).mp along.explorable, isGreatest⟩
      · rintro ⟨_, greatest'⟩
        exact ⟨depths, rfl, Except.pure_eq_ok_iff.mpr
          (UInt16.toNat_inj.mp (isGreatest.unique greatest'))⟩
  · rintro rfl
    exact flow.explores_table pool

/-- A loop that a handler guards. -/
def guardedLoop : Flow where
  instructions := #[.plain 0x04 [], .branch 0x9a 0, .plain 0xb1 [], .plain Opcode.athrow []]
  handlers := [⟨0, 2, 3, 0⟩]

theorem executes_guardedLoop (executes : guardedLoop.Executes .empty label depth insn after) :
    (label = 0 ∧ insn = .plain 0x04 [] ∧ after = depth + 1) ∨
      (label = 1 ∧ insn = .branch 0x9a 0 ∧ after = depth - 1) ∨
      (label = 2 ∧ insn = .plain 0xb1 [] ∧ after = depth) ∨
      (label = 3 ∧ insn = .plain Opcode.athrow [] ∧ after = depth - 1) := by
  obtain ⟨here, effect, he, enough, rfl⟩ := executes
  match label, here with
  | 0, here => cases here; cases he; exact .inl ⟨rfl, rfl, rfl⟩
  | 1, here => cases here; cases he; exact .inr (.inl ⟨rfl, rfl, rfl⟩)
  | 2, here => cases here; cases he; exact .inr (.inr (.inl ⟨rfl, rfl, rfl⟩))
  | 3, here => cases here; cases he; exact .inr (.inr (.inr ⟨rfl, rfl, rfl⟩))
  | label + 4, here => cases here

theorem carries_guardedLoop (reached : guardedLoop.Carries .empty label depth) :
    (label = 0 ∧ depth = 0) ∨ (label = 1 ∧ depth = 1) ∨ (label = 2 ∧ depth = 0) ∨
      (label = 3 ∧ depth = 1) := by
  induction reached with
  | start => exact .inl ⟨rfl, rfl⟩
  | handler hm =>
    obtain rfl := List.mem_singleton.mp hm
    exact .inr (.inr (.inr ⟨rfl, rfl⟩))
  | jump _ executes ht ih =>
    rcases executes_guardedLoop executes with ⟨rfl, rfl, rfl⟩ | ⟨rfl, rfl, rfl⟩ | ⟨rfl, rfl, rfl⟩ |
      ⟨rfl, rfl, rfl⟩
    all_goals simp [Instruction.targets] at ht
    omega
  | next _ executes goes plain ih =>
    rcases executes_guardedLoop executes with ⟨rfl, rfl, rfl⟩ | ⟨rfl, rfl, rfl⟩ | ⟨rfl, rfl, rfl⟩ |
      ⟨rfl, rfl, rfl⟩
    · omega
    · omega
    · cases goes
    · cases goes
  | resume _ executes call =>
    rcases executes_guardedLoop executes with ⟨_, rfl, _⟩ | ⟨_, rfl, _⟩ | ⟨_, rfl, _⟩ | ⟨_, rfl, _⟩
    all_goals cases call

theorem maximum_eq_ok_iff_guardedLoop :
    (∀ after, guardedLoop.Leaves .empty after → after < UInt16.size) ∧
      StackDepth.maximum guardedLoop.instructions guardedLoop.handlers .empty = .ok 1 ∧
      guardedLoop.Executable .empty ∧ IsGreatest {depth | guardedLoop.Attains .empty depth} 1 := by
  have small (after : Nat) (h : guardedLoop.Leaves .empty after) : after < UInt16.size := by
    obtain ⟨label, depth, insn, reached, executes⟩ := h
    have place := carries_guardedLoop reached
    have left := executes_guardedLoop executes
    change after < 65536
    omega
  have found : StackDepth.maximum guardedLoop.instructions guardedLoop.handlers .empty = .ok 1 := by
    cbv
  obtain ⟨executable, greatest⟩ := ((maximum_eq_ok_iff guardedLoop .empty).1 small 1).mp found
  exact ⟨small, found, executable, greatest⟩

end Flow

end MethodTrace
