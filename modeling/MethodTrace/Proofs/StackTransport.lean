import MethodTrace.Proofs.Rewriting
import MethodTrace.Proofs.StackReplay

/-!
The stack depths of a method and those of its traced flow.

Markers leave the stack as it is, so execution comes to the new place of an instruction with every
depth with which it has come to the old one. The replay of a traced flow therefore finds all that is
wrong with the depths of the method, except where its execution runs to the end of the code: there
the added handler stands now.
-/

namespace MethodTrace

open StackDepth

namespace StackEffect

variable {pool later : ConstantPool} {insn laid : Instruction} {effect : StackEffect}

theorem ofField_extends (hext : pool.Extends later) (h : ofField pool insn = .ok effect) :
    ofField later insn = .ok effect := by
  obtain ⟨index, hi, h⟩ := Except.bind_eq_ok_iff.mp h
  obtain ⟨field, hf, h⟩ := Except.bind_eq_ok_iff.mp h
  exact Except.bind_eq_ok_iff.mpr ⟨index, hi,
    Except.bind_eq_ok_iff.mpr ⟨field, hext.memberRef hf, h⟩⟩

theorem dynamicDescriptor_extends (hext : pool.Extends later) {index : UInt16} {text : String}
    (h : pool.dynamicDescriptor index = .ok text) : later.dynamicDescriptor index = .ok text := by
  unfold ConstantPool.dynamicDescriptor at h ⊢
  split at h
  · next hg =>
    obtain ⟨pair, hp, h⟩ := Except.bind_eq_ok_iff.mp h
    rw [hext.get? hg]
    exact Except.bind_eq_ok_iff.mpr ⟨pair, hext.nameAndType hp, h⟩
  · next hg =>
    obtain ⟨pair, hp, h⟩ := Except.bind_eq_ok_iff.mp h
    rw [hext.get? hg]
    exact Except.bind_eq_ok_iff.mpr ⟨pair, hext.nameAndType hp, h⟩
  · cases h

theorem ofCall_extends (hext : pool.Extends later) (h : ofCall pool insn = .ok effect) :
    ofCall later insn = .ok effect := by
  obtain ⟨index, hi, h⟩ := Except.bind_eq_ok_iff.mp h
  refine Except.bind_eq_ok_iff.mpr ⟨index, hi, ?_⟩
  dsimp only at h ⊢
  split at h
  · next dynamic =>
    rw [if_pos dynamic]
    obtain ⟨text, ht, h⟩ := Except.bind_eq_ok_iff.mp h
    exact Except.bind_eq_ok_iff.mpr ⟨text, dynamicDescriptor_extends hext ht, h⟩
  · next dynamic =>
    rw [if_neg dynamic]
    obtain ⟨text, ht, h⟩ := Except.bind_eq_ok_iff.mp h
    obtain ⟨member, hm, rfl⟩ := Except.map_eq_ok_iff.mp ht
    exact Except.bind_eq_ok_iff.mpr
      ⟨_, Except.map_eq_ok_iff.mpr ⟨member, hext.memberRef hm, rfl⟩, h⟩

/-- An effect is the same in every later pool. -/
theorem ofInstruction_extends (hext : pool.Extends later)
    (h : ofInstruction pool insn = .ok effect) : ofInstruction later insn = .ok effect := by
  unfold ofInstruction at h ⊢
  split at h
  · exact h
  split at h
  · next field =>
    rw [if_pos field]
    exact ofField_extends hext h
  next field =>
  rw [if_neg field]
  split at h
  · next call =>
    rw [if_pos call]
    exact ofCall_extends hext h
  · next call =>
    rw [if_neg call]
    exact h

theorem ofInstruction_mapTargets (pool : ConstantPool) (insn : Instruction) (f : Label → Label) :
    ofInstruction pool (insn.mapTargets f) = ofInstruction pool insn := by
  cases insn <;> rfl

theorem ofInstruction_widens (h : insn.Widens laid) :
    ofInstruction pool laid = ofInstruction pool insn := by
  cases h with
  | same => rfl
  | jump _ hw => rcases Instruction.wideForm?_eq_some hw with ⟨rfl, rfl⟩ | ⟨rfl, rfl⟩ <;> rfl

theorem ofInstruction_loadText (pool : ConstantPool) (index : UInt16) :
    ofInstruction pool (TracedBody.loadText index) = .ok ⟨0, 1⟩ := by
  unfold TracedBody.loadText
  split <;> rfl

/-- The effect of a static call follows from the descriptor of the method. -/
theorem ofInstruction_staticCall {index : UInt16} {method : MemberRef}
    {descriptor : MethodDescriptor} (h : pool.memberRef index = .ok method)
    (hd : MethodDescriptor.parse method.descriptor = .ok descriptor) :
    ofInstruction pool (.withIndex Opcode.invokestatic index)
      = .ok ⟨descriptor.argumentSlots, descriptor.resultSlots⟩ := by
  have called : ofInstruction pool (.withIndex Opcode.invokestatic index)
      = ofCall pool (.withIndex Opcode.invokestatic index) := rfl
  have constant : constantOf (.withIndex Opcode.invokestatic index) = .ok index := by
    rw [constantOf, Instruction.indexOperand?_withIndex]
  rw [called]
  refine Except.bind_eq_ok_iff.mpr ⟨index, constant, ?_⟩
  refine Except.bind_eq_ok_iff.mpr ⟨method.descriptor, Except.map_eq_ok_iff.mpr ⟨method, h, rfl⟩, ?_⟩
  refine Except.bind_eq_ok_iff.mpr ⟨descriptor, hd, ?_⟩
  rw [if_pos (.inl rfl)]
  dsimp only
  rw [UInt16.add_zero]
  rfl

theorem ofInstruction_beginCall {index : UInt16} {hooks : Hooks}
    (h : pool.memberRef index = .ok hooks.beginHook) :
    ofInstruction pool (.withIndex Opcode.invokestatic index) = .ok ⟨1, 0⟩ :=
  @ofInstruction_staticCall _ _ _ ⟨[⟨0, .object "java/lang/String".toList⟩], none⟩ h (by cbv)

theorem ofInstruction_endCall {index : UInt16} {hooks : Hooks}
    (h : pool.memberRef index = .ok hooks.endHook) :
    ofInstruction pool (.withIndex Opcode.invokestatic index) = .ok ⟨0, 0⟩ :=
  @ofInstruction_staticCall _ _ _ ⟨[], none⟩ h (by cbv)

end StackEffect

theorem TracedBody.loadText_not_subroutineCall (index : UInt16) :
    (loadText index).opcode.isSubroutineCall = false := by
  obtain ⟨opcode, operands, load, rfl | rfl⟩ := loadText_cases index
  · rw [load]
    rfl
  · rw [load]
    rfl

theorem StackDepth.depthBehind?_laid {insn laid : Instruction} {f : Label → Label}
    (hw : (insn.mapTargets f).Widens laid) (depth after : UInt16) :
    depthBehind? laid depth after = depthBehind? insn depth after := by
  rw [depthBehind?, depthBehind?, hw.isSubroutineCall, hw.endsBlock,
    Instruction.opcode_mapTargets, Instruction.endsBlock_mapTargets]

theorem StackDepth.next_extends {pool later : ConstantPool} {insn : Instruction} {label : Label}
    {depth : UInt16} {pushed : List (Label × UInt16)} (hext : pool.Extends later)
    (h : next pool insn label depth = .ok pushed) : next later insn label depth = .ok pushed := by
  obtain ⟨effect, he, enough, rfl⟩ := next_eq_ok_iff.mp h
  exact next_eq_ok_iff.mpr ⟨effect, StackEffect.ofInstruction_extends hext he, enough, rfl⟩

/-- What is replayed in a pool is replayed in every later one. -/
theorem Flow.Replays.extends {flow : Flow} {pool later : ConstantPool} (h : flow.Replays pool)
    (hext : pool.Extends later) : flow.Replays later := by
  obtain ⟨leads, unique⟩ := replays_iff.mp h
  have earlier : ∀ label depth, flow.MetWith later label depth → flow.MetWith pool label depth := by
    intro label depth met
    induction met with
    | root h => exact .root h
    | @step label target depth left insn pushed _ here hn he ih =>
      obtain ⟨found, others, hf, hp⟩ := leads label depth ih
      cases here.symm.trans hf
      cases hn.symm.trans (next_extends hext hp)
      exact .step ih here hp he
  refine replays_iff.mpr ⟨fun label depth met => ?_, fun label depth other met met' =>
    unique label depth other (earlier _ _ met) (earlier _ _ met')⟩
  obtain ⟨insn, pushed, here, hp⟩ := leads label depth (earlier _ _ met)
  exact ⟨insn, pushed, here, next_extends hext hp⟩

/-- Execution goes on from an instruction with the depth that it leaves. -/
theorem Flow.Replays.goes_on {flow : Flow} {pool : ConstantPool} {label : Nat} {depth : UInt16}
    {insn : Instruction} {effect : StackEffect} (h : flow.Replays pool)
    (met : flow.MetWith pool label depth) (here : flow.instructions[label]? = some insn)
    (he : StackEffect.ofInstruction pool insn = .ok effect) (goes : insn.endsBlock = false)
    (plain : insn.opcode.isSubroutineCall = false) :
    flow.MetWith pool (label + 1) (effect.apply depth) := by
  obtain ⟨found, pushed, hf, hp⟩ := (replays_iff.mp h).1 label depth met
  cases here.symm.trans hf
  obtain ⟨same, hs, _, rfl⟩ := next_eq_ok_iff.mp hp
  cases he.symm.trans hs
  refine .step met here hp (mem_leadsTo_iff.mpr (.inr ⟨rfl, ?_⟩))
  simp [depthBehind?, goes, plain]

namespace Traced

variable {hooks : Hooks} {indices : HookIndices} {anchor : Label} {tag : UInt16} {old new : Flow}
  {ranges : List (Label × Label)} {pool later : ConstantPool} {label : Nat} {depth : UInt16}
  (h : Traced (TracedBody.markers indices anchor tag) old new ranges) (hnew : new.Replays later)
  (hbegin : later.memberRef indices.beginHook = .ok hooks.beginHook)
  (hend : later.memberRef indices.endHook = .ok hooks.endHook)

include h hnew

include hbegin in
/-- The prologue is passed with the depth with which it is met. -/
theorem met_target (met : new.MetWith later
      ((TracedBody.markers indices anchor tag).entry old.instructions label) depth) :
    new.MetWith later
      ((TracedBody.markers indices anchor tag).target old.instructions label) depth := by
  rw [Markers.target, Markers.opening]
  split
  · next here =>
    obtain ⟨rfl, lt⟩ := here
    have opening : (TracedBody.markers indices label tag).opening old.instructions label = 2 :=
      Markers.opening_anchor lt
    have load := h.prologue label lt 0 (by omega)
    have call := h.prologue label lt 1 (by omega)
    have loaded := hnew.goes_on met load (StackEffect.ofInstruction_loadText later tag)
      (TracedBody.loadText_endsBlock tag) (TracedBody.loadText_not_subroutineCall tag)
    have called := hnew.goes_on loaded call (StackEffect.ofInstruction_beginCall hbegin) rfl rfl
    have same : StackEffect.apply ⟨1, 0⟩ (StackEffect.apply ⟨0, 1⟩ depth) = depth := by
      simp [StackEffect.apply]
    rwa [same] at called
  · exact met

include hend in
/-- An end call is passed with the depth with which it is met. -/
theorem met_place (hl : label < old.instructions.size)
    (met : new.MetWith later
      ((TracedBody.markers indices anchor tag).target old.instructions label) depth) :
    new.MetWith later
      ((TracedBody.markers indices anchor tag).place old.instructions label) depth := by
  rw [Markers.place]
  rcases Markers.closing_cases old.instructions label with closing | closing
  · rw [closing]
    exact met
  · have called := hnew.goes_on met (h.endCall label hl closing)
      (StackEffect.ofInstruction_endCall hend) rfl rfl
    have same : StackEffect.apply ⟨0, 0⟩ depth = depth := by simp [StackEffect.apply]
    rw [closing]
    rwa [same] at called

include hbegin hend in
/-- Execution comes to the new places with the depths with which it has come to the old ones. -/
theorem met_of_met (hext : pool.Extends later) (met : old.MetWith pool label depth) :
    label ≤ old.instructions.size ∧ new.MetWith later
      ((TracedBody.markers indices anchor tag).target old.instructions label) depth := by
  induction met with
  | @root label depth root =>
    rcases List.mem_append.mp root with root | root
    · split at root
      · cases root
      · next nonempty =>
        cases List.mem_singleton.mp root
        refine ⟨Nat.zero_le _, h.met_target hnew hbegin (.root (List.mem_append_left _ ?_))⟩
        have pos : 0 < old.instructions.size := by
          rw [Array.isEmpty_iff_size_eq_zero] at nonempty
          omega
        obtain ⟨laid, hl, _⟩ := h.original 0 _ (Array.getElem?_eq_getElem pos)
        have filled : new.instructions.isEmpty = false := by
          rw [Array.isEmpty_eq_false_iff]
          rintro empty
          simp [empty] at hl
        rw [filled]
        exact List.mem_singleton_self _
    · obtain ⟨handler, hh, same⟩ := List.mem_map.mp root
      cases same
      obtain ⟨hm, proper⟩ := List.mem_filter.mp hh
      refine ⟨(h.handlers_le handler hm).2.2, .root (List.mem_append_right _ ?_)⟩
      refine List.mem_map.mpr
        ⟨(TracedBody.markers indices anchor tag).move old.instructions handler, ?_, rfl⟩
      refine List.mem_filter.mpr ⟨?_, ?_⟩
      · rw [h.handlers]
        exact List.mem_append_left _ (List.mem_map_of_mem hm)
      · have lt : (handler.start : Nat) < handler.stop := of_decide_eq_true proper
        exact decide_eq_true (Markers.target_lt_target _ _ lt)
  | @step label target depth left insn pushed _ here hn he ih =>
    have lt := (Array.getElem?_eq_some_iff.mp here).1
    obtain ⟨laid, there, hw⟩ := h.original label insn here
    have placed := h.met_place hnew hend lt ih.2
    obtain ⟨effect, heffect, _, rfl⟩ := next_eq_ok_iff.mp hn
    obtain ⟨found, others, hf, hp⟩ := (Flow.replays_iff.mp hnew).1 _ _ placed
    cases there.symm.trans hf
    obtain ⟨same, hs, _, rfl⟩ := next_eq_ok_iff.mp hp
    rw [StackEffect.ofInstruction_widens hw, StackEffect.ofInstruction_mapTargets,
      StackEffect.ofInstruction_extends hext heffect] at hs
    cases hs
    rcases mem_leadsTo_iff.mp he with ⟨jumps, rfl⟩ | ⟨rfl, behind⟩
    · refine ⟨h.targets_le insn (Array.mem_of_getElem? here) target jumps, .step placed there hp ?_⟩
      refine mem_leadsTo_iff.mpr (.inl ⟨?_, rfl⟩)
      rw [hw.targets, Instruction.targets_mapTargets]
      exact List.mem_map_of_mem jumps
    · refine ⟨lt, h.met_target hnew hbegin (.step placed there hp ?_)⟩
      refine mem_leadsTo_iff.mpr (.inr ⟨rfl, ?_⟩)
      rw [depthBehind?_laid hw]
      exact behind

include hbegin hend in
theorem depth_unique (hext : pool.Extends later) {other : UInt16}
    (met : old.MetWith pool label depth) (met' : old.MetWith pool label other) : depth = other :=
  (Flow.replays_iff.mp hnew).2 _ depth other (h.met_of_met hnew hbegin hend hext met).2
    (h.met_of_met hnew hbegin hend hext met').2

include hbegin hend in
/-- No instruction is met with fewer slots than it pops. -/
theorem pops_le (hext : pool.Extends later) (met : old.MetWith pool label depth)
    {insn : Instruction} {effect : StackEffect} (here : old.instructions[label]? = some insn)
    (he : StackEffect.ofInstruction pool insn = .ok effect) : effect.pops ≤ depth := by
  have lt := (Array.getElem?_eq_some_iff.mp here).1
  obtain ⟨laid, there, hw⟩ := h.original label insn here
  have placed := h.met_place hnew hend lt (h.met_of_met hnew hbegin hend hext met).2
  obtain ⟨found, pushed, hf, hp⟩ := (Flow.replays_iff.mp hnew).1 _ _ placed
  cases there.symm.trans hf
  obtain ⟨same, hs, enough, _⟩ := next_eq_ok_iff.mp hp
  rw [StackEffect.ofInstruction_widens hw, StackEffect.ofInstruction_mapTargets,
    StackEffect.ofInstruction_extends hext he] at hs
  cases hs
  exact enough

include hbegin hend in
/-- Execution comes to the end of the code with the one slot that the added handler takes. -/
theorem lt_size_or_end (hext : pool.Extends later) (met : old.MetWith pool label depth) :
    label < old.instructions.size ∨ label = old.instructions.size ∧ depth = 1 := by
  obtain ⟨le, there⟩ := h.met_of_met hnew hbegin hend hext met
  rcases Nat.lt_or_eq_of_le le with lt | rfl
  · exact .inl lt
  refine .inr ⟨rfl, ?_⟩
  obtain ⟨leads, unique⟩ := Flow.replays_iff.mp hnew
  rw [Markers.target_size] at there
  have guarded : ranges ≠ [] := by
    intro bare
    obtain ⟨insn, _, here, _⟩ := leads _ _ there
    have lt := (Array.getElem?_eq_some_iff.mp here).1
    rw [h.bare bare] at lt
    exact Nat.lt_irrefl _ lt
  obtain ⟨range, hr⟩ := List.exists_mem_of_ne_nil ranges guarded
  refine unique _ depth 1 there (.root (List.mem_append_right _ (List.mem_map.mpr
    ⟨(TracedBody.markers indices anchor tag).guard old.instructions range, ?_, rfl⟩)))
  refine List.mem_filter.mpr ⟨?_, decide_eq_true (h.proper range hr)⟩
  rw [h.handlers]
  exact List.mem_append_right _ (List.mem_map_of_mem hr)

include hbegin hend in
/-- The depths of the method itself can be replayed unless its execution runs to the end of the code
or needs a constant that only the new pool has. -/
theorem replays_former_iff (hext : pool.Extends later) : old.Replays pool ↔
    ∀ label depth, old.MetWith pool label depth → ∃ insn effect,
      old.instructions[label]? = some insn ∧
        StackEffect.ofInstruction pool insn = .ok effect := by
  rw [Flow.replays_iff]
  constructor
  · rintro ⟨leads, _⟩ label depth met
    obtain ⟨insn, pushed, here, hp⟩ := leads label depth met
    obtain ⟨effect, he, _⟩ := next_eq_ok_iff.mp hp
    exact ⟨insn, effect, here, he⟩
  · intro stands
    refine ⟨fun label depth met => ?_, fun label depth other met met' =>
      h.depth_unique hnew hbegin hend hext met met'⟩
    obtain ⟨insn, effect, here, he⟩ := stands label depth met
    have enough := h.pops_le hnew hbegin hend hext met here he
    exact ⟨insn, _, here, next_eq_ok_iff.mpr ⟨effect, he, enough, rfl⟩⟩

end Traced

/-- What can be known of the depths of a method without a replay of its own: only that it runs to
the end of its code or needs a constant that its pool does not have may stay unseen. -/
structure Flow.DepthsSettled (flow : Flow) (pool : ConstantPool) : Prop where
  unique : ∀ label depth other, flow.MetWith pool label depth → flow.MetWith pool label other →
    depth = other
  pops_le : ∀ label depth insn effect, flow.MetWith pool label depth →
    flow.instructions[label]? = some insn → StackEffect.ofInstruction pool insn = .ok effect →
    effect.pops ≤ depth
  lt_size_or_end : ∀ label depth, flow.MetWith pool label depth →
    label < flow.instructions.size ∨ label = flow.instructions.size ∧ depth = 1
  replays_iff : flow.Replays pool ↔ ∀ label depth, flow.MetWith pool label depth →
    ∃ insn effect, flow.instructions[label]? = some insn ∧
      StackEffect.ofInstruction pool insn = .ok effect

open Instrumented

/-- What the replay of a traced method says of the stack depths of the method that it was. -/
theorem instrument_replays {file : ClassFile} {selects : String → Bool} {hooks : Hooks}
    {result : Instrumented} (h : instrument file selects hooks = .ok (some result))
    (hp : file.pool.Numbered) :
    ∃ rewritten, rewrite file selects hooks = .ok (rewritten, result.file.pool) ∧
      result.file.methods = rewritten.foldl replaceBody file.methods ∧
      ∀ r ∈ rewritten, r.flow.Replays result.file.pool ∧
        ∃ old, r.selected.flow = .ok old ∧ old.DepthsSettled file.pool := by
  obtain ⟨rewritten, hr, hne, hm⟩ := instrument_eq_some h
  refine ⟨rewritten, hr, hm, fun r hmem => ?_⟩
  obtain ⟨selection, indices, hs, hext, hresolve, hall⟩ := rewrite_stories hr
  obtain ⟨hbegin, hend⟩ := hresolve hp hne
  obtain ⟨selected, hmem', rfl, ⟨story⟩⟩ := forall₂_exists_left hall hmem
  obtain ⟨ranges, traced⟩ := story.steps.exists_traced (selection_code hs _ hmem')
  have woven : r.flow.Replays story.steps.woven := by
    rw [story.flow_eq]
    exact ⟨_, story.steps.depth_eq⟩
  have hnew := woven.extends (story.steps.woven_extends_later.trans story.extends_pool)
  rw [← story.flow_eq] at traced
  refine ⟨hnew, _, Except.map_eq_ok_iff.mpr ⟨_, story.steps.handlers_eq, rfl⟩, ?_, ?_, ?_, ?_⟩
  · intro label depth other met met'
    exact traced.depth_unique hnew hbegin hend hext met met'
  · intro label depth insn effect met here he
    exact traced.pops_le hnew hbegin hend hext met here he
  · intro label depth met
    exact traced.lt_size_or_end hnew hbegin hend hext met
  · exact traced.replays_former_iff hnew hbegin hend hext

/-- Whether a class has methods to be rewritten. -/
def rewritesSome (file : ClassFile) : Bool :=
  match rewrite file (fun _ => true) {} with
  | .ok (_ :: _, _) => true
  | _ => false

theorem instrument_replays_branchingClass :
    ∃ result, instrument branchingClass (fun _ => true) {} = .ok (some result) ∧
      branchingClass.pool.Numbered ∧
      ∃ rewritten, rewrite branchingClass (fun _ => true) {} = .ok (rewritten, result.file.pool) ∧
        rewritten ≠ [] ∧ ∀ r ∈ rewritten, r.flow.Replays result.file.pool ∧
          ∃ old, r.selected.flow = .ok old ∧ old.DepthsSettled branchingClass.pool := by
  have rewrites : rewritesSome branchingClass = true := by cbv
  unfold rewritesSome at rewrites
  split at rewrites
  · next r rewritten pool hr =>
    obtain ⟨result, h⟩ := instrument_of_rewrite hr rfl
    obtain ⟨found, hf, _, settled⟩ := instrument_replays h (by decide)
    cases hr.symm.trans hf
    exact ⟨result, h, by decide, _, hf, List.cons_ne_nil _ _, settled⟩
  · cases rewrites

/-- A class with one method, which loads a value and runs to the end of its code. -/
def openEndedClass : ClassFile :=
  { branchingClass with
    methods := [⟨9, 3, 4, [⟨5, [0, 1, 0, 0, 0, 0, 0, 1, 0x01, 0, 0, 0, 0]⟩]⟩] }

/-- Whether the first method that is rewritten can be replayed only as it is rewritten. -/
def replaysOnlyRewritten (file : ClassFile) : Bool :=
  match rewrite file (fun _ => true) {} with
  | .ok (r :: _, pool) =>
    (StackDepth.maximum r.flow.instructions r.flow.handlers pool matches .ok _) &&
      match r.selected.flow with
      | .ok old => (StackDepth.maximum old.instructions old.handlers file.pool matches .error _)
      | .error _ => false
  | _ => false

/-- A traced method that can be replayed may come from one that cannot. -/
theorem not_instrument_replays_iff :
    ¬∀ (file : ClassFile) (selects : String → Bool) (hooks : Hooks) (result : Instrumented)
      (rewritten : List Rewritten), instrument file selects hooks = .ok (some result) →
      rewrite file selects hooks = .ok (rewritten, result.file.pool) →
      ∀ r ∈ rewritten, ∀ old, r.selected.flow = .ok old →
        (r.flow.Replays result.file.pool ↔ old.Replays file.pool) := by
  intro claim
  have only : replaysOnlyRewritten openEndedClass = true := by cbv
  unfold replaysOnlyRewritten at only
  split at only
  · next r rewritten pool hr =>
    obtain ⟨replays, fails⟩ := Bool.and_eq_true_iff.mp only
    obtain ⟨result, h⟩ := instrument_of_rewrite hr rfl
    obtain ⟨found, hf, _, _⟩ := instrument_eq_some h
    cases hr.symm.trans hf
    split at fails
    · next old ho =>
      have same := claim _ _ _ result _ h hr r List.mem_cons_self old ho
      have new : r.flow.Replays result.file.pool := by
        split at replays
        · next depth hd => exact ⟨depth, hd⟩
        · cases replays
      obtain ⟨depth, hd⟩ := same.mp new
      rw [hd] at fails
      cases fails
    · cases fails
  · cases only

end MethodTrace
