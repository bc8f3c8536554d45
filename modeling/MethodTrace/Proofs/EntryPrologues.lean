import MethodTrace.Proofs.ConstructorEntry
import MethodTrace.Proofs.KeptParts

/-!
The prologue of a traced method.

It is woven in when the instruction at the anchor is met. Before and behind it nothing but end calls
is added, each before a return, and the handler of every exception at the end. An anchor behind the
last instruction is never met: the end calls are woven in there without a prologue.
-/

namespace MethodTrace

open ConstantPool Weaving

theorem Markers.entry_eq_length (markers : Markers) (old : Array Instruction) {label : Nat}
    (hl : label ≤ old.size) (ha : label ≤ markers.anchor) : markers.entry old label
      = ((old.toList.take label).flatMap (·.closed markers.endCall)).length := by
  induction label with
  | zero => rfl
  | succ label ih =>
    have hi : old[label]? = some old[label] := Array.getElem?_eq_getElem hl
    have opening : markers.opening old label = 0 := opening_of_ne (Nat.ne_of_lt ha)
    have one : (old[label].closed markers.endCall).length = closing old label + 1 := by
      rw [closed_eq hi, List.length_append, List.length_replicate, List.length_singleton]
    have taken : old.toList.take (label + 1) = old.toList.take label ++ [old[label]] := by
      rw [List.take_add_one, Array.getElem?_toList, hi]
      rfl
    rw [entry_succ, place, target, opening, ih (Nat.le_of_succ_le hl) (Nat.le_of_succ_le ha), taken,
      List.flatMap_append, List.flatMap_singleton, List.length_append, one]
    omega

namespace Weaving

variable {markers : Markers} {woven : Weaving}

theorem foldl_add_relocation_size (markers : Markers) (insns : List Instruction)
    (woven : Weaving) :
    (insns.foldl (add markers) woven).relocation.size = woven.relocation.size + insns.length := by
  induction insns generalizing woven with
  | nil => rfl
  | cons insn insns ih =>
    rw [List.foldl_cons, ih, add_relocation_size, List.length_cons]
    omega

/-- Away from the anchor nothing but end calls is woven in. -/
theorem foldl_add_instructions {insns : List Instruction}
    (h : woven.relocation.size + insns.length ≤ markers.anchor ∨
      woven.relocation.size > markers.anchor) :
    (insns.foldl (add markers) woven).instructions.toList
      = woven.instructions.toList ++ insns.flatMap (·.closed markers.endCall) := by
  induction insns generalizing woven with
  | nil => rw [List.foldl_nil, List.flatMap_nil, List.append_nil]
  | cons insn insns ih =>
    rw [List.length_cons] at h
    have elsewhere : woven.relocation.size ≠ markers.anchor := by omega
    rw [List.foldl_cons, ih (by rw [add_relocation_size]; omega), add_instructions,
      if_neg elsewhere, List.append_nil, List.flatMap_cons, List.append_assoc]

/-- The prologue is woven in once if the anchor is met, and never if not. -/
theorem weave_toList (markers : Markers) (old : Array Instruction) :
    (weave markers old).instructions.toList =
      ((old.toList.take markers.anchor).flatMap (·.closed markers.endCall)
        ++ (if markers.anchor < old.size then markers.prologue else [])
        ++ (old.toList.drop markers.anchor).flatMap (·.closed markers.endCall)).map
          (·.mapTargets (weave markers old).relocate) := by
  rw [weave_instructions, Array.toList_map, ← Array.foldl_toList]
  refine congrArg _ ?_
  conv_lhs => rw [← List.take_append_drop markers.anchor old.toList, List.foldl_append]
  have front := @foldl_add_instructions markers ⟨#[], #[], #[]⟩ (old.toList.take markers.anchor)
    (.inl (by simp))
  have met := foldl_add_relocation_size markers (old.toList.take markers.anchor) ⟨#[], #[], #[]⟩
  rw [List.length_take, Array.length_toList] at met
  split
  · next inside =>
    have met : ((old.toList.take markers.anchor).foldl (add markers)
        ⟨#[], #[], #[]⟩).relocation.size = markers.anchor := by
      rw [met, Nat.min_eq_left inside.le]
      exact Nat.zero_add _
    have behind (insn : Instruction) : (add markers ((old.toList.take markers.anchor).foldl
        (add markers) ⟨#[], #[], #[]⟩) insn).relocation.size > markers.anchor := by
      rw [add_relocation_size, met]
      exact Nat.lt_succ_self _
    rw [List.drop_eq_getElem_cons (by simpa using inside), List.foldl_cons,
      foldl_add_instructions (.inr (behind _)), add_instructions, front, if_pos met,
      List.flatMap_cons]
    simp only [List.nil_append, List.append_assoc]
  · next outside =>
    rw [List.drop_eq_nil_of_le (by simpa using outside), List.foldl_nil, front]
    simp

end Weaving

theorem Layout.Widened.forall₂ {instructions laid : Array Instruction}
    (h : Layout.Widened instructions laid) :
    List.Forall₂ Instruction.Widens instructions.toList laid.toList := by
  refine List.forall₂_iff_get.mpr ⟨?_, fun label hi hl => ?_⟩
  · rw [Array.length_toList, Array.length_toList, h.size]
  · obtain ⟨widened, hw, widens⟩ := h.widens label _ (Array.getElem?_eq_getElem hi)
    rw [Array.getElem?_eq_getElem hl] at hw
    cases hw
    exact widens

/-- Instructions whose targets have moved, and of which some jumps have become wide. -/
def Instruction.LaidAs (move : Label → Label) (insns laid : List Instruction) : Prop :=
  List.Forall₂ (fun insn laid => (insn.mapTargets move).Widens laid) insns laid

namespace Instruction.LaidAs

variable {move : Label → Label} {front back laid : List Instruction}

theorem exists_append (h : LaidAs move (front ++ back) laid) : ∃ first last,
    laid = first ++ last ∧ LaidAs move front first ∧ LaidAs move back last := by
  refine ⟨laid.take front.length, laid.drop front.length, (List.take_append_drop _ _).symm, ?_, ?_⟩
  · have taken := List.forall₂_take front.length h
    rwa [List.take_left] at taken
  · have dropped := List.forall₂_drop front.length h
    rwa [List.drop_left] at dropped

/-- Instructions without targets are laid out as they are. -/
theorem eq_of_plain (h : LaidAs move front laid)
    (plain : ∀ insn ∈ front, ∃ opcode operands, insn = .plain opcode operands) : laid = front := by
  induction h with
  | nil => rfl
  | cons head _ ih =>
    obtain ⟨opcode, operands, rfl⟩ := plain _ List.mem_cons_self
    rw [head.eq_of_plain, ih fun insn hi => plain insn (List.mem_cons_of_mem _ hi)]

end Instruction.LaidAs

open Instruction

/-- The instruction that calls the begin hook. -/
def HookIndices.beginCall (hooks : HookIndices) : Instruction :=
  .withIndex Opcode.invokestatic hooks.beginHook

/-- The instruction that calls the end hook. -/
def HookIndices.endCall (hooks : HookIndices) : Instruction :=
  .withIndex Opcode.invokestatic hooks.endHook

namespace Entry

theorem anchor_le_size {pool : ConstantPool} {name : String} {instructions : Array Instruction}
    {label : Label} (h : anchor pool name instructions = .ok label) :
    label ≤ instructions.size := by
  by_cases constructor : name = MethodSignature.constructorName
  · rcases anchor_constructor constructor h with ⟨_, rfl⟩ | ⟨call, found, rfl⟩
    · exact Nat.zero_le _
    · obtain ⟨insn, here, _⟩ := constructorCall?_goes_on found
      exact (Array.getElem?_eq_some_iff.mp here).1
  · unfold anchor at h
    rw [if_pos constructor] at h
    rw [← Except.pure_eq_ok_iff.mp h]
    exact Nat.zero_le _

end Entry

namespace TracedMethod.Steps

variable {method : TracedMethod} {hooks : HookIndices} {body : Body} {code : Decoded}
  {pool later : ConstantPool} (steps : Steps method hooks body code pool later)

theorem protectedRanges_of_anchor (h : steps.anchor = code.instructions.size) :
    steps.weaving.protectedRanges steps.anchor = [] := by
  by_contra guarded
  obtain ⟨label, insn, hle, hi, _⟩ := steps.protectedRanges_ne_nil_iff.mp guarded
  rw [h] at hle
  exact Nat.not_lt_of_le hle (Array.getElem?_eq_some_iff.mp hi).1

/-- The instructions of a traced method, in the order in which they are laid out. -/
theorem flow_laidAs : ∃ handler,
    (handler = [] ∨ handler = [hooks.endCall, .plain Opcode.athrow []]) ∧
    (steps.anchor = code.instructions.size → handler = []) ∧
    LaidAs steps.weaving.relocate
      ((code.instructions.toList.take steps.anchor).flatMap (·.closed hooks.endCall)
        ++ (if steps.anchor < code.instructions.size then
            [TracedBody.loadText steps.tag, hooks.beginCall] else [])
        ++ (code.instructions.toList.drop steps.anchor).flatMap (·.closed hooks.endCall)
        ++ handler)
      steps.flow.instructions.toList := by
  obtain ⟨_, ranges, rfl, hr, _, instructions_eq⟩ := TracedBody.trace_runs steps.traced_runs
  have woven := weave_toList (TracedBody.markers hooks steps.anchor steps.tag) code.instructions
  have widened := (layout_widened steps.layout_eq).forall₂
  -- Where nothing is protected there is no handler behind the body.
  by_cases bare : ranges = []
  · refine ⟨[], .inl rfl, fun _ => rfl, List.forall₂_map_left_iff.mp ?_⟩
    rw [if_pos bare] at instructions_eq
    rw [instructions_eq, woven] at widened
    rw [List.append_nil]
    exact widened
  · refine ⟨_, .inr rfl, fun last => ?_, List.forall₂_map_left_iff.mp ?_⟩
    · exact absurd (hr.trans (steps.protectedRanges_of_anchor last)) bare
    · rw [if_neg bare] at instructions_eq
      rw [instructions_eq, Array.toList_push, Array.toList_push, woven, List.append_assoc]
        at widened
      rw [List.map_append]
      exact widened

end TracedMethod.Steps

namespace Instrumented

/-- A traced method whose prologue stands where it is entered. Before and behind it stand the
instructions that the method has had, each return after an end call, and last the handler if there
is one. -/
inductive Rewritten.Opens (r : Rewritten) (pool : ConstantPool) (hooks : Hooks) (anchor : Label) :
    Prop
  | intro {move : Label → Label} {load call endCall : Instruction}
      {front back handler : List Instruction}
      (code_eq : r.flow.instructions.toList = front ++ [load, call] ++ back ++ handler)
      (front_eq : LaidAs move
        ((r.selected.code.instructions.toList.take anchor).flatMap (·.closed endCall)) front)
      (back_eq : LaidAs move
        ((r.selected.code.instructions.toList.drop anchor).flatMap (·.closed endCall)) back)
      (handler_eq : handler = [] ∨ handler = [endCall, .plain Opcode.athrow []])
      (entered : Entry.anchor pool r.selected.name r.flow.instructions = .ok front.length)
      (opcode : load.opcode = Opcode.ldc ∨ load.opcode = Opcode.ldcW)
      (loads : Entry.loadsText pool r.selected.tag load = .ok true)
      (begins : Entry.callsMethod pool hooks.beginHook call = .ok true)
      (ends : Entry.callsMethod pool hooks.endHook endCall = .ok true)

/-- A traced method that has got an end call before each return and nothing else. -/
inductive Rewritten.ClosesOnly (r : Rewritten) (pool : ConstantPool) (hooks : Hooks) : Prop
  | intro {move : Label → Label} {endCall : Instruction}
      (code_eq : LaidAs move (r.selected.code.instructions.toList.flatMap (·.closed endCall))
        r.flow.instructions.toList)
      (ends : Entry.callsMethod pool hooks.endHook endCall = .ok true)

section Stories

variable {file : ClassFile} {hooks : Hooks} {pool : ConstantPool} {r : Rewritten}
  {indices : HookIndices} (story : r.Story file indices pool)
  (hcode : Decoded.ofCode r.selected.body.code = .ok r.selected.code)

include story

theorem Rewritten.Story.anchor_eq : Entry.anchor pool r.selected.name
    r.selected.code.instructions = .ok story.steps.anchor :=
  Entry.anchor_extends story.start_extends_pool story.steps.anchor_eq

include hcode

theorem Rewritten.Story.entered : Entry.anchor pool r.selected.name r.flow.instructions
    = .ok (((r.selected.code.instructions.toList.take story.steps.anchor).flatMap
        (·.closed indices.endCall)).length) := by
  obtain ⟨ranges, traced⟩ := story.steps.exists_traced hcode
  have entered := traced.anchor_eq (TracedBody.markers_idle indices _ _)
    (fun _ => Decoded.ofCode_formed hcode) story.anchor_eq
  have entry := Markers.entry_eq_length
    (TracedBody.markers indices story.steps.anchor story.steps.tag) r.selected.code.instructions
    (Entry.anchor_le_size story.anchor_eq) le_rfl
  rw [story.flow_eq]
  exact entered.trans (congrArg Except.ok entry)

/-- A method is given its prologue where it is entered, if there is an instruction. -/
theorem Rewritten.Story.opens (hp : file.pool.Numbered) (resolve : indices.Resolve pool hooks)
    (inside : story.steps.anchor < r.selected.code.instructions.size) :
    r.Opens pool hooks story.steps.anchor := by
  obtain ⟨handler, handler_eq, _, laid⟩ := story.steps.flow_laidAs
  rw [if_pos inside] at laid
  obtain ⟨body, last, code_eq, hbody, hlast⟩ := laid.exists_append
  obtain ⟨opened, back, rfl, hopened, hback⟩ := hbody.exists_append
  obtain ⟨front, prologue, rfl, hfront, hprologue⟩ := hopened.exists_append
  obtain rfl := hprologue.eq_of_plain (TracedBody.markers_plain indices 0 story.steps.tag).prologue
  have same : last = handler := by
    refine hlast.eq_of_plain fun insn hi => ?_
    rcases handler_eq with rfl | rfl
    · cases hi
    · rcases List.mem_cons.mp hi with rfl | hi
      · exact ⟨_, _, rfl⟩
      · rw [List.mem_singleton.mp hi]
        exact ⟨_, _, rfl⟩
  subst same
  rw [← story.flow_eq] at code_eq
  have entered := story.entered hcode
  rw [hfront.length_eq] at entered
  obtain ⟨spelled, hg, ht⟩ := stringIndex_runs
    (story.file_extends_start.numbered hp) story.steps.named_runs
  refine ⟨code_eq, hfront, hback, handler_eq, entered, ?_, ?_, ?_, ?_⟩
  · obtain ⟨opcode, operands, load, forms⟩ := TracedBody.loadText_cases story.steps.tag
    rw [load]
    exact forms
  · exact Entry.loadsText_loadText (story.named_extends_pool.get? hg)
      (story.named_extends_pool.utf8 ht)
  · exact Entry.callsMethod_call resolve.beginHook
  · exact Entry.callsMethod_call resolve.endHook

omit hcode in
theorem Rewritten.Story.flow_laidAs_of_last
    (last : story.steps.anchor = r.selected.code.instructions.size) :
    LaidAs story.steps.weaving.relocate
      (r.selected.code.instructions.toList.flatMap (·.closed indices.endCall))
      r.flow.instructions.toList := by
  obtain ⟨handler, _, bare, laid⟩ := story.steps.flow_laidAs
  rwa [bare last, if_neg (by rw [last]; exact Nat.lt_irrefl _), List.append_nil, List.append_nil,
    ← List.flatMap_append, List.take_append_drop, ← story.flow_eq] at laid

/-- A method that is entered behind its last instruction is given no prologue. -/
theorem Rewritten.Story.not_opens
    (last : story.steps.anchor = r.selected.code.instructions.size) :
    ¬r.Opens pool hooks story.steps.anchor := by
  rintro @⟨_, _, _, _, front, _, _, code_eq, _, _, _, entered, _⟩
  have length_eq := (story.flow_laidAs_of_last last).length_eq
  have behind := story.entered hcode
  rw [last, ← Array.length_toList, List.take_length, length_eq] at behind
  have total := congrArg List.length code_eq
  have same : front.length = r.flow.instructions.toList.length :=
    Except.ok.inj (entered.symm.trans behind)
  simp only [List.length_append, List.length_cons] at total
  omega

end Stories

end Instrumented

open Instrumented

/-- A traced method has its prologue, once and where it is entered, if and only if there is an
instruction; where there is none it gets its end calls all the same. -/
theorem instrument_opens_iff {file : ClassFile} {selects : String → Bool} {hooks : Hooks}
    {result : Instrumented} (h : instrument file selects hooks = .ok (some result))
    (hp : file.pool.Numbered) :
    ∃ rewritten, rewrite file selects hooks = .ok (rewritten, result.file.pool) ∧
      result.file.methods = rewritten.foldl replaceBody file.methods ∧
      result.tags = rewritten.map (·.selected.tag) ∧
      ∀ r ∈ rewritten, ∃ anchor new,
        Entry.anchor result.file.pool r.selected.name r.selected.code.instructions = .ok anchor ∧
        Decoded.ofCode r.body.code = .ok new ∧ new.instructions = r.flow.instructions ∧
        anchor ≤ r.selected.code.instructions.size ∧
        (r.Opens result.file.pool hooks anchor ↔ anchor < r.selected.code.instructions.size) ∧
        (anchor = r.selected.code.instructions.size → r.ClosesOnly result.file.pool hooks) := by
  obtain ⟨rewritten, pool, hr, some, rfl⟩ := instrument_eq_some_iff.mp h
  obtain ⟨className, indices, tracing⟩ := rewrite_tracing hr
  obtain ⟨hbegin, hend⟩ := tracing.hooks_eq hp some
  refine ⟨rewritten, hr, rfl, rfl, fun r hmem => ?_⟩
  obtain ⟨former, _, chosen, ⟨story⟩⟩ := tracing.chosen r hmem
  have decoded := story.steps.ofCode_written chosen.code_eq
  rw [← story.body_eq] at decoded
  have within := Entry.anchor_le_size story.anchor_eq
  have same := congrArg Flow.instructions story.flow_eq.symm
  refine ⟨story.steps.anchor, _, story.anchor_eq, decoded, same, within,
    ⟨fun opens => ?_, story.opens chosen.code_eq hp ⟨hbegin, hend⟩⟩, fun last => ?_⟩
  · exact Nat.lt_of_le_of_ne within fun last => story.not_opens chosen.code_eq last opens
  · exact ⟨story.flow_laidAs_of_last last, Entry.callsMethod_call hend⟩

theorem instrument_opens_plainConstructor :
    ∃ result rewritten, instrument plainConstructor (fun _ => true) {} = .ok (some result) ∧
      plainConstructor.pool.Numbered ∧
      rewrite plainConstructor (fun _ => true) {} = .ok (rewritten, result.file.pool) ∧
      rewritten ≠ [] ∧ ∀ r ∈ rewritten, ∃ anchor,
        Entry.anchor result.file.pool r.selected.name r.selected.code.instructions = .ok anchor ∧
          r.Opens result.file.pool {} anchor := by
  have readable : rewritesReadably plainConstructor {} = true := by cbv
  unfold rewritesReadably at readable
  split at readable
  · next rewritten pool hr =>
    obtain ⟨some, entered⟩ := Bool.and_eq_true_iff.mp readable
    have some : rewritten.isEmpty = false := by simpa using some
    have numbered : plainConstructor.pool.Numbered := by decide
    obtain ⟨result, h⟩ := instrument_of_rewrite hr some
    obtain ⟨found, hf, _, _, opens⟩ := instrument_opens_iff h numbered
    cases hr.symm.trans hf
    obtain ⟨_, _, tracing⟩ := rewrite_tracing hr
    refine ⟨result, rewritten, h, numbered, hr, by simpa using some, fun r hmem => ?_⟩
    obtain ⟨anchor, _, ha, _, _, _, iff, _⟩ := opens r hmem
    have inside := (Bool.and_eq_true_iff.mp (List.all_eq_true.mp entered r hmem)).1
    split at inside
    · next label hl =>
      cases ha.symm.trans (Entry.anchor_extends tracing.extends_pool hl)
      exact ⟨anchor, ha, iff.mpr (of_decide_eq_true inside)⟩
    · cases inside
  · cases readable

/-- A constructor that returns before its last instruction, which is the first constructor call that
no creation before it calls for. -/
def unmetConstructor : ClassFile :=
  constructedClass [0xbb, 0, 2, 0x57, 0x2a, 0xb7, 0, 8, 0xb1, 0x2a, 0xb7, 0, 8]

/-- Whether the first method that is rewritten has no prologue where it is entered. -/
def lacksPrologue (file : ClassFile) : Bool :=
  match rewrite file (fun _ => true) {} with
  | .ok (r :: _, pool) =>
    (Entry.isTraced pool {} r.selected.name r.selected.tag r.flow.instructions).toOption
      == some false
  | _ => false

/-- A method whose tag is reported may have no prologue. -/
theorem not_instrument_opens :
    ¬∀ (file : ClassFile) (selects : String → Bool) (hooks : Hooks) (result : Instrumented)
      (rewritten : List Rewritten), instrument file selects hooks = .ok (some result) →
      file.pool.Numbered → rewrite file selects hooks = .ok (rewritten, result.file.pool) →
      ∀ r ∈ rewritten, ∃ (entry : Label) (load call : Instruction),
        Entry.anchor result.file.pool r.selected.name r.flow.instructions = .ok entry ∧
        r.flow.instructions[entry]? = some load ∧ r.flow.instructions[entry + 1]? = some call ∧
        Entry.loadsText result.file.pool r.selected.tag load = .ok true ∧
        Entry.callsMethod result.file.pool hooks.beginHook call = .ok true := by
  intro claim
  have lacks : lacksPrologue unmetConstructor = true := by cbv
  unfold lacksPrologue at lacks
  split at lacks
  · next r rewritten pool hr =>
    obtain ⟨result, h⟩ := instrument_of_rewrite hr rfl
    obtain ⟨found, hf, _, _⟩ := instrument_eq_some h
    cases hr.symm.trans hf
    have numbered : unmetConstructor.pool.Numbered := by decide
    have traced := Entry.isTraced_eq_ok_true.mpr
      (claim _ _ _ result _ h numbered hr r List.mem_cons_self)
    rw [traced] at lacks
    cases lacks
  · cases lacks

end MethodTrace
