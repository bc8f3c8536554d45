import MethodTrace.Proofs.TracedFlow

/-!
What the rewriting of a class leaves: every rewritten method has a traced flow, and the hooks that
it calls are found in the pool that is written.
-/

namespace MethodTrace

open ConstantPool

theorem VerificationType.grows_ofField (type : FieldType) : Grows (ofField type) := by
  unfold ofField
  split
  all_goals first
    | exact .pure _
    | exact .bind (grows_classIndex _) fun _ => .pure _

theorem MethodSignature.grows_receiver (method : MethodSignature) : Grows method.receiver :=
  .ite (.pure _) (.ite (.pure _) (.bind (grows_classIndex _) fun _ => .pure _))

theorem MethodSignature.grows_initialLocals (method : MethodSignature) :
    Grows method.initialLocals :=
  .bind (grows_receiver method) fun _ => .bind (.ofExcept _) fun _ =>
    .bind (.mapM VerificationType.grows_ofField _) fun _ => .pure _

theorem VerificationType.settles_ofField (type : FieldType) : Settles (ofField type) := by
  unfold ofField
  split
  all_goals first
    | exact .pure _
    | exact .bind (settles_classIndex _) (fun _ => .pure _) fun _ => .pure _

theorem MethodSignature.settles_receiver (method : MethodSignature) : Settles method.receiver :=
  .ite (.pure _) (.ite (.pure _) (.bind (settles_classIndex _) (fun _ => .pure _) fun _ => .pure _))

theorem MethodSignature.settles_initialLocals (method : MethodSignature) :
    Settles method.initialLocals := by
  have grows := VerificationType.grows_ofField
  refine .bind (settles_receiver method) (fun _ => ?_) fun _ => ?_
  · exact .bind (.ofExcept _) fun _ => .bind (.mapM grows _) fun _ => .pure _
  · refine .bind (.ofExcept _) (fun _ => ?_) fun _ => ?_
    · exact .bind (.mapM grows _) fun _ => .pure _
    · exact .bind (.mapM grows VerificationType.settles_ofField _) (fun _ => .pure _) fun _ => .pure _

namespace TracedMethod

/-- The locals with which a method begins, as far as its frames depend on them. -/
def entryLocals (method : TracedMethod) : Extend (List VerificationType) :=
  if method.hasFrames then method.signature.initialLocals else pure []

theorem grows_entryLocals (method : TracedMethod) : Grows method.entryLocals :=
  .ite (MethodSignature.grows_initialLocals _) (.pure _)

theorem settles_entryLocals (method : TracedMethod) : Settles method.entryLocals :=
  .ite (MethodSignature.settles_initialLocals _) (.pure _)

end TracedMethod

namespace TracedBody

theorem grows_handlerFrames (hasFrames : Bool) (label : Label) :
    Grows (handlerFrames hasFrames label) :=
  .ite (.bind (grows_classIndex _) fun _ => .pure _) (.pure _)

theorem grows_trace (hasFrames : Bool) (markers : Markers) (code : Decoded) (body : PlacedBody) :
    Grows (trace hasFrames markers code body) := by
  unfold trace
  dsimp only
  split
  · exact .pure _
  · exact .bind (grows_handlerFrames _ _) fun _ => .pure _

theorem grows_attributes (traced : TracedBody) (hasFrames : Bool)
    (initial : List VerificationType) (offsets : Array Nat) :
    Grows (traced.attributes hasFrames initial offsets) :=
  .ite (.bind (grows_utf8Index _) fun _ => .pure _) (.pure _)

end TracedBody

namespace PlacedBody

variable {pool : ConstantPool} {hasFrames : Bool} {initial : List VerificationType}
  {code : Decoded}

theorem addAttribute_handlers {before after : PlacedBody} {attr : Attribute}
    (h : addAttribute pool hasFrames initial code before attr = .ok after) :
    after.handlers = before.handlers := by
  obtain ⟨name, _, h⟩ := Except.bind_eq_ok_iff.mp h
  split at h
  · obtain ⟨rows, _, h⟩ := Except.bind_eq_ok_iff.mp h
    cases h
    rfl
  · obtain ⟨rows, _, h⟩ := Except.bind_eq_ok_iff.mp h
    cases h
    rfl
  · obtain ⟨rows, _, h⟩ := Except.bind_eq_ok_iff.mp h
    cases h
    rfl
  · split at h
    · obtain ⟨frames, _, h⟩ := Except.bind_eq_ok_iff.mp h
      cases h
      rfl
    · cases h
      rfl
  · cases h
    rfl

/-- The tables of a body have no say in its handlers. -/
theorem ofBody_handlers {body : Body} {placed : PlacedBody}
    (h : ofBody pool hasFrames initial code body = .ok placed) :
    code.handlers body.exceptions = .ok placed.handlers := by
  obtain ⟨handlers, hh, h⟩ := Except.bind_eq_ok_iff.mp h
  rw [hh, ← Except.foldlM_keeps (P := fun before => before.handlers = handlers) h rfl
    fun _ _ _ same step => (addAttribute_handlers step).trans same]

end PlacedBody

namespace TracedMethod

variable {method : TracedMethod} {hooks : HookIndices} {initial : List VerificationType}
  {body : Body} {code : Decoded} {pool later : ConstantPool}

theorem grows_trace : Grows (method.trace hooks initial body code) :=
  .bind .get fun _ => .bind (.ofExcept _) fun _ => .bind .get fun _ => .bind (.ofExcept _) fun _ =>
    .bind (grows_stringIndex _) fun _ => TracedBody.grows_trace _ _ _ _

theorem grows_instrumentBody : Grows (method.instrumentBody hooks body code) := by
  unfold instrumentBody
  extract_lets rest
  have hrest : ∀ initial, Grows (rest initial) := fun _ =>
    .bind grows_trace fun _ => .bind (.ofExcept _) fun _ => .bind .get fun _ =>
      .bind (.ofExcept _) fun _ => .bind (TracedBody.grows_attributes _ _ _ _) fun _ => .pure _
  exact .ite (.bind (MethodSignature.grows_initialLocals _) hrest) (.bind (.pure _) hrest)

/-- The steps in which a body is given hook calls, and the pools between them. -/
structure Steps (method : TracedMethod) (hooks : HookIndices) (body : Body) (code : Decoded)
    (pool later : ConstantPool) where
  initial : List VerificationType
  start : ConstantPool
  placed : PlacedBody
  anchor : Label
  tag : UInt16
  named : ConstantPool
  traced : TracedBody
  woven : ConstantPool
  layout : Layout
  depth : UInt16
  attributes : List Attribute
  initial_runs : Runs method.entryLocals pool initial start
  placed_eq : PlacedBody.ofBody start method.hasFrames initial code body = .ok placed
  anchor_eq : Entry.anchor start method.signature.name code.instructions = .ok anchor
  named_runs : Runs (ConstantPool.stringIndex method.tag) start tag named
  traced_runs : Runs (TracedBody.trace method.hasFrames (TracedBody.markers hooks anchor tag) code
    placed) named traced woven
  layout_eq : MethodTrace.layout traced.instructions = .ok layout
  depth_eq : StackDepth.maximum layout.instructions traced.handlers woven = .ok depth
  attributes_runs : Runs (traced.attributes method.hasFrames initial layout.offsets) woven
    attributes later

namespace Steps

/-- The flow that the steps lead to. -/
def flow (steps : Steps method hooks body code pool later) : Flow :=
  ⟨steps.layout.instructions, steps.traced.handlers⟩

/-- The body that the steps lead to. -/
def written (steps : Steps method hooks body code pool later) : Body where
  maxStack := max body.maxStack steps.depth
  maxLocals := body.maxLocals
  code := steps.layout.toCode
  exceptions := steps.traced.handlers.map (TracedBody.exceptionRow steps.layout.offsets)
  attributes := steps.attributes

variable (steps : Steps method hooks body code pool later)

theorem grown : Extends pool steps.start :=
  method.grows_entryLocals.of_runs steps.initial_runs

theorem start_extends_named : Extends steps.start steps.named :=
  (grows_stringIndex _).of_runs steps.named_runs

theorem named_extends_woven : Extends steps.named steps.woven :=
  (TracedBody.grows_trace _ _ _ _).of_runs steps.traced_runs

theorem woven_extends_later : Extends steps.woven later :=
  (TracedBody.grows_attributes _ _ _ _).of_runs steps.attributes_runs

theorem handlers_eq : code.handlers body.exceptions = .ok steps.placed.handlers :=
  PlacedBody.ofBody_handlers steps.placed_eq

theorem anchor_eq_zero (h : method.signature.name ≠ MethodSignature.constructorName) :
    steps.anchor = 0 := by
  have ha := steps.anchor_eq
  unfold Entry.anchor at ha
  rw [if_pos h] at ha
  exact (Except.pure_eq_ok_iff.mp ha).symm

/-- A body that has been given hook calls has a traced flow. -/
theorem exists_traced (hcode : Decoded.ofCode body.code = .ok code) :
    ∃ ranges, Traced (TracedBody.markers hooks steps.anchor steps.tag)
      ⟨code.instructions, steps.placed.handlers⟩ steps.flow ranges :=
  TracedBody.traced_of_layout steps.traced_runs steps.layout_eq
    (TracedBody.markers_plain hooks steps.anchor steps.tag) hcode steps.handlers_eq

end Steps

theorem instrumentBody_steps {flow : Flow} {written : Body}
    (h : Runs (method.instrumentBody hooks body code) pool (flow, written) later) :
    ∃ steps : Steps method hooks body code pool later,
      flow = steps.flow ∧ written = steps.written := by
  unfold instrumentBody at h
  extract_lets rest at h
  obtain ⟨initial, start, initial_runs, h⟩ : ∃ initial start,
      Runs method.entryLocals pool initial start ∧
      Runs (rest initial) start (flow, written) later := by
    unfold entryLocals
    split at h
    · next hf =>
      rw [if_pos hf]
      exact Runs.bind_iff.mp h
    · next hf =>
      rw [if_neg hf]
      exact Runs.bind_iff.mp h
  obtain ⟨traced, woven, ht, h⟩ := Runs.bind_iff.mp h
  obtain ⟨layout, layout_eq, h⟩ := Runs.ofExcept_bind_iff.mp h
  obtain ⟨depth, depth_eq, h⟩ := Runs.ofExcept_bind_iff.mp (Runs.get_bind_iff.mp h)
  obtain ⟨attributes, last, attributes_runs, h⟩ := Runs.bind_iff.mp h
  obtain ⟨hr, rfl⟩ := Runs.pure_iff.mp h
  obtain ⟨rfl, rfl⟩ := Prod.mk.inj hr
  obtain ⟨placed, placed_eq, ht⟩ := Runs.ofExcept_bind_iff.mp (Runs.get_bind_iff.mp ht)
  obtain ⟨anchor, anchor_eq, ht⟩ := Runs.ofExcept_bind_iff.mp (Runs.get_bind_iff.mp ht)
  obtain ⟨tag, named, named_runs, traced_runs⟩ := Runs.bind_iff.mp ht
  exact ⟨⟨initial, start, placed, anchor, tag, named, traced, woven, layout, depth, attributes,
    initial_runs, placed_eq, anchor_eq, named_runs, traced_runs, layout_eq, depth_eq, attributes_runs⟩,
    rfl, rfl⟩

end TracedMethod

namespace Instrumented

variable {file : ClassFile} {selects : String → Bool} {hooks : Hooks} {pool : ConstantPool}
  {rewritten : List Rewritten}

/-- The flow of a method as it was. -/
def Selected.flow (selected : Selected) : Except ClassFileError Flow :=
  (⟨selected.code.instructions, ·⟩) <$> selected.code.handlers selected.body.exceptions

/-- The body of a selected method has been read from an attribute of it, and its code from that. -/
theorem select?_read {className : String} {method : Member} {index : Nat} {selected : Selected}
    (h : select? file className selects hooks method index = .ok (some selected)) :
    (∃ attr, selected.method.attributes[selected.codeIndex]? = some attr ∧
      Body.parse attr.info = .ok selected.body) ∧
        Decoded.ofCode selected.body.code = .ok selected.code := by
  obtain ⟨name, _, h⟩ := Except.bind_eq_ok_iff.mp h
  dsimp only at h
  split at h
  · cases h
  split at h
  · next codeIndex _ =>
    split at h
    · next attr attr_eq =>
      obtain ⟨body, body_eq, h⟩ := Except.bind_eq_ok_iff.mp h
      obtain ⟨code, code_eq, h⟩ := Except.bind_eq_ok_iff.mp h
      obtain ⟨traced, _, h⟩ := Except.bind_eq_ok_iff.mp h
      split at h
      · cases h
      · cases h
        exact ⟨⟨attr, attr_eq, Except.mapError_eq_ok_iff.mp body_eq⟩,
          Except.mapError_eq_ok_iff.mp code_eq⟩
    · cases h
  · cases h

theorem selection_read {selection : List Selected}
    (h : Instrumented.selection file selects hooks = .ok selection) :
    ∀ selected ∈ selection, (∃ attr,
      selected.method.attributes[selected.codeIndex]? = some attr ∧
        Body.parse attr.info = .ok selected.body) ∧
          Decoded.ofCode selected.body.code = .ok selected.code := by
  obtain ⟨className, _, h⟩ := Except.bind_eq_ok_iff.mp h
  obtain ⟨found, hf, h⟩ := Except.bind_eq_ok_iff.mp h
  cases h
  intro selected hs
  obtain ⟨entry, he, heq⟩ := List.mem_filterMap.mp hs
  cases heq
  obtain ⟨⟨method, index⟩, _, hm⟩ := forall₂_exists_left (Except.mapM_eq_ok_iff.mp hf) he
  exact select?_read hm

theorem selection_code {selection : List Selected}
    (h : Instrumented.selection file selects hooks = .ok selection) :
    ∀ selected ∈ selection, Decoded.ofCode selected.body.code = .ok selected.code :=
  fun selected hs => (selection_read h selected hs).2

theorem grows_traceSelected (indices : HookIndices) (selected : Selected) :
    Grows (traceSelected file indices selected) :=
  .bind (.ofExcept _) fun _ => .bind (.ofExcept _) fun _ =>
    .bind (.adapt _ TracedMethod.grows_instrumentBody) fun _ => .pure _

/-- How a method has been rewritten on the way from the pool of its class to the pool that is
written. -/
structure Rewritten.Story (r : Rewritten) (file : ClassFile) (indices : HookIndices)
    (pool : ConstantPool) where
  className : String
  descriptor : String
  before : ConstantPool
  after : ConstantPool
  className_eq : file.name = .ok className
  descriptor_eq : file.pool.utf8 r.selected.method.descriptor = .ok descriptor
  file_extends : Extends file.pool before
  extends_pool : Extends after pool
  steps : TracedMethod.Steps
    ⟨⟨className, r.selected.name, descriptor, r.selected.method.access⟩, file.majorVersion,
      r.selected.tag⟩ indices r.selected.body r.selected.code before after
  flow_eq : r.flow = steps.flow
  body_eq : r.body = steps.written

theorem traceSelected_runs {indices : HookIndices} {selected : Selected} {r : Rewritten}
    {before after : ConstantPool} (h : Runs (traceSelected file indices selected) before r after)
    (hb : Extends file.pool before) (ha : Extends after pool) :
    r.selected = selected ∧ Nonempty (r.Story file indices pool) := by
  obtain ⟨className, hc, h⟩ := Runs.ofExcept_bind_iff.mp h
  obtain ⟨descriptor, hd, h⟩ := Runs.ofExcept_bind_iff.mp h
  obtain ⟨⟨flow, body⟩, s, hs, h⟩ := Runs.bind_iff.mp h
  obtain ⟨rfl, rfl⟩ := Runs.pure_iff.mp h
  obtain ⟨steps, rfl, rfl⟩ := TracedMethod.instrumentBody_steps (Runs.adapt_iff.mp hs)
  exact ⟨rfl, ⟨className, descriptor, before, after, hc, hd, hb, ha, steps, rfl, rfl⟩⟩

/-- The selected methods are rewritten one by one, with one pair of hooks. -/
theorem rewrite_stories (h : rewrite file selects hooks = .ok (rewritten, pool)) :
    ∃ selection indices, Instrumented.selection file selects hooks = .ok selection ∧
      Extends file.pool pool ∧
      (file.pool.Numbered → rewritten ≠ [] →
        pool.memberRef indices.beginHook = .ok hooks.beginHook ∧
        pool.memberRef indices.endHook = .ok hooks.endHook) ∧
      List.Forall₂ (fun selected r => r.selected = selected ∧ Nonempty (r.Story file indices pool))
        selection rewritten := by
  obtain ⟨selection, hs, h⟩ := Except.bind_eq_ok_iff.mp h
  dsimp only at h
  split at h
  · next none =>
    cases h
    rw [List.isEmpty_iff.mp none] at hs
    exact ⟨[], ⟨0, 0⟩, hs, .refl _, fun _ hne => absurd rfl hne, .nil⟩
  obtain ⟨found, hf, h⟩ := Except.bind_eq_ok_iff.mp h
  cases h
  have hruns : Runs (traceAll file hooks selection) file.pool rewritten
      (file.pool.extend (traceAll file hooks selection)).2 := Prod.ext hf rfl
  obtain ⟨beginHook, s, hb, hruns⟩ := Runs.bind_iff.mp hruns
  obtain ⟨endHook, t, he, hruns⟩ := Runs.bind_iff.mp hruns
  have hs' := (grows_methodrefIndex _).of_runs hb
  have ht := (grows_methodrefIndex _).of_runs he
  have grows := @grows_traceSelected file ⟨beginHook, endHook⟩
  have hext := (Grows.mapM grows selection).of_runs hruns
  refine ⟨selection, ⟨beginHook, endHook⟩, hs, (hs'.trans ht).trans hext, ?_, ?_⟩
  · intro hp _
    exact ⟨hext.memberRef (ht.memberRef (methodrefIndex_runs hp hb)),
      hext.memberRef (methodrefIndex_runs (hs'.numbered hp) he)⟩
  · refine (Grows.mapM_runs grows hruns).imp fun selected r => ?_
    rintro ⟨before, after, hbefore, hr, hafter⟩
    exact traceSelected_runs hr ((hs'.trans ht).trans hbefore) hafter

/-- All methods that a rewriting leaves are traced, with one pair of hooks. -/
theorem rewrite_traced (h : rewrite file selects hooks = .ok (rewritten, pool)) :
    ∃ indices : HookIndices, (file.pool.Numbered → rewritten ≠ [] →
      pool.memberRef indices.beginHook = .ok hooks.beginHook ∧
      pool.memberRef indices.endHook = .ok hooks.endHook) ∧
    ∀ r ∈ rewritten, ∃ old anchor tag ranges, r.selected.flow = .ok old ∧
      (r.selected.name ≠ MethodSignature.constructorName → anchor = 0) ∧
      Traced (TracedBody.markers indices anchor tag) old r.flow ranges := by
  obtain ⟨selection, indices, hs, _, hresolve, hall⟩ := rewrite_stories h
  refine ⟨indices, hresolve, fun r hr => ?_⟩
  obtain ⟨selected, hm, rfl, ⟨story⟩⟩ := forall₂_exists_left hall hr
  obtain ⟨ranges, ht⟩ := story.steps.exists_traced (selection_code hs _ hm)
  exact ⟨_, story.steps.anchor, story.steps.tag, ranges,
    Except.map_eq_ok_iff.mpr ⟨_, story.steps.handlers_eq, rfl⟩, story.steps.anchor_eq_zero,
    story.flow_eq ▸ ht⟩

end Instrumented

open Instrumented

/-- A class is traced if some of its methods are rewritten. -/
theorem instrument_eq_some_iff {file : ClassFile} {selects : String → Bool} {hooks : Hooks}
    {result : Instrumented} : instrument file selects hooks = .ok (some result) ↔
      ∃ rewritten pool, rewrite file selects hooks = .ok (rewritten, pool) ∧ rewritten ≠ [] ∧
        result = ⟨{ file with pool, methods := rewritten.foldl replaceBody file.methods },
          rewritten.map (·.selected.tag)⟩ := by
  unfold instrument
  rw [Except.bind_eq_ok_iff]
  constructor
  · rintro ⟨⟨rewritten, pool⟩, hr, h⟩
    dsimp only at h
    split at h
    · cases h
    · next some =>
      cases h
      exact ⟨rewritten, pool, hr, by simpa using some, rfl⟩
  · rintro ⟨rewritten, pool, hr, some, rfl⟩
    refine ⟨_, hr, ?_⟩
    dsimp only
    rw [if_neg (by simpa using some)]
    rfl

/-- The parts of a class that has been traced. -/
theorem instrument_eq_some {file : ClassFile} {selects : String → Bool} {hooks : Hooks}
    {result : Instrumented} (h : instrument file selects hooks = .ok (some result)) :
    ∃ rewritten, rewrite file selects hooks = .ok (rewritten, result.file.pool) ∧
      rewritten ≠ [] ∧ result.file.methods = rewritten.foldl replaceBody file.methods := by
  obtain ⟨rewritten, pool, hr, some, rfl⟩ := instrument_eq_some_iff.mp h
  exact ⟨rewritten, hr, some, rfl⟩

theorem instrument_of_rewrite {file : ClassFile} {selects : String → Bool} {hooks : Hooks}
    {rewritten : List Rewritten} {pool : ConstantPool}
    (h : rewrite file selects hooks = .ok (rewritten, pool)) (hne : rewritten.isEmpty = false) :
    ∃ result, instrument file selects hooks = .ok (some result) :=
  ⟨_, instrument_eq_some_iff.mpr ⟨rewritten, pool, h, by simpa using hne, rfl⟩⟩

/-- A class with one method, which branches over an instruction and returns. -/
def branchingClass : ClassFile where
  minorVersion := 0
  majorVersion := 49
  pool := ⟨#[.unusable, .utf8 [65], .classRef 1, .utf8 [109], .utf8 [40, 41, 86],
    .utf8 [67, 111, 100, 101]]⟩
  access := 1
  thisClass := 2
  superClass := 0
  interfaces := []
  fields := []
  methods := [⟨9, 3, 4, [⟨5, [0, 1, 0, 0, 0, 0, 0, 6, 0x03, 0x99, 0, 4, 0, 0xb1, 0, 0, 0, 0]⟩]⟩]
  attributes := []

end MethodTrace
