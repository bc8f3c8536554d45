import MethodTrace.Proofs.MovedTables

/-!
What tracing leaves of a class as it has been.

The traced methods share one pool, which grows from each to the next. No constant of the class loses
its number by that, and of all its attributes only the bodies of the traced methods are replaced.
-/

namespace MethodTrace

open ConstantPool

/-- What a traced body keeps of the one that it replaces. -/
structure Body.Keeps (pool later : ConstantPool) (hasFrames : Bool) (body written : Body) :
    Prop where
  maxLocals : written.maxLocals = body.maxLocals
  maxStack : body.maxStack ≤ written.maxStack
  names : ∃ added, written.attributes.map (·.name)
      = (body.attributes.filter (·.isPlaced later hasFrames)).map (·.name) ++ added ∧
    (added = [] ∨ hasFrames = true ∧ ∃ name, added = [name] ∧
      (pool.Numbered → later.utf8 name = .ok "StackMapTable"))

theorem TracedMethod.Steps.keeps {method : TracedMethod} {hooks : HookIndices} {body : Body}
    {code : Decoded} {first pool later last : ConstantPool}
    (steps : Steps method hooks body code pool later) (hfirst : first.Extends pool)
    (hlast : later.Extends last) : body.Keeps first last method.hasFrames steps.written where
  maxLocals := rfl
  maxStack := by
    change body.maxStack ≤ if body.maxStack ≤ steps.depth then steps.depth else body.maxStack
    split
    · assumption
    · exact UInt16.le_refl _
  names := by
    obtain ⟨moved, moves⟩ := TracedBody.trace_moves steps.traced_runs
    obtain ⟨appended, written, ending⟩ := TracedBody.attributes_eq steps.attributes_runs
    have tables := PlacedBody.ofBody_tables
      (PlacedBody.ofBody_extends (steps.start_extends hlast) steps.placed_eq)
    have kept : steps.traced.tables.map (·.1)
        = (body.attributes.filter (·.isPlaced last method.hasFrames)).map (·.name) := by
      rw [moves.tables_eq, List.map_map, ← List.forall₂_eq_eq_eq, List.forall₂_map_left_iff,
        List.forall₂_map_right_iff]
      exact (tables.imp fun attr entry same => same.1).flip
    refine ⟨appended.map (·.name), ?_, ?_⟩
    · change steps.attributes.map _ = _
      rw [written, List.map_append, List.map_map, ← kept]
      rfl
    · split at ending
      · next needed =>
        obtain ⟨name, rfl, named⟩ := ending
        exact .inr ⟨needed.1, name, rfl, fun hp =>
          hlast.utf8 (named (steps.numbered_woven (hfirst.numbered hp)))⟩
      · next needless =>
        rw [ending]
        exact .inl rfl

/-- What is kept of a method of which the attributes in some places are replaced. -/
structure Member.KeptBut (replaced : Nat → Prop) (former method : Member) : Prop where
  access : method.access = former.access
  name : method.name = former.name
  descriptor : method.descriptor = former.descriptor
  length : method.attributes.length = former.attributes.length
  attributes : ∀ place, ¬replaced place → method.attributes[place]? = former.attributes[place]?

namespace Instrumented

variable {file : ClassFile} {selects : String → Bool} {hooks : Hooks} {pool : ConstantPool}
  {rewritten : List Rewritten}

/-- A body with the traced one that replaces it: the place of its method in the class, its own place
in the method, and the tag. -/
structure Replaced (file : ClassFile) (result : Instrumented) (place : Nat × Nat) (tag : String)
    (body written : Body) : Prop where
  tagged : ∃ className method name, file.name = .ok className ∧
    file.methods[place.1]? = some method ∧ file.pool.utf8 method.name = .ok name ∧
      tag = traceTag className name
  bodies : ∃ former method attr, file.methods[place.1]? = some former ∧
    former.attributes[place.2]? = some attr ∧ file.pool.utf8 attr.name = .ok "Code" ∧
    Body.parse attr.info = .ok body ∧ result.file.methods[place.1]? = some method ∧
    method.attributes[place.2]? = some ⟨attr.name, written.toBytes⟩

/-- What a traced class keeps of the class that it has been, but for the bodies in some places. -/
structure Keeps (file : ClassFile) (result : Instrumented) (replaced : List (Nat × Nat)) :
    Prop where
  rest : result.file = { file with pool := result.file.pool, methods := result.file.methods }
  slots : file.pool.slots.toList <+: result.file.pool.slots.toList
  resolves : ∀ index constant, file.pool.get? index = some constant →
    result.file.pool.get? index = some constant
  length : result.file.methods.length = file.methods.length
  methods : ∀ (index : Nat) former method, file.methods[index]? = some former →
    result.file.methods[index]? = some method →
      former.KeptBut (fun place => (index, place) ∈ replaced) method
  once : (replaced.map (·.1)).Nodup
  bodies : List.Forall₂ (fun place tag => ∃ body written,
      Replaced file result place tag body written ∧
        body.Keeps file.pool result.file.pool (TracedMethod.framesVersion ≤ file.majorVersion)
          written)
    replaced result.tags

theorem Rewritten.keptBut_replace (r : Rewritten) (former : Member) {replaced : Nat → Prop}
    (h : replaced r.selected.codeIndex) : former.KeptBut replaced (r.replace former) where
  access := rfl
  name := rfl
  descriptor := rfl
  length := by rw [Rewritten.replace, List.length_modify]
  attributes := by
    intro place kept
    have other : r.selected.codeIndex ≠ place := fun same => kept (same ▸ h)
    rw [Rewritten.replace, List.getElem?_modify, Option.map_eq_map]
    simp [other]

/-- The body of a rewritten method has been read from an attribute of it. -/
theorem rewrite_body (h : rewrite file selects hooks = .ok (rewritten, pool)) {r : Rewritten}
    (hr : r ∈ rewritten) : ∃ attr,
      r.selected.method.attributes[r.selected.codeIndex]? = some attr ∧
        Body.parse attr.info = .ok r.selected.body := by
  obtain ⟨selection, _, hs, _, _, hall⟩ := rewrite_stories h
  obtain ⟨selected, hm, rfl, _⟩ := forall₂_exists_left hall hr
  exact (selection_read hs _ hm).1

end Instrumented

open Instrumented

/-- Tracing replaces one body for each tag that it reports and adds constants for these, and all
else stays as it is. -/
theorem instrument_keeps {file : ClassFile} {selects : String → Bool} {hooks : Hooks}
    {result : Instrumented} (h : instrument file selects hooks = .ok (some result)) :
    ∃ replaced, Keeps file result replaced := by
  obtain ⟨rewritten, pool, hr, _, rfl⟩ := instrument_eq_some_iff.mp h
  obtain ⟨className, indices, tracing⟩ := rewrite_tracing hr
  have hext := tracing.extends_pool
  refine ⟨rewritten.map fun r => (r.selected.index, r.selected.codeIndex), {
    rest := rfl
    slots := hext.keeps
    resolves := fun _ _ => hext.get?
    length := length_foldl_replaceBody rewritten file.methods
    methods := ?_
    once := ?_
    bodies := ?_ }⟩
  · intro index former method hf hm
    rcases getElem?_foldl_replaceBody tracing.sorted hm with
      ⟨same, _⟩ | ⟨r, hmem, rfl, other, same, rfl⟩
    · cases hf.symm.trans same
      exact ⟨rfl, rfl, rfl, rfl, fun _ _ => rfl⟩
    · cases hf.symm.trans same
      exact r.keptBut_replace former (List.mem_map_of_mem hmem)
  · rw [List.map_map]
    exact (List.pairwise_map.mpr tracing.sorted).imp Nat.ne_of_lt
  · rw [List.forall₂_map_left_iff, List.forall₂_map_right_iff, List.forall₂_same]
    intro r hmem
    obtain ⟨former, hf, chosen, ⟨story⟩⟩ := tracing.chosen r hmem
    obtain ⟨attr, ha, body_eq⟩ := rewrite_body hr hmem
    have lt := attributeIndex?_lt chosen.codeIndex_eq
    have named := utf8_of_attributeIndex? chosen.codeIndex_eq lt
    rw [chosen.method_eq, List.getElem?_eq_getElem lt] at ha
    cases ha
    refine ⟨r.selected.body, r.body, ⟨?_, ?_⟩, ?_⟩
    · exact ⟨className, former, _, tracing.name_eq, hf, chosen.name_eq, chosen.tag_eq⟩
    · exact ⟨former, _, _, hf, List.getElem?_eq_getElem lt, named, body_eq,
        getElem?_foldl_replaceBody_of_mem tracing.sorted hmem hf, r.getElem?_replace lt⟩
    · rw [story.body_eq]
      exact story.steps.keeps story.file_extends story.extends_pool

theorem instrument_keeps_framedClass : ∃ result replaced,
    instrument framedClass (fun _ => true) {} = .ok (some result) ∧
      replaced ≠ [] ∧ Keeps framedClass result replaced := by
  have within : rewritesWithinLimits framedClass = true := by cbv
  unfold rewritesWithinLimits at within
  split at within
  · next rewritten pool hr =>
    simp only [Bool.and_eq_true, Bool.not_eq_true'] at within
    obtain ⟨⟨some, _⟩, _⟩ := within
    obtain ⟨result, h⟩ := instrument_of_rewrite hr some
    obtain ⟨replaced, keeps⟩ := instrument_keeps h
    refine ⟨result, replaced, h, ?_, keeps⟩
    rintro rfl
    have tags := List.forall₂_nil_left_iff.mp keeps.bodies
    obtain ⟨_, _, hr', _, rfl⟩ := instrument_eq_some_iff.mp h
    cases hr.symm.trans hr'
    rw [List.map_eq_nil_iff.mp tags] at some
    cases some
  · cases within

end MethodTrace
