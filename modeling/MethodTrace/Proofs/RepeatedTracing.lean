import MethodTrace.Proofs.EntryScans

/-!
A class that has been traced is left alone when it is traced again.

`Spared` says why a method stays as it is. A method that has been spared once is spared in every
later pool, and a method that has been rewritten is spared because its prologue is recognized.
-/

namespace MethodTrace

open ConstantPool

namespace Instrumented

variable {file : ClassFile} {className : String} {selects : String → Bool} {hooks : Hooks}
  {pool later : ConstantPool} {method : Member} {index : Nat}

/-- The reasons for which a method stays as it is. -/
inductive Spared (pool : ConstantPool) (className : String) (selects : String → Bool)
    (hooks : Hooks) (method : Member) : Prop
  | unselected {name : String} (name_eq : pool.utf8 method.name = .ok name)
      (h : selects (traceTag className name) = false)
  | bodiless {name : String} (name_eq : pool.utf8 method.name = .ok name)
      (h : method.attributeIndex? pool "Code" = none)
  | traced {name : String} {codeIndex : Nat} {attr : Attribute} {body : Body} {code : Decoded}
      (name_eq : pool.utf8 method.name = .ok name)
      (index_eq : method.attributeIndex? pool "Code" = some codeIndex)
      (attr_eq : method.attributes[codeIndex]? = some attr)
      (body_eq : Body.parse attr.info = .ok body) (code_eq : Decoded.ofCode body.code = .ok code)
      (h : Entry.isTraced pool hooks name (traceTag className name) code.instructions = .ok true)

/-- What is known of a method that is selected. -/
structure Chosen (pool : ConstantPool) (className : String) (method : Member) (index : Nat)
    (selected : Selected) : Prop where
  index_eq : selected.index = index
  method_eq : selected.method = method
  name_eq : pool.utf8 method.name = .ok selected.name
  tag_eq : selected.tag = traceTag className selected.name
  codeIndex_eq : method.attributeIndex? pool "Code" = some selected.codeIndex
  code_eq : Decoded.ofCode selected.body.code = .ok selected.code

theorem naming_eq_ok_iff {α : Type} {name : String} {result : Except ClassFileError α} {value : α} :
    naming name result = .ok value ↔ result = .ok value :=
  Except.mapError_eq_ok_iff

theorem attributeIndex?_lt {name : String} {codeIndex : Nat}
    (h : method.attributeIndex? pool name = some codeIndex) :
    codeIndex < method.attributes.length := by
  unfold Member.attributeIndex? at h
  obtain ⟨lt, _⟩ := List.findIdx?_eq_some_iff_getElem.mp h
  exact lt

/-- A method that is looked at is spared or chosen. -/
theorem select?_cases {entry : Option Selected}
    (h : select? file className selects hooks method index = .ok entry) :
    (entry = none ∧ Spared file.pool className selects hooks method) ∨
      ∃ selected, entry = some selected ∧ Chosen file.pool className method index selected := by
  obtain ⟨name, name_eq, h⟩ := Except.bind_eq_ok_iff.mp h
  dsimp only at h
  split at h
  · next unselected =>
    cases h
    exact .inl ⟨rfl, .unselected name_eq (by simpa using unselected)⟩
  split at h
  · next codeIndex index_eq =>
    split at h
    · next attr attr_eq =>
      obtain ⟨body, body_eq, h⟩ := Except.bind_eq_ok_iff.mp h
      obtain ⟨code, code_eq, h⟩ := Except.bind_eq_ok_iff.mp h
      obtain ⟨traced, traced_eq, h⟩ := Except.bind_eq_ok_iff.mp h
      have code_eq := naming_eq_ok_iff.mp code_eq
      split at h
      · next isTraced =>
        cases h
        subst isTraced
        exact .inl ⟨rfl, .traced name_eq index_eq attr_eq (naming_eq_ok_iff.mp body_eq) code_eq
          (naming_eq_ok_iff.mp traced_eq)⟩
      · cases h
        exact .inr ⟨_, rfl, rfl, rfl, name_eq, rfl, index_eq, code_eq⟩
    · next outside =>
      exact absurd (List.getElem?_eq_getElem (attributeIndex?_lt index_eq)) (outside _)
  · next bodiless =>
    cases h
    exact .inl ⟨rfl, .bodiless name_eq (Option.eq_none_iff_forall_ne_some.mpr bodiless)⟩

theorem select?_of_spared (h : Spared file.pool className selects hooks method) (index : Nat) :
    select? file className selects hooks method index = .ok none := by
  cases h with
  | unselected name_eq h =>
    refine Except.bind_eq_ok_iff.mpr ⟨_, name_eq, ?_⟩
    dsimp only
    rw [h]
    rfl
  | @bodiless name name_eq h =>
    refine Except.bind_eq_ok_iff.mpr ⟨_, name_eq, ?_⟩
    dsimp only
    rw [h]
    split
    · rfl
    · rfl
  | @traced name codeIndex attr body code name_eq index_eq attr_eq body_eq code_eq h =>
    refine Except.bind_eq_ok_iff.mpr ⟨_, name_eq, ?_⟩
    dsimp only
    split
    · rfl
    rw [index_eq]
    dsimp only
    rw [attr_eq]
    refine Except.bind_eq_ok_iff.mpr ⟨body, naming_eq_ok_iff.mpr body_eq, ?_⟩
    refine Except.bind_eq_ok_iff.mpr ⟨code, naming_eq_ok_iff.mpr code_eq, ?_⟩
    refine Except.bind_eq_ok_iff.mpr ⟨true, naming_eq_ok_iff.mpr h, ?_⟩
    rfl

/-- A method whose attributes all have names. -/
def Named (pool : ConstantPool) (method : Member) : Prop :=
  ∀ attr ∈ method.attributes, ∃ name, pool.utf8 attr.name = .ok name

theorem attributeIndex?_extends (hext : pool.Extends later) (named : Named pool method)
    (name : String) : method.attributeIndex? later name = method.attributeIndex? pool name := by
  have same : ∀ attr ∈ method.attributes,
      Attribute.hasName later name attr = Attribute.hasName pool name attr := by
    intro attr ha
    obtain ⟨found, hf⟩ := named attr ha
    rw [Attribute.hasName, Attribute.hasName, hf, hext.utf8 hf]
  unfold Member.attributeIndex?
  clear named
  revert same
  induction method.attributes with
  | nil => exact fun _ => rfl
  | cons attr attributes ih =>
    intro same
    rw [List.findIdx?_cons, List.findIdx?_cons, same attr List.mem_cons_self,
      ih fun other ho => same other (List.mem_cons_of_mem _ ho)]

/-- What has been spared once is spared in every later pool. -/
theorem Spared.extends (h : Spared pool className selects hooks method)
    (hext : pool.Extends later) (named : Named pool method) :
    Spared later className selects hooks method := by
  have same := attributeIndex?_extends hext named "Code"
  cases h with
  | unselected name_eq h => exact .unselected (hext.utf8 name_eq) h
  | bodiless name_eq h => exact .bodiless (hext.utf8 name_eq) (same.trans h)
  | traced name_eq index_eq attr_eq body_eq code_eq h =>
    exact .traced (hext.utf8 name_eq) (same.trans index_eq) attr_eq body_eq code_eq
      (Entry.isTraced_extends hext h)

theorem selection_eq_nil (hc : file.name = .ok className)
    (h : ∀ method ∈ file.methods, Spared file.pool className selects hooks method) :
    selection file selects hooks = .ok [] := by
  refine Except.bind_eq_ok_iff.mpr ⟨className, hc, ?_⟩
  refine Except.bind_eq_ok_iff.mpr ⟨file.methods.zipIdx.map fun _ => none, ?_, ?_⟩
  · rw [Except.mapM_eq_ok_iff, List.forall₂_map_right_iff, List.forall₂_same]
    intro entry he
    exact select?_of_spared (h entry.1 (List.fst_mem_of_mem_zipIdx he)) entry.2
  · simp [pure, Except.pure]

theorem selection_eq_ok {selection : List Selected}
    (h : Instrumented.selection file selects hooks = .ok selection) :
    ∃ className found, file.name = .ok className ∧ selection = found.filterMap id ∧
      List.Forall₂ (fun method entry => select? file className selects hooks method.1 method.2
        = .ok entry) file.methods.zipIdx found := by
  obtain ⟨className, hc, h⟩ := Except.bind_eq_ok_iff.mp h
  obtain ⟨found, hf, h⟩ := Except.bind_eq_ok_iff.mp h
  cases h
  exact ⟨className, found, hc, rfl, Except.mapM_eq_ok_iff.mp hf⟩

/-- The selected methods come in the order of their declarations. -/
theorem pairwise_index {start : Nat} {methods : List Member} {found : List (Option Selected)}
    (h : List.Forall₂ (fun method entry => select? file className selects hooks method.1 method.2
      = .ok entry) (methods.zipIdx start) found) :
    (∀ selected ∈ found.filterMap id, start ≤ selected.index) ∧
      (found.filterMap id).Pairwise (·.index < ·.index) := by
  induction methods generalizing start found with
  | nil =>
    cases h
    simp
  | cons method methods ih =>
    rw [List.zipIdx_cons] at h
    obtain ⟨entry, rest, hs, hrest, rfl⟩ := List.forall₂_cons_left_iff.mp h
    obtain ⟨least, sorted⟩ := ih hrest
    rcases select?_cases hs with ⟨rfl, _⟩ | ⟨selected, rfl, chosen⟩
    · rw [List.filterMap_cons_none rfl]
      exact ⟨fun other ho => Nat.le_of_succ_le (least other ho), sorted⟩
    · rw [List.filterMap_cons_some (f := id) rfl]
      have index : selected.index = start := chosen.index_eq
      refine ⟨?_, List.pairwise_cons.mpr ⟨fun other ho => ?_, sorted⟩⟩
      · intro other ho
        rcases List.mem_cons.mp ho with rfl | ho
        · exact index.ge
        · exact Nat.le_of_succ_le (least other ho)
      · have := least other ho
        omega

section Selections

variable {found : List (Option Selected)}
  (h : List.Forall₂ (fun method entry => select? file className selects hooks method.1 method.2
    = .ok entry) file.methods.zipIdx found)

include h

theorem chosen_of_mem {selected : Selected} (hm : selected ∈ found.filterMap id) :
    ∃ method, file.methods[selected.index]? = some method ∧
      Chosen file.pool className method selected.index selected := by
  obtain ⟨entry, he, rfl⟩ := List.mem_filterMap.mp hm
  obtain ⟨⟨method, place⟩, hp, hs⟩ := forall₂_exists_left h he
  rcases select?_cases hs with ⟨none, _⟩ | ⟨chosen, same, hc⟩
  · cases none
  · cases same
    have index : selected.index = place := hc.index_eq
    subst index
    exact ⟨method, List.mem_zipIdx_iff_getElem?.mp hp, hc⟩

theorem spared_or_chosen (hm : file.methods[index]? = some method) :
    Spared file.pool className selects hooks method ∨
      ∃ selected ∈ found.filterMap id, selected.index = index := by
  have hp : (method, index) ∈ file.methods.zipIdx := List.mem_zipIdx_iff_getElem?.mpr hm
  obtain ⟨entry, he, hs⟩ := forall₂_exists_left h.flip hp
  rcases select?_cases hs with ⟨_, spared⟩ | ⟨selected, rfl, hc⟩
  · exact .inl spared
  · exact .inr ⟨selected, List.mem_filterMap.mpr ⟨_, he, rfl⟩, hc.index_eq⟩

end Selections

/-- A method with the body that it is rewritten to. -/
def Rewritten.replace (r : Rewritten) (method : Member) : Member :=
  { method with
    attributes := method.attributes.modify r.selected.codeIndex ({ · with info := r.body.toBytes }) }

theorem Rewritten.getElem?_replace (r : Rewritten)
    (h : r.selected.codeIndex < method.attributes.length) :
    (r.replace method).attributes[r.selected.codeIndex]?
      = some { method.attributes[r.selected.codeIndex] with info := r.body.toBytes } := by
  rw [Rewritten.replace, List.getElem?_modify, List.getElem?_eq_getElem h]
  simp

theorem replaceBody_eq (methods : List Member) (r : Rewritten) :
    replaceBody methods r = methods.modify r.selected.index r.replace := rfl

theorem getElem?_foldl_replaceBody {rewritten : List Rewritten} {methods : List Member}
    (h : rewritten.Pairwise (·.selected.index < ·.selected.index)) {method : Member}
    (hm : (rewritten.foldl replaceBody methods)[index]? = some method) :
    (methods[index]? = some method ∧ ∀ r ∈ rewritten, r.selected.index ≠ index) ∨
      ∃ r ∈ rewritten, r.selected.index = index ∧
        ∃ former, methods[index]? = some former ∧ method = r.replace former := by
  induction rewritten generalizing methods with
  | nil => exact .inl ⟨hm, by simp⟩
  | cons r rewritten ih =>
    obtain ⟨above, h⟩ := List.pairwise_cons.mp h
    rw [List.foldl_cons, replaceBody_eq] at hm
    have unchanged (hn : r.selected.index ≠ index) :
        (methods.modify r.selected.index r.replace)[index]? = methods[index]? := by
      rw [List.getElem?_modify, Option.map_eq_map]
      simp [hn]
    rcases ih h hm with ⟨hm, others⟩ | ⟨other, ho, hi, former, hf, rfl⟩
    · by_cases here : r.selected.index = index
      · subst here
        rw [List.getElem?_modify, Option.map_eq_map] at hm
        obtain ⟨former, hf, rfl⟩ := Option.map_eq_some_iff.mp hm
        exact .inr ⟨r, List.mem_cons_self, rfl, former, hf, by simp⟩
      · rw [unchanged here] at hm
        refine .inl ⟨hm, fun other ho => ?_⟩
        rcases List.mem_cons.mp ho with rfl | ho
        · exact here
        · exact others other ho
    · have := above other ho
      rw [unchanged (by omega)] at hf
      exact .inr ⟨other, List.mem_cons_of_mem _ ho, hi, former, hf, rfl⟩

theorem attributeIndex?_replace (r : Rewritten) (method : Member) (pool : ConstantPool)
    (name : String) :
    (r.replace method).attributeIndex? pool name = method.attributeIndex? pool name := by
  unfold Member.attributeIndex? Rewritten.replace
  dsimp only
  generalize r.selected.codeIndex = codeIndex
  induction method.attributes generalizing codeIndex with
  | nil => simp
  | cons attr attributes ih =>
    cases codeIndex with
    | zero => rfl
    | succ codeIndex =>
      rw [List.modify_succ_cons, List.findIdx?_cons, List.findIdx?_cons, ih]

/-- A method that has instructions where it is entered. -/
def Entered (pool : ConstantPool) (selected : Selected) : Prop :=
  ∃ label, Entry.anchor pool selected.name selected.code.instructions = .ok label ∧
    label < selected.code.instructions.size

section Stories

variable {r : Rewritten} {indices : HookIndices} (story : r.Story file indices pool)

include story

theorem Rewritten.Story.file_extends_start : file.pool.Extends story.steps.start :=
  story.file_extends.trans story.steps.grown

theorem Rewritten.Story.named_extends_pool : story.steps.named.Extends pool :=
  (story.steps.named_extends_woven.trans story.steps.woven_extends_later).trans story.extends_pool

theorem Rewritten.Story.start_extends_pool : story.steps.start.Extends pool :=
  story.steps.start_extends_named.trans story.named_extends_pool

/-- The prologue of a rewritten method is recognized. -/
theorem Rewritten.Story.isTraced (hp : file.pool.Numbered)
    (hcode : Decoded.ofCode r.selected.body.code = .ok r.selected.code)
    (hbegin : pool.memberRef indices.beginHook = .ok hooks.beginHook)
    (hentry : Entered file.pool r.selected) :
    Entry.isTraced pool hooks r.selected.name r.selected.tag r.flow.instructions = .ok true := by
  obtain ⟨label, ha, hl⟩ := hentry
  have same := Entry.anchor_extends story.file_extends_start ha
  rw [story.steps.anchor_eq] at same
  cases same
  obtain ⟨ranges, traced⟩ := story.steps.exists_traced hcode
  rw [← story.flow_eq] at traced
  have entered := traced.anchor_eq (TracedBody.markers_idle indices _ _)
    (fun _ => Decoded.ofCode_formed hcode) story.steps.anchor_eq
  have opening : (TracedBody.markers indices story.steps.anchor story.steps.tag).opening
      r.selected.code.instructions story.steps.anchor = 2 := Markers.opening_anchor hl
  have second : 1 < (TracedBody.markers indices story.steps.anchor story.steps.tag).opening
      r.selected.code.instructions story.steps.anchor := by omega
  obtain ⟨spelled, hg, ht⟩ := stringIndex_runs
    (story.file_extends_start.numbered hp) story.steps.named_runs
  refine Entry.isTraced_eq_ok_true.mpr ⟨_, TracedBody.loadText story.steps.tag,
    .withIndex Opcode.invokestatic indices.beginHook,
    Entry.anchor_extends story.start_extends_pool entered, ?_, ?_, ?_, ?_⟩
  · exact traced.prologue story.steps.anchor hl 0 (Nat.zero_lt_of_lt second)
  · exact traced.prologue story.steps.anchor hl 1 second
  · exact Entry.loadsText_loadText (story.named_extends_pool.get? hg)
      (story.named_extends_pool.utf8 ht)
  · exact Entry.callsMethod_call hbegin

theorem Rewritten.Story.spared (hp : file.pool.Numbered) (hext : file.pool.Extends pool)
    (chosen : Chosen file.pool className method index r.selected) (named : Named file.pool method)
    (hbegin : pool.memberRef indices.beginHook = .ok hooks.beginHook)
    (hentry : Entered file.pool r.selected) (hparse : Body.parse r.body.toBytes = .ok r.body) :
    Spared pool className selects hooks (r.replace method) := by
  have lt := attributeIndex?_lt chosen.codeIndex_eq
  have decoded := story.steps.ofCode_written chosen.code_eq
  rw [← story.body_eq, ← story.flow_eq] at decoded
  have traced := story.isTraced hp chosen.code_eq hbegin hentry
  rw [chosen.tag_eq] at traced
  have index_eq : (r.replace method).attributeIndex? pool "Code" = some r.selected.codeIndex := by
    rw [attributeIndex?_replace, attributeIndex?_extends hext named, chosen.codeIndex_eq]
  exact .traced (hext.utf8 chosen.name_eq) index_eq (r.getElem?_replace lt) hparse decoded traced

end Stories

/-- How the methods of a class have come to be rewritten, and why the others have not been. -/
structure Tracing (file : ClassFile) (selects : String → Bool) (hooks : Hooks)
    (rewritten : List Rewritten) (pool : ConstantPool) (className : String)
    (indices : HookIndices) : Prop where
  name_eq : file.name = .ok className
  extends_pool : file.pool.Extends pool
  hooks_eq : file.pool.Numbered → rewritten ≠ [] →
    pool.memberRef indices.beginHook = .ok hooks.beginHook ∧
      pool.memberRef indices.endHook = .ok hooks.endHook
  sorted : rewritten.Pairwise (·.selected.index < ·.selected.index)
  chosen : ∀ r ∈ rewritten, ∃ former, file.methods[r.selected.index]? = some former ∧
    Chosen file.pool className former r.selected.index r.selected ∧
      Nonempty (r.Story file indices pool)
  spared : ∀ (index : Nat) method, file.methods[index]? = some method →
    (∀ r ∈ rewritten, r.selected.index ≠ index) →
      Spared file.pool className selects hooks method

theorem rewrite_tracing {rewritten : List Rewritten}
    (h : rewrite file selects hooks = .ok (rewritten, pool)) :
    ∃ className indices, Tracing file selects hooks rewritten pool className indices := by
  obtain ⟨selection, indices, hs, hext, hresolve, hall⟩ := rewrite_stories h
  obtain ⟨className, entries, hc, rfl, hentries⟩ := selection_eq_ok hs
  have selected_eq : entries.filterMap id = rewritten.map (·.selected) := by
    have same := hall.imp fun _ _ step => step.1.symm
    rwa [← List.forall₂_eq_eq_eq, List.forall₂_map_right_iff]
  refine ⟨className, indices, hc, hext, hresolve, ?_, ?_, ?_⟩
  · have selections := (pairwise_index hentries).2
    rwa [selected_eq, List.pairwise_map] at selections
  · intro r hr
    obtain ⟨selected, _, rfl, story⟩ := forall₂_exists_left hall hr
    obtain ⟨former, hf, chosen⟩ := chosen_of_mem hentries
      (selected_eq ▸ List.mem_map_of_mem hr : r.selected ∈ entries.filterMap id)
    exact ⟨former, hf, chosen, story⟩
  · intro index method hm others
    rcases spared_or_chosen hentries hm with spared | ⟨selected, hs, here⟩
    · exact spared
    · rw [selected_eq] at hs
      obtain ⟨r, hr, rfl⟩ := List.mem_map.mp hs
      exact absurd here (others r hr)

end Instrumented

open Instrumented

theorem instrument_eq_some_file {file : ClassFile} {selects : String → Bool} {hooks : Hooks}
    {result : Instrumented} (h : instrument file selects hooks = .ok (some result)) :
    ∃ rewritten pool, rewrite file selects hooks = .ok (rewritten, pool) ∧ rewritten ≠ [] ∧
      result.file = { file with pool, methods := rewritten.foldl replaceBody file.methods } := by
  obtain ⟨rewritten, pool, hr, some, rfl⟩ := instrument_eq_some_iff.mp h
  exact ⟨rewritten, pool, hr, some, rfl⟩

/-- A class that has been traced once is left alone. -/
theorem instrument_instrumented {file : ClassFile} {selects : String → Bool} {hooks : Hooks}
    {result : Instrumented} {rewritten : List Rewritten} {pool : ConstantPool}
    (h : instrument file selects hooks = .ok (some result))
    (hr : rewrite file selects hooks = .ok (rewritten, pool)) (hp : file.pool.Numbered)
    (hnames : ∀ method ∈ file.methods, ∀ attr ∈ method.attributes,
      ∃ name, file.pool.utf8 attr.name = .ok name)
    (hentry : ∀ r ∈ rewritten, ∃ label,
      Entry.anchor file.pool r.selected.name r.selected.code.instructions = .ok label ∧
        label < r.selected.code.instructions.size)
    (hparse : ∀ r ∈ rewritten, Body.parse r.body.toBytes = .ok r.body) :
    instrument result.file selects hooks = .ok none := by
  obtain ⟨found, later, hf, hne, hfile⟩ := instrument_eq_some_file h
  cases hr.symm.trans hf
  obtain ⟨className, indices, tracing⟩ := rewrite_tracing hr
  have spared : ∀ method ∈ result.file.methods,
      Spared result.file.pool className selects hooks method := by
    intro method hm
    rw [hfile] at hm ⊢
    obtain ⟨index, hi⟩ := List.mem_iff_getElem?.mp hm
    rcases getElem?_foldl_replaceBody tracing.sorted hi with
      ⟨hold, others⟩ | ⟨r, hmem, rfl, former, hold, rfl⟩
    · exact (tracing.spared index method hold others).extends tracing.extends_pool
        (hnames _ (List.mem_of_getElem? hold))
    · obtain ⟨method, hm, chosen, ⟨story⟩⟩ := tracing.chosen r hmem
      rw [hold] at hm
      cases hm
      exact story.spared hp tracing.extends_pool chosen (hnames _ (List.mem_of_getElem? hold))
        (tracing.hooks_eq hp hne).1 (hentry r hmem) (hparse r hmem)
  have named : result.file.name = .ok className := by
    rw [hfile]
    exact tracing.extends_pool.className tracing.name_eq
  have none := selection_eq_nil named spared
  unfold instrument rewrite
  rw [none]
  rfl

/-- Whether a class has methods to be rewritten, all of them with an instruction where they are
entered and with a body that is read as it is written. -/
def rewritesReadably (file : ClassFile) (hooks : Hooks) : Bool :=
  match rewrite file (fun _ => true) hooks with
  | .ok (rewritten, _) => !rewritten.isEmpty && rewritten.all fun r =>
      (match Entry.anchor file.pool r.selected.name r.selected.code.instructions with
        | .ok label => label < r.selected.code.instructions.size
        | .error _ => false) &&
      (match Body.parse r.body.toBytes with
        | .ok body => body = r.body
        | .error _ => false)
  | .error _ => false

theorem instrument_instrumented_branchingClass :
    ∃ result, instrument branchingClass (fun _ => true) {} = .ok (some result) ∧
      instrument result.file (fun _ => true) {} = .ok none := by
  have hreadable : rewritesReadably branchingClass {} = true := by cbv
  unfold rewritesReadably at hreadable
  split at hreadable
  · next rewritten pool hr =>
    obtain ⟨hne, hall⟩ := Bool.and_eq_true_iff.mp hreadable
    have hnil : rewritten.isEmpty = false := by simpa using hne
    obtain ⟨result, h⟩ := instrument_of_rewrite hr hnil
    refine ⟨result, h, instrument_instrumented h hr (by decide) ?_ ?_ ?_⟩
    · intro method hm attr ha
      have only : branchingClass.methods.flatMap (·.attributes) = [⟨5, _⟩] := rfl
      have : attr ∈ branchingClass.methods.flatMap (·.attributes) :=
        List.mem_flatMap.mpr ⟨method, hm, ha⟩
      rw [only, List.mem_singleton] at this
      exact ⟨"Code", by rw [this]; cbv⟩
    · intro r hmem
      have entered := (Bool.and_eq_true_iff.mp (List.all_eq_true.mp hall r hmem)).1
      split at entered
      · next label ha => exact ⟨label, ha, of_decide_eq_true entered⟩
      · cases entered
    · intro r hmem
      have parses := (Bool.and_eq_true_iff.mp (List.all_eq_true.mp hall r hmem)).2
      split at parses
      · next body hb => rw [hb, of_decide_eq_true parses]
      · cases parses
  · cases hreadable

end MethodTrace
