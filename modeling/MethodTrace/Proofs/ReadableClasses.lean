import MethodTrace.Proofs.RepeatedTracing
import MethodTrace.Proofs.RepresentableClasses
import MethodTrace.Proofs.WovenTables

/-!
Traced classes that are read again as they were written.

What tracing adds to a class can outgrow the fields in which lengths and counts are written: a tag
is longer than the names that it is made of, and a handler takes rows of its own. Within these
limits a traced class is read back, and with it every traced method, whose tables lead to the
boundaries of its new code.
-/

namespace MethodTrace

open ConstantPool

theorem Except.foldlM_mono {ε α β : Type} {f g : β → α → Except ε β} {xs : List α}
    {start result : β} (hfg : ∀ before x after, f before x = .ok after → g before x = .ok after)
    (h : xs.foldlM f start = .ok result) : xs.foldlM g start = .ok result := by
  induction xs generalizing start with
  | nil => exact h
  | cons x xs ih =>
    rw [List.foldlM_cons] at h ⊢
    obtain ⟨next, hn, h⟩ := Except.bind_eq_ok_iff.mp h
    exact Except.bind_eq_ok_iff.mpr ⟨next, hfg start x next hn, ih h⟩

namespace PlacedBody

variable {pool later : ConstantPool} {hasFrames : Bool} {initial : List VerificationType}
  {code : Decoded}

theorem addAttribute_extends (hext : pool.Extends later) {before after : PlacedBody}
    {attr : Attribute} (h : addAttribute pool hasFrames initial code before attr = .ok after) :
    addAttribute later hasFrames initial code before attr = .ok after := by
  obtain ⟨text, ht, h⟩ := Except.bind_eq_ok_iff.mp h
  exact Except.bind_eq_ok_iff.mpr ⟨text, hext.utf8 ht, h⟩

/-- A body is expanded in the same way in every later pool. -/
theorem ofBody_extends (hext : pool.Extends later) {body : Body} {placed : PlacedBody}
    (h : ofBody pool hasFrames initial code body = .ok placed) :
    ofBody later hasFrames initial code body = .ok placed := by
  obtain ⟨handlers, hh, h⟩ := Except.bind_eq_ok_iff.mp h
  exact Except.bind_eq_ok_iff.mpr
    ⟨handlers, hh, Except.foldlM_mono (fun _ _ _ => addAttribute_extends hext) h⟩

end PlacedBody

/-- In a payload that is not too long no attribute is. -/
theorem Body.fits_iff {body : Body} (h : body.toBytes.length < UInt32.size) :
    body.Fits ↔ body.exceptions.length ≤ 65535 ∧ body.attributes.length ≤ 65535 := by
  constructor
  · intro fits
    exact ⟨Nat.le_of_lt_succ fits.exceptions, Nat.le_of_lt_succ fits.attributes.length⟩
  · rintro ⟨rows, attributes⟩
    simp only [toBytes, Bytes.counted, List.length_append] at h
    refine ⟨by omega, Nat.lt_succ_of_le rows, Nat.lt_succ_of_le attributes, fun attr ha => ?_⟩
    have part : attr.write.length ≤ (body.attributes.flatMap Attribute.write).length :=
      (List.sublist_flatten_of_mem (List.mem_map_of_mem ha)).length_le
    simp only [Attribute.write, List.length_append] at part
    change attr.info.length < UInt32.size
    omega

/-- The locals with which a method of a class begins. -/
def ClassFile.entryLocals (file : ClassFile) (method : Member) :
    Except ClassFileError (List VerificationType) := do
  let className ← file.name
  let name ← file.pool.utf8 method.name
  let descriptor ← file.pool.utf8 method.descriptor
  let signature : MethodSignature := ⟨className, name, descriptor, method.access⟩
  (file.pool.extend signature.initialLocals).1

namespace Instrumented

/-- The frames that a rewritten method has had. -/
def Rewritten.formerFrames (r : Rewritten) (file : ClassFile) :
    Except ClassFileError (List Frame) := do
  let initial ← file.entryLocals r.selected.method
  let placed ← PlacedBody.ofBody file.pool true initial r.selected.code r.selected.body
  return placed.frames

/-- Whether some instruction from where a method is entered does not return, so that a handler is
added behind its body. -/
def Rewritten.Guarded (r : Rewritten) (file : ClassFile) : Prop :=
  ∃ (anchor label : Nat) (insn : Instruction),
    Entry.anchor file.pool r.selected.name r.selected.code.instructions = .ok anchor ∧
      anchor ≤ label ∧ r.selected.code.instructions[label]? = some insn ∧
        insn.opcode.isReturn = false

/-- Whether a rewritten method has had no frame at the end of its code. -/
def Rewritten.EndsUnframed (r : Rewritten) (file : ClassFile) : Prop :=
  TracedMethod.framesVersion ≤ file.majorVersion → ∀ frames, r.formerFrames file = .ok frames →
    ∀ frame ∈ frames, frame.label ≠ r.selected.code.instructions.size

/-- A rewritten method that is read back from a class as it was written, with every place that its
tables name. -/
structure Rewritten.ReadBack (r : Rewritten) (file : ClassFile) (method : Member)
    (attr : Attribute) (code : Decoded) : Prop where
  method_eq : file.methods[r.selected.index]? = some method
  attr_eq : method.attributes[r.selected.codeIndex]? = some attr
  named : file.pool.utf8 attr.name = .ok "Code"
  body_eq : Body.parse attr.info = .ok r.body
  resolves : r.body.Resolves file.pool (file.entryLocals method) r.flow code

theorem utf8_of_attributeIndex? {method : Member} {pool : ConstantPool} {text : String}
    {index : Nat} (h : method.attributeIndex? pool text = some index)
    (lt : index < method.attributes.length) :
    pool.utf8 method.attributes[index].name = .ok text := by
  obtain ⟨_, named, _⟩ := List.findIdx?_eq_some_iff_getElem.mp h
  unfold Attribute.hasName at named
  split at named
  · next found hf => rw [hf, beq_iff_eq.mp named]
  · cases named

section Stories

variable {file : ClassFile} {r : Rewritten} {indices : HookIndices} {pool : ConstantPool}
  {methods : List Member} {className : String} {former : Member}
  (story : r.Story file indices pool)

include story

theorem Rewritten.Story.guarded_iff : r.Guarded { file with pool, methods } ↔
    story.steps.weaving.protectedRanges story.steps.anchor ≠ [] := by
  have anchor_eq := Entry.anchor_extends story.start_extends_pool story.steps.anchor_eq
  rw [story.steps.protectedRanges_ne_nil_iff]
  constructor
  · rintro ⟨anchor, label, insn, ha, rest⟩
    obtain rfl := Except.ok.inj (anchor_eq.symm.trans ha)
    exact ⟨label, insn, rest⟩
  · rintro ⟨label, insn, rest⟩
    exact ⟨_, label, insn, anchor_eq, rest⟩

variable (chosen : Chosen file.pool className former r.selected.index r.selected)
  (hext : file.pool.Extends pool)

include chosen hext

theorem Rewritten.Story.entryLocals_eq (framed : TracedMethod.framesVersion ≤ file.majorVersion) :
    ClassFile.entryLocals { file with pool, methods } r.selected.method
      = .ok story.steps.initial := by
  have hasFrames : TracedMethod.hasFrames ⟨⟨story.className, r.selected.name, story.descriptor,
      r.selected.method.access⟩, file.majorVersion, r.selected.tag⟩ = true := decide_eq_true framed
  have settled := (TracedMethod.settles_entryLocals _).of_runs story.steps.initial_runs
    story.start_extends_pool
  rw [TracedMethod.entryLocals, if_pos hasFrames] at settled
  refine Except.bind_eq_ok_iff.mpr ⟨_, hext.className story.className_eq, ?_⟩
  refine Except.bind_eq_ok_iff.mpr ⟨_, hext.utf8 (chosen.method_eq ▸ chosen.name_eq), ?_⟩
  refine Except.bind_eq_ok_iff.mpr ⟨_, hext.utf8 story.descriptor_eq, ?_⟩
  exact congrArg Prod.fst settled

theorem Rewritten.Story.endsUnframed_iff : r.EndsUnframed { file with pool, methods } ↔
    ∀ frame ∈ story.steps.placed.frames, frame.label ≠ r.selected.code.instructions.size := by
  have former_eq (framed : TracedMethod.framesVersion ≤ file.majorVersion) :
      r.formerFrames { file with pool, methods } = .ok story.steps.placed.frames := by
    have placed := PlacedBody.ofBody_extends story.start_extends_pool story.steps.placed_eq
    refine Except.bind_eq_ok_iff.mpr ⟨_, story.entryLocals_eq chosen hext framed, ?_⟩
    refine Except.bind_eq_ok_iff.mpr ⟨_, ?_, rfl⟩
    rw [← placed]
    exact congrArg (PlacedBody.ofBody pool · _ _ _) (decide_eq_true framed).symm
  constructor
  · intro unframed frame hf
    by_cases framed : TracedMethod.framesVersion ≤ file.majorVersion
    · exact unframed framed _ (former_eq framed) frame hf
    · rw [(story.steps.placed_sound chosen.code_eq).bare (decide_eq_false framed)] at hf
      cases hf
  · intro unframed framed frames hf
    obtain rfl := Except.ok.inj ((former_eq framed).symm.trans hf)
    exact unframed

theorem Rewritten.Story.resolves_iff (hp : file.pool.Numbered) :
    (∃ code, r.body.Resolves pool
        (ClassFile.entryLocals { file with pool, methods } r.selected.method) r.flow code) ↔
      (r.Guarded { file with pool, methods } → r.EndsUnframed { file with pool, methods }) := by
  have entry (framed : TracedMethod.hasFrames ⟨⟨story.className, r.selected.name,
      story.descriptor, r.selected.method.access⟩, file.majorVersion, r.selected.tag⟩ = true) :
      ClassFile.entryLocals { file with pool, methods } r.selected.method
        = .ok story.steps.initial :=
    story.entryLocals_eq chosen hext (of_decide_eq_true framed)
  rw [story.guarded_iff, story.endsUnframed_iff chosen hext, story.body_eq, story.flow_eq,
    ← story.steps.resolves_iff chosen.code_eq (story.file_extends.numbered hp) story.extends_pool
      entry]
  constructor
  · rintro ⟨code, h⟩
    obtain rfl := Except.ok.inj (h.code_eq.symm.trans (story.steps.ofCode_written chosen.code_eq))
    exact h
  · exact fun h => ⟨_, h⟩

end Stories

section Fits

variable {file : ClassFile} {r : Rewritten} {rewritten : List Rewritten} {former : Member}
  {pool : ConstantPool}

/-- A rewritten method fits if and only if its new payload does. -/
theorem Rewritten.fits_replace_iff (r : Rewritten) (hf : former.Fits)
    (h : r.selected.codeIndex < former.attributes.length) :
    (r.replace former).Fits ↔ r.body.toBytes.length < UInt32.size := by
  constructor
  · intro fits
    exact fits.all _ (List.mem_of_getElem? (r.getElem?_replace h))
  · intro payload
    refine ⟨?_, fun attr ha => ?_⟩
    · rw [Rewritten.replace, List.length_modify]
      exact hf.length
    · obtain ⟨index, hi⟩ := List.mem_iff_getElem?.mp ha
      rw [Rewritten.replace, List.getElem?_modify, Option.map_eq_map] at hi
      obtain ⟨attr', ha', rfl⟩ := Option.map_eq_some_iff.mp hi
      split
      · exact payload
      · exact hf.all attr' (List.mem_of_getElem? ha')

theorem length_foldl_replaceBody (rewritten : List Rewritten) (methods : List Member) :
    (rewritten.foldl replaceBody methods).length = methods.length := by
  induction rewritten generalizing methods with
  | nil => rfl
  | cons r rewritten ih => rw [List.foldl_cons, ih, replaceBody_eq, List.length_modify]

theorem getElem?_foldl_replaceBody_of_mem {methods : List Member}
    (h : rewritten.Pairwise (·.selected.index < ·.selected.index)) (hr : r ∈ rewritten)
    (hf : methods[r.selected.index]? = some former) :
    (rewritten.foldl replaceBody methods)[r.selected.index]? = some (r.replace former) := by
  have lt : r.selected.index < (rewritten.foldl replaceBody methods).length := by
    rw [length_foldl_replaceBody]
    exact (List.getElem?_eq_some_iff.mp hf).1
  have found := List.getElem?_eq_getElem lt
  rcases getElem?_foldl_replaceBody h found with ⟨_, others⟩ | ⟨other, ho, same, former', hf', eq⟩
  · exact absurd rfl (others r hr)
  · have distinct : (rewritten.map (·.selected.index)).Nodup :=
      (List.pairwise_map.mpr h).imp Nat.ne_of_lt
    obtain rfl := List.inj_on_of_nodup_map distinct ho hr same
    rw [hf] at hf'
    cases hf'
    rw [found, eq]

variable {selects : String → Bool} {hooks : Hooks} {className : String} {indices : HookIndices}
  (tracing : Tracing file selects hooks rewritten pool className indices)
include tracing

theorem Tracing.fits_iff (hf : file.Fits) (hs : pool.size < UInt16.size) :
    ClassFile.Fits { file with pool, methods := rewritten.foldl replaceBody file.methods } ↔
      (∀ bytes, .utf8 bytes ∈ pool.slots → bytes.length ≤ 65535) ∧
        ∀ r ∈ rewritten, r.body.toBytes.length < UInt32.size := by
  have fits_replace {r : Rewritten} (hr : r ∈ rewritten) {former : Member}
      (hm : file.methods[r.selected.index]? = some former) :
      (r.replace former).Fits ↔ r.body.toBytes.length < UInt32.size := by
    obtain ⟨same, hsame, chosen, _⟩ := tracing.chosen r hr
    obtain rfl := Option.some.inj (hsame.symm.trans hm)
    exact r.fits_replace_iff (hf.methods.all _ (List.mem_of_getElem? hm))
      (attributeIndex?_lt chosen.codeIndex_eq)
  constructor
  · intro fits
    refine ⟨forall_fits_iff.mp fits.pool.texts, fun r hr => ?_⟩
    obtain ⟨former, hm, _⟩ := tracing.chosen r hr
    exact (fits_replace hr hm).mp (fits.methods.all _
      (List.mem_of_getElem? (getElem?_foldl_replaceBody_of_mem tracing.sorted hr hm)))
  · rintro ⟨texts, payloads⟩
    refine ⟨⟨hs, tracing.extends_pool.laid hf.pool.laid, forall_fits_iff.mpr texts⟩, hf.interfaces,
      hf.fields, ⟨?_, fun method hm => ?_⟩, hf.attributes⟩
    · change (rewritten.foldl replaceBody file.methods).length < UInt16.size
      rw [length_foldl_replaceBody]
      exact hf.methods.length
    · obtain ⟨index, hi⟩ := List.mem_iff_getElem?.mp hm
      rcases getElem?_foldl_replaceBody tracing.sorted hi with
        ⟨hold, _⟩ | ⟨r, hr, rfl, former, hold, rfl⟩
      · exact hf.methods.all _ (List.mem_of_getElem? hold)
      · exact (fits_replace hr hold).mpr (payloads r hr)

/-- A rewritten method is read back if and only if its rows and its attributes can be counted, and
its frames can be told apart from that of the added handler. -/
theorem Tracing.readBack_iff (hp : file.pool.Numbered) (hr : r ∈ rewritten)
    (payload : r.body.toBytes.length < UInt32.size) :
    (∃ method attr code, r.ReadBack
        { file with pool, methods := rewritten.foldl replaceBody file.methods } method attr code) ↔
      (r.body.exceptions.length ≤ 65535 ∧ r.body.attributes.length ≤ 65535) ∧
        (r.Guarded { file with pool, methods := rewritten.foldl replaceBody file.methods } →
          r.EndsUnframed
            { file with pool, methods := rewritten.foldl replaceBody file.methods }) := by
  obtain ⟨former, hm, chosen, ⟨story⟩⟩ := tracing.chosen r hr
  have replaced := getElem?_foldl_replaceBody_of_mem tracing.sorted hr hm
  have lt := attributeIndex?_lt chosen.codeIndex_eq
  have held := r.getElem?_replace lt
  have same : former = r.selected.method := chosen.method_eq.symm
  subst same
  rw [← Body.fits_iff payload, ← Body.parse_toBytes_iff,
    ← story.resolves_iff chosen tracing.extends_pool hp]
  constructor
  · rintro ⟨method, attr, code, back⟩
    obtain rfl := Option.some.inj (replaced.symm.trans back.method_eq)
    obtain rfl := Option.some.inj (held.symm.trans back.attr_eq)
    exact ⟨back.body_eq, code, back.resolves⟩
  · rintro ⟨parses, code, resolves⟩
    have named := tracing.extends_pool.utf8 (utf8_of_attributeIndex? chosen.codeIndex_eq lt)
    exact ⟨_, _, code, replaced, held, named, parses, resolves⟩

end Fits

/-- What of a rewritten method has to be counted in fields of two or four bytes. -/
structure Rewritten.Fits (r : Rewritten) : Prop where
  rows : r.body.exceptions.length ≤ 65535
  attributes : r.body.attributes.length ≤ 65535
  payload : r.body.toBytes.length < UInt32.size

end Instrumented

open Instrumented

/-- A traced class is read back as it was written, with every place that the tables of its traced
methods name, if and only if its texts and these methods fit and no method that has been given a
handler has had a frame at the end of its code. -/
theorem instrument_readBack_iff {data : Bytes} {file : ClassFile} {selects : String → Bool}
    {hooks : Hooks} {result : Instrumented} (hd : ClassFile.parse data = .ok file)
    (hp : file.pool.size ≤ 65535) (h : instrument file selects hooks = .ok (some result)) :
    ∃ rewritten, rewrite file selects hooks = .ok (rewritten, result.file.pool) ∧
      result.file.methods = rewritten.foldl replaceBody file.methods ∧
      ((ClassFile.parse result.file.toBytes = .ok result.file ∧
          ∀ r ∈ rewritten, ∃ method attr code, r.ReadBack result.file method attr code) ↔
        (∀ bytes, .utf8 bytes ∈ result.file.pool.slots → bytes.length ≤ 65535) ∧
          ∀ r ∈ rewritten, r.Fits ∧ (r.Guarded result.file → r.EndsUnframed result.file)) := by
  obtain ⟨rewritten, pool, hr, hne, hfile⟩ := instrument_eq_some_file h
  rw [hfile]
  refine ⟨rewritten, hr, rfl, ?_⟩
  obtain ⟨className, indices, tracing⟩ := rewrite_tracing hr
  have numbered : file.pool.Numbered := hp.trans (Nat.le_succ _)
  have counted : pool.size < UInt16.size := by
    have grown := tracing.extends_pool.size
    change pool.size < 65536
    omega
  have fits := (ClassFile.parse_eq_ok hd).1 (Nat.lt_succ_of_le hp)
  have named : ∃ name, ClassFile.name
      { file with pool, methods := rewritten.foldl replaceBody file.methods } = .ok name :=
    ⟨className, tracing.extends_pool.className tracing.name_eq⟩
  rw [ClassFile.parse_toBytes_iff counted, and_iff_left named, tracing.fits_iff fits counted]
  constructor
  · rintro ⟨⟨texts, payloads⟩, back⟩
    refine ⟨texts, fun r hr => ?_⟩
    obtain ⟨⟨rows, attributes⟩, unframed⟩ :=
      (tracing.readBack_iff numbered hr (payloads r hr)).mp (back r hr)
    exact ⟨⟨rows, attributes, payloads r hr⟩, unframed⟩
  · rintro ⟨texts, limits⟩
    refine ⟨⟨texts, fun r hr => (limits r hr).1.payload⟩, fun r hr => ?_⟩
    obtain ⟨⟨rows, attributes, payload⟩, unframed⟩ := limits r hr
    exact (tracing.readBack_iff numbered hr payload).mpr ⟨⟨rows, attributes⟩, unframed⟩

/-- A class whose methods have frames, with one that branches over an instruction and returns. -/
def framedClass : ClassFile :=
  { branchingClass with majorVersion := 50 }

/-- Whether the methods of a class are rewritten within all limits. -/
def rewritesWithinLimits (file : ClassFile) : Bool :=
  match rewrite file (fun _ => true) {} with
  | .ok (rewritten, pool) =>
    !rewritten.isEmpty && (pool.slots.all fun constant =>
        match constant with
        | .utf8 bytes => bytes.length ≤ 65535
        | _ => true) &&
      rewritten.all fun r =>
        r.body.exceptions.length ≤ 65535 && r.body.attributes.length ≤ 65535 &&
          r.body.toBytes.length < UInt32.size &&
          match r.formerFrames { file with pool } with
          | .ok frames => frames.all (·.label != r.selected.code.instructions.size)
          | .error _ => true
  | .error _ => false

theorem instrument_readBack_framedClass :
    ∃ result rewritten, ClassFile.parse framedClass.toBytes = .ok framedClass ∧
      framedClass.pool.size ≤ 65535 ∧
      instrument framedClass (fun _ => true) {} = .ok (some result) ∧
      rewrite framedClass (fun _ => true) {} = .ok (rewritten, result.file.pool) ∧
      rewritten ≠ [] ∧ ClassFile.parse result.file.toBytes = .ok result.file ∧
      ∀ r ∈ rewritten, ∃ method attr code, r.ReadBack result.file method attr code := by
  have parsed : ClassFile.parse framedClass.toBytes = .ok framedClass := by cbv
  have small : framedClass.pool.size ≤ 65535 := by decide
  have within : rewritesWithinLimits framedClass = true := by cbv
  unfold rewritesWithinLimits at within
  split at within
  · next rewritten pool hr =>
    simp only [Bool.and_eq_true, Bool.not_eq_true'] at within
    obtain ⟨⟨nonempty, texts⟩, limits⟩ := within
    obtain ⟨result, h⟩ := instrument_of_rewrite hr nonempty
    obtain ⟨_, _, hr', _, hfile⟩ := instrument_eq_some_file h
    obtain ⟨_, hr'', _, readBack⟩ := instrument_readBack_iff parsed small h
    cases hr.symm.trans hr'
    cases hr.symm.trans hr''
    have traced : rewritten ≠ [] := by simpa using nonempty
    refine ⟨result, rewritten, parsed, small, h, hr'', traced, readBack.mpr ⟨?_, ?_⟩⟩
    · exact fun bytes hb => of_decide_eq_true (Array.all_eq_true_iff_forall_mem.mp texts _ hb)
    · intro r hmem
      have limit := List.all_eq_true.mp limits r hmem
      simp only [Bool.and_eq_true, decide_eq_true_eq] at limit
      obtain ⟨⟨⟨rows, attributes⟩, payload⟩, unframed⟩ := limit
      refine ⟨⟨rows, attributes, payload⟩, fun _ _ frames hf frame hm => ?_⟩
      rw [hfile] at hf
      have former : r.formerFrames { framedClass with pool := result.file.pool } = .ok frames := hf
      rw [former] at unframed
      simpa using List.all_eq_true.mp unframed frame hm
  · cases within

theorem TracedMethod.Steps.runs {method : TracedMethod} {hooks : HookIndices} {body : Body}
    {code : Decoded} {pool later : ConstantPool} (steps : Steps method hooks body code pool later) :
    Runs (method.instrumentBody hooks body code) pool (steps.flow, steps.written) later := by
  unfold instrumentBody
  extract_lets rest
  have hrest : Runs (rest steps.initial) steps.start (steps.flow, steps.written) later := by
    refine Runs.bind_iff.mpr ⟨steps.traced, steps.woven, ?_, ?_⟩
    · refine Runs.get_bind_iff.mpr (Runs.ofExcept_bind_iff.mpr ⟨_, steps.placed_eq, ?_⟩)
      refine Runs.get_bind_iff.mpr (Runs.ofExcept_bind_iff.mpr ⟨_, steps.anchor_eq, ?_⟩)
      exact Runs.bind_iff.mpr ⟨_, _, steps.named_runs, steps.traced_runs⟩
    · refine Runs.ofExcept_bind_iff.mpr ⟨_, steps.layout_eq, Runs.get_bind_iff.mpr ?_⟩
      refine Runs.ofExcept_bind_iff.mpr ⟨_, steps.depth_eq, ?_⟩
      exact Runs.bind_iff.mpr ⟨_, _, steps.attributes_runs, Runs.pure_iff.mpr ⟨rfl, rfl⟩⟩
  have initial_runs := steps.initial_runs
  unfold entryLocals at initial_runs
  split
  · next framed =>
    rw [if_pos framed] at initial_runs
    exact Runs.bind_iff.mpr ⟨_, _, initial_runs, hrest⟩
  · next unframed =>
    rw [if_neg unframed] at initial_runs
    exact Runs.bind_iff.mpr ⟨_, _, initial_runs, hrest⟩

theorem rewrite_of_runs {file : ClassFile} {selects : String → Bool} {hooks : Hooks}
    {selected : List Selected} {rewritten : List Rewritten} {pool : ConstantPool}
    (hs : selection file selects hooks = .ok selected) (hne : selected.isEmpty = false)
    (hr : Runs (traceAll file hooks selected) file.pool rewritten pool) :
    rewrite file selects hooks = .ok (rewritten, pool) := by
  have extended : file.pool.extend (traceAll file hooks selected) = (.ok rewritten, pool) := hr
  refine Except.bind_eq_ok_iff.mpr ⟨_, hs, ?_⟩
  dsimp only
  rw [if_neg (by simp [hne]), extended]
  rfl

/-- A class whose method has a frame at the end of its two bytes of code, and with all constants
that tracing needs. -/
def overframedClass : ClassFile :=
  let text (s : String) : Constant := .utf8 (ModifiedUtf8.encode s)
  { branchingClass with
    majorVersion := 50
    pool := ⟨#[.unusable, text "A", .classRef 1, text "m", text "()V", text "Code",
      text "StackMapTable", text "android/os/Trace", .classRef 7, text "beginSection",
      text "(Ljava/lang/String;)V", .nameAndType 9 10, .methodref 8 11, text "endSection",
      .nameAndType 13 4, .methodref 8 14, text "A#m", .string 16, text "java/lang/Throwable",
      .classRef 18]⟩
    methods := [⟨9, 3, 4, [⟨5, [0, 1, 0, 0, 0, 0, 0, 2, 0, 0xb1, 0, 0, 0, 1,
      0, 6, 0, 0, 0, 3, 0, 1, 2]⟩]⟩] }

/-- The method of that class as it is selected. -/
def overframedSelected : Selected where
  index := 0
  codeIndex := 0
  method := ⟨9, 3, 4, [⟨5, [0, 1, 0, 0, 0, 0, 0, 2, 0, 0xb1, 0, 0, 0, 1,
    0, 6, 0, 0, 0, 3, 0, 1, 2]⟩]⟩
  name := "m"
  tag := "A#m"
  body := ⟨1, 0, [0, 0xb1], [], [⟨6, [0, 1, 2]⟩]⟩
  code := ⟨#[.plain 0 [], .plain 0xb1 []], #[0, 1, 2]⟩

def overframedTraced : TracedBody where
  weaving := Weaving.weave (TracedBody.markers ⟨12, 15⟩ 0 17) overframedSelected.code.instructions
  instructions := #[.plain 0x12 [17], .plain 0xb8 [0, 12], .plain 0 [], .plain 0xb8 [0, 15],
    .plain 0xb1 [], .plain 0xb8 [0, 15], .plain 0xbf []]
  handlers := [⟨2, 3, 5, 0⟩]
  frames := [⟨5, [], []⟩, ⟨5, [], [.object 19]⟩]
  tables := [(6, .frames)]

theorem ofBody_overframed : PlacedBody.ofBody overframedClass.pool true [] overframedSelected.code
    overframedSelected.body = .ok ⟨[], [⟨2, [], []⟩], [(6, .frames)]⟩ := by
  have named : overframedClass.pool.utf8 6 = .ok "StackMapTable" := by decide +kernel
  have frames : Frame.decodeTable [0, 1, 2] [] overframedSelected.code = .ok [⟨2, [], []⟩] := by cbv
  refine Except.bind_eq_ok_iff.mpr ⟨[], rfl, ?_⟩
  refine Except.bind_eq_ok_iff.mpr ⟨_, Except.bind_eq_ok_iff.mpr ⟨_, named, ?_⟩, rfl⟩
  simp only
  exact Except.bind_eq_ok_iff.mpr ⟨_, frames, rfl⟩

def overframedSteps : TracedMethod.Steps ⟨⟨"A", "m", "()V", 9⟩, 50, "A#m"⟩ ⟨12, 15⟩
    overframedSelected.body overframedSelected.code overframedClass.pool overframedClass.pool where
  initial := []
  start := overframedClass.pool
  placed := ⟨[], [⟨2, [], []⟩], [(6, .frames)]⟩
  anchor := 0
  tag := 17
  named := overframedClass.pool
  traced := overframedTraced
  woven := overframedClass.pool
  layout := ⟨overframedTraced.instructions, #[0, 2, 5, 6, 9, 10, 13, 14]⟩
  depth := 1
  attributes := [⟨6, [0, 2, 10, 247, 255, 255, 7, 0, 19]⟩]
  initial_runs := by unfold Runs; cbv
  placed_eq := ofBody_overframed
  anchor_eq := by cbv
  named_runs := by unfold Runs; cbv
  traced_runs := by unfold Runs; cbv
  layout_eq := by cbv
  depth_eq := by cbv
  attributes_runs := by unfold Runs; cbv

/-- The method of that class as it is rewritten. -/
def overframedRewritten : Rewritten :=
  ⟨overframedSelected, overframedSteps.flow, overframedSteps.written⟩

theorem rewrite_overframedClass : rewrite overframedClass (fun _ => true) {}
    = .ok ([overframedRewritten], overframedClass.pool) := by
  have selected : selection overframedClass (fun _ => true) {} = .ok [overframedSelected] := by cbv
  have named : overframedClass.name = .ok "A" := by cbv
  have described : overframedClass.pool.utf8 4 = .ok "()V" := by cbv
  have beginHook : Runs (methodrefIndex (Hooks.beginHook {})) overframedClass.pool 12
      overframedClass.pool := by
    unfold Runs
    cbv
  have endHook : Runs (methodrefIndex (Hooks.endHook {})) overframedClass.pool 15
      overframedClass.pool := by
    unfold Runs
    cbv
  have traced : Runs (traceSelected overframedClass ⟨12, 15⟩ overframedSelected)
      overframedClass.pool overframedRewritten overframedClass.pool := by
    refine Runs.ofExcept_bind_iff.mpr ⟨_, named, Runs.ofExcept_bind_iff.mpr ⟨_, described, ?_⟩⟩
    refine Runs.bind_iff.mpr ⟨_, _, Runs.adapt_iff.mpr overframedSteps.runs, ?_⟩
    exact Runs.pure_iff.mpr ⟨rfl, rfl⟩
  have all : Runs (traceAll overframedClass {} [overframedSelected]) overframedClass.pool
      [overframedRewritten] overframedClass.pool := by
    refine Runs.bind_iff.mpr ⟨_, _, beginHook, Runs.bind_iff.mpr ⟨_, _, endHook, ?_⟩⟩
    rw [List.mapM_cons]
    refine Runs.bind_iff.mpr ⟨_, _, traced, Runs.bind_iff.mpr ⟨[], overframedClass.pool, ?_, ?_⟩⟩
    · rw [List.mapM_nil]
      exact Runs.pure_iff.mpr ⟨rfl, rfl⟩
    · exact Runs.pure_iff.mpr ⟨rfl, rfl⟩
  exact rewrite_of_runs selected rfl all

theorem formerFrames_overframed :
    overframedRewritten.formerFrames overframedClass = .ok [⟨2, [], []⟩] := by
  have entry : overframedClass.entryLocals overframedSelected.method = .ok [] := by cbv
  exact Except.bind_eq_ok_iff.mpr
    ⟨_, entry, Except.bind_eq_ok_iff.mpr ⟨_, ofBody_overframed, rfl⟩⟩

theorem length_overframed : overframedRewritten.body.toBytes.length < UInt32.size := by cbv

/-- A frame at the end of the code is lost in the tables of the traced method. -/
theorem not_instrument_readBack :
    ¬∀ (data : Bytes) (file : ClassFile) (selects : String → Bool) (hooks : Hooks)
      (result : Instrumented) (rewritten : List Rewritten), ClassFile.parse data = .ok file →
      instrument file selects hooks = .ok (some result) →
      rewrite file selects hooks = .ok (rewritten, result.file.pool) →
      ClassFile.parse result.file.toBytes = .ok result.file ∧
        ∀ r ∈ rewritten, ∃ method attr code, r.ReadBack result.file method attr code := by
  intro claim
  have parsed : ClassFile.parse overframedClass.toBytes = .ok overframedClass := by cbv
  obtain ⟨result, h⟩ := instrument_of_rewrite rewrite_overframedClass rfl
  obtain ⟨_, _, hr, _, hfile⟩ := instrument_eq_some_file h
  cases rewrite_overframedClass.symm.trans hr
  obtain ⟨className, indices, tracing⟩ := rewrite_tracing hr
  have pool_eq : result.file.pool = overframedClass.pool := by rw [hfile]
  obtain ⟨_, back⟩ := claim _ _ _ _ result _ parsed h (pool_eq ▸ hr)
  have back := back overframedRewritten List.mem_cons_self
  rw [hfile] at back
  have unframed :=
    ((tracing.readBack_iff (by decide) List.mem_cons_self length_overframed).mp back).2
  have guarded : overframedRewritten.Guarded overframedClass :=
    ⟨0, 0, .plain 0 [], overframedSteps.anchor_eq, le_rfl, rfl, rfl⟩
  exact unframed guarded (by decide) _ formerFrames_overframed _ List.mem_cons_self rfl

end MethodTrace
