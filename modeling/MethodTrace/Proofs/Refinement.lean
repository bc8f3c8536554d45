import MethodTrace.Proofs.PathErasure
import MethodTrace.Proofs.Rewriting
import MethodTrace.Proofs.StackReplay

/-!
Tracing keeps the executions of a method: without what has been added, those of the traced method
are those that the method had before, each of them once.
-/

namespace MethodTrace

open Markers

/-- Markers after whose instructions execution goes on. -/
structure Markers.GoOn (markers : Markers) : Prop where
  prologue : ∀ insn ∈ markers.prologue, insn.endsBlock = false
  endCall : markers.endCall.endsBlock = false

theorem TracedBody.markers_goOn (hooks : HookIndices) (anchor : Label) (tag : UInt16) :
    (TracedBody.markers hooks anchor tag).GoOn := by
  refine ⟨fun insn hi => ?_, rfl⟩
  rcases mem_prologue.mp hi with rfl | rfl
  · exact loadText_endsBlock tag
  · rfl

namespace Traced

variable {markers : Markers} {old new : Flow} {ranges : List (Label × Label)} {label place : Nat}
  {exit : Exit} {next : Option Nat} {met : Nat → Prop}

/-- Execution goes on from all that stands before an old instruction. -/
theorem goes_on (h : Traced markers old new ranges) (hm : markers.GoOn)
    (hl : label < old.instructions.size) (hentry : markers.entry old.instructions label ≤ place)
    (hlt : place < markers.place old.instructions label) :
    new.Leads place .next (some (place + 1)) := by
  have hc := closing_le_one old.instructions label
  rcases Nat.lt_or_ge place (markers.target old.instructions label) with lt | ge
  · have hi : place - markers.entry old.instructions label <
        markers.opening old.instructions label := by
      rw [Markers.target] at lt
      omega
    have hp := h.prologue label hl _ hi
    rw [Nat.add_sub_cancel' hentry, List.getElem?_eq_getElem
      (Nat.lt_of_lt_of_le hi (opening_le_length _ _ _))] at hp
    exact .next hp (hm.prologue _ (List.getElem_mem _))
  · rw [Markers.place] at hlt
    have hp := h.endCall label hl (by omega)
    rw [(by omega : place = markers.target old.instructions label)]
    exact .next hp hm.endCall

/-- The end call of the added handler is followed by the instruction that throws again. -/
theorem handler_goes_on (h : Traced markers old new ranges) (hm : markers.GoOn) (hne : ranges ≠ []) :
    new.Leads (markers.bodyEnd old.instructions) .next
      (some (markers.bodyEnd old.instructions + 1)) :=
  .next (h.guarded hne).2.1 hm.endCall

theorem rethrow_escapes (h : Traced markers old new ranges) (hne : ranges ≠ []) :
    new.Leads (markers.bodyEnd old.instructions + 1) .escaped none := by
  refine .escaped (by rw [(h.guarded hne).1]; omega) ?_
  intro j _ handler hi hc
  have := (h.covered (List.mem_of_getElem? hi) hc).2
  omega

/-- An exception thrown again is not caught. -/
theorem leads_rethrow (h : Traced markers old new ranges) (hne : ranges ≠ [])
    (leads : new.Leads (markers.bodyEnd old.instructions + 1) exit next) :
    exit = .escaped ∧ next = none := by
  have hthrow := (h.guarded hne).2.2
  cases leads with
  | next here goes =>
    cases here.symm.trans hthrow
    cases goes
  | jump here goes =>
    cases here.symm.trans hthrow
    cases goes
  | returned here goes =>
    cases here.symm.trans hthrow
    cases goes
  | caught _ _ here covers =>
    have := (h.covered (List.mem_of_getElem? here) covers).2
    omega
  | escaped => exact ⟨rfl, rfl⟩

/-- One step of the new flow is one step of the old one, or none at all. -/
theorem step_erased (h : Traced markers old new ranges) {d : Option Nat}
    (hlt : ∀ l, d = some l → l < old.instructions.size)
    (heads : Heads markers old ranges (some place) d) (leads : new.Leads place exit next)
    (normal : markers.origin? old.instructions place = none →
      place ≠ markers.bodyEnd old.instructions + 1 → exit = .next) :
    (markers.origin? old.instructions place = none ∧ Heads markers old ranges next d) ∨
    (∃ l d', d = some l ∧ place = markers.place old.instructions l ∧
      old.Leads l (exit.former old.handlers.length) d' ∧ Heads markers old ranges next d') := by
  cases heads with
  | @body label _ inside entry before =>
    have hl := hlt label rfl
    rcases Nat.eq_or_lt_of_le before with rfl | lt
    · obtain ⟨d', hd, hh⟩ := h.leads_former hl leads
      exact .inr ⟨label, d', rfl, rfl, hd, hh⟩
    · have hnone := origin?_before entry lt
      have hend := @place_lt_bodyEnd markers _ _ hl
      refine .inl ⟨hnone, ?_⟩
      cases normal hnone (by omega)
      cases leads with
      | next => exact .body inside (by omega) lt
  | handler guarded =>
    have hnone : markers.origin? old.instructions (markers.bodyEnd old.instructions) = none :=
      origin?_behind le_rfl
    refine .inl ⟨hnone, ?_⟩
    cases normal hnone (by omega)
    cases leads with
    | next => exact .rethrow guarded
  | rethrow guarded =>
    obtain ⟨_, rfl⟩ := h.leads_rethrow guarded leads
    exact .inl ⟨origin?_behind (Nat.le_succ _), .outside⟩

/-- A whole execution of the new flow, without what has been added, is one of the old flow. -/
theorem path_erased (h : Traced markers old new ranges) (hc : old.ClosedOver met)
    {start last : Option Nat} {steps : List (Nat × Exit)} (path : new.Path start steps last)
    {d : Option Nat} (hmet : ∀ l, d = some l → met l) (heads : Heads markers old ranges start d)
    (hu : markers.Undisturbed old steps) :
    ∃ d', old.Path d (markers.erase old steps) d' ∧ Heads markers old ranges last d' := by
  induction path generalizing d with
  | stop => exact ⟨d, .stop d, heads⟩
  | @step place exit next last steps leads path ih =>
    have hstep := h.step_erased (fun l hl => hc.lt_size l (hmet l hl)) heads leads
      (hu _ List.mem_cons_self)
    rcases hstep with ⟨hnone, hh⟩ | ⟨l, d', rfl, rfl, hd, hh⟩
    · rw [erase_cons_added hnone]
      exact ih hmet hh hu.tail
    · have hl := hc.lt_size l (hmet l rfl)
      obtain ⟨d'', hp, hlast⟩ := ih
        (fun target ht => hc.leads l (hmet l rfl) _ target (ht ▸ hd)) hh hu.tail
      rw [erase_cons_place hl]
      exact ⟨d'', .step hd hp, hlast⟩

theorem undisturbed_nil (markers : Markers) (old : Flow) : markers.Undisturbed old [] := by
  intro step hs
  cases hs

/-- Through what has been added before an old instruction, execution gets to it. -/
theorem settles_body (h : Traced markers old new ranges) (hm : markers.GoOn)
    (hl : label < old.instructions.size) (distance : Nat)
    (hentry : markers.entry old.instructions label ≤ place)
    (hd : place + distance = markers.place old.instructions label) :
    ∃ steps, new.Path (some place) steps (some (markers.place old.instructions label)) ∧
      markers.Undisturbed old steps ∧ markers.erase old steps = [] := by
  induction distance generalizing place with
  | zero =>
    rw [← hd]
    exact ⟨[], .stop _, undisturbed_nil _ _, rfl⟩
  | succ distance ih =>
    have lt : place < markers.place old.instructions label := by omega
    obtain ⟨steps, hp, hu, he⟩ := ih (by omega : _ ≤ place + 1) (by omega)
    refine ⟨(place, .next) :: steps, .step (h.goes_on hm hl hentry lt) hp, hu.cons_next, ?_⟩
    rw [erase_cons_added (origin?_before hentry lt), he]

/-- Through the added handler, an exception gets out of the method. -/
theorem settles_rethrow (h : Traced markers old new ranges) (hne : ranges ≠ []) :
    ∃ steps, new.Path (some (markers.bodyEnd old.instructions + 1)) steps none ∧
      markers.Undisturbed old steps ∧ markers.erase old steps = [] := by
  refine ⟨[(_, .escaped)], .step (h.rethrow_escapes hne) (.stop none), ?_, ?_⟩
  · intro step hs _ hend
    rw [List.mem_singleton.mp hs] at hend
    exact absurd rfl hend
  · rw [erase_cons_added (origin?_behind (Nat.le_succ _))]
    rfl

/-- From wherever execution is on its way, it gets there. -/
theorem settles (h : Traced markers old new ranges) (hm : markers.GoOn) {start d : Option Nat}
    (hlt : ∀ l, d = some l → l < old.instructions.size)
    (heads : Heads markers old ranges start d) :
    ∃ steps, new.Path start steps (d.map (markers.place old.instructions)) ∧
      markers.Undisturbed old steps ∧ markers.erase old steps = [] := by
  cases heads with
  | outside => exact ⟨[], .stop none, undisturbed_nil _ _, rfl⟩
  | @body label place inside entry before =>
    exact h.settles_body hm (hlt label rfl) (markers.place old.instructions label - place) entry
      (by omega)
  | handler guarded =>
    obtain ⟨steps, hp, hu, he⟩ := h.settles_rethrow guarded
    refine ⟨_, .step (h.handler_goes_on hm guarded) hp, hu.cons_next, ?_⟩
    rw [erase_cons_added (origin?_behind le_rfl), he]
  | rethrow guarded => exact h.settles_rethrow guarded

/-- Every execution of the old flow is what is left of one of the new flow. -/
theorem path_arises (h : Traced markers old new ranges) (hm : markers.GoOn)
    (hc : old.ClosedOver met) {d last : Option Nat} {steps : List (Nat × Exit)}
    (path : old.Path d steps last) (hmet : ∀ l, d = some l → met l) {start : Option Nat}
    (heads : Heads markers old ranges start d) :
    ∃ steps', new.Path start steps' (last.map (markers.place old.instructions)) ∧
      markers.Undisturbed old steps' ∧ markers.erase old steps' = steps := by
  induction path generalizing start with
  | stop d => exact h.settles hm (fun l hl => hc.lt_size l (hmet l hl)) heads
  | @step label exit next last steps leads path ih =>
    have hl := hc.lt_size label (hmet label rfl)
    obtain ⟨before, hb, hbu, hbe⟩ := h.settles hm (fun l hl => hc.lt_size l (hmet l hl)) heads
    obtain ⟨exit', next', hleads, hformer, hh⟩ := h.leads_of_former leads
    obtain ⟨after, ha, hau, hae⟩ := ih
      (fun target ht => hc.leads label (hmet label rfl) exit target (ht ▸ leads)) hh
    refine ⟨before ++ (markers.place old.instructions label, exit') :: after,
      hb.append (.step hleads ha), hbu.append (hau.cons_place hl), ?_⟩
    rw [erase_append, hbe, erase_cons_place hl, hformer, hae]
    rfl

/-- What has been added has one way out at most. -/
theorem added_exit_unique (h : Traced markers old new ranges) {other : Exit} {next' : Option Nat}
    {steps more : List (Nat × Exit)} (hnone : markers.origin? old.instructions place = none)
    (leads : new.Leads place exit next) (leads' : new.Leads place other next')
    (hu : markers.Undisturbed old ((place, exit) :: steps))
    (hu' : markers.Undisturbed old ((place, other) :: more)) : exit = other := by
  by_cases hend : place = markers.bodyEnd old.instructions + 1
  · subst hend
    have hne : ranges ≠ [] := by
      intro hnil
      have hlt := leads.lt_size
      rw [h.bare hnil] at hlt
      omega
    rw [(h.leads_rethrow hne leads).1, (h.leads_rethrow hne leads').1]
  · have he := hu _ List.mem_cons_self hnone hend
    have ho := hu' _ List.mem_cons_self hnone hend
    exact he.trans ho.symm

/-- An execution of the new flow that has come to an old instruction is known by what is left of
it. -/
theorem path_unique (h : Traced markers old new ranges) {start last : Option Nat}
    {steps more : List (Nat × Exit)} (path : new.Path start steps last)
    (path' : new.Path start more last)
    (hlast : ∀ place, last = some place → ∃ l, markers.origin? old.instructions place = some l)
    (hu : markers.Undisturbed old steps) (hu' : markers.Undisturbed old more)
    (heq : markers.erase old steps = markers.erase old more) : steps = more := by
  induction path generalizing more with
  | stop place =>
    cases path' with
    | stop => rfl
    | @step label exit _ _ rest leads _ =>
      obtain ⟨l, ho⟩ := hlast label rfl
      obtain ⟨hl, rfl⟩ := origin?_eq_some ho
      rw [erase_cons_place hl] at heq
      cases heq
  | @step label exit next last rest leads path ih =>
    cases path' with
    | stop =>
      obtain ⟨l, ho⟩ := hlast label rfl
      obtain ⟨hl, rfl⟩ := origin?_eq_some ho
      rw [erase_cons_place hl] at heq
      cases heq
    | @step _ other next' _ rest' leads' path' =>
      cases ho : markers.origin? old.instructions label with
      | none =>
        cases h.added_exit_unique ho leads leads' hu hu'
        cases leads.unique leads'
        rw [erase_cons_added ho, erase_cons_added ho] at heq
        rw [ih path' hlast hu.tail hu'.tail heq]
      | some l =>
        obtain ⟨hl, rfl⟩ := origin?_eq_some ho
        rw [erase_cons_place hl, erase_cons_place hl] at heq
        obtain ⟨hhead, htail⟩ := List.cons.inj heq
        cases h.former_injective leads leads' (Prod.mk.inj hhead).2
        cases leads.unique leads'
        rw [ih path' hlast hu.tail hu'.tail htail]

end Traced

/-- A flow of which another one is the traced form, as far as their executions tell. -/
structure Refines (markers : Markers) (old new : Flow) : Prop where
  /-- Where an execution of the new flow goes, the old one goes as well. -/
  erases : ∀ steps last, new.Path (some 0) steps last → markers.Undisturbed old steps →
    ∃ d, old.Path (some 0) (markers.erase old steps) d ∧ (last = none → d = none) ∧
      ∀ l < old.instructions.size, last = some (markers.place old.instructions l) → d = some l
  /-- Where the old flow goes, one execution of the new flow goes as well. -/
  arises : ∀ steps d, old.Path (some 0) steps d → ∃! steps',
    new.Path (some 0) steps' (d.map (markers.place old.instructions)) ∧
      markers.Undisturbed old steps' ∧ markers.erase old steps' = steps

/-- A flow of which another one is the traced form, instruction by instruction and handler by
handler. -/
structure Relocates (markers : Markers) (old new : Flow) (ranges : List (Label × Label)) : Prop where
  original : ∀ (label : Nat) insn, old.instructions[label]? = some insn →
    ∃ laid, new.instructions[markers.place old.instructions label]? = some laid ∧
      (insn.mapTargets (markers.target old.instructions)).Widens laid
  /-- All other instructions are those of the markers, and the one that throws again. -/
  added : ∀ (place : Nat) insn, new.instructions[place]? = some insn →
    markers.origin? old.instructions place = none → insn ∈ markers.prologue ∨
      insn = markers.endCall ∨
      (insn = .plain Opcode.athrow [] ∧ place = markers.bodyEnd old.instructions + 1)
  handlers : ∀ (index : Nat) handler, old.handlers[index]? = some handler →
    ∃ moved, new.handlers[index]? = some moved ∧ moved.catchType = handler.catchType ∧
      ∀ label : Nat, moved.covers (markers.place old.instructions label) = true ↔
        handler.covers label = true
  added_handlers : ∀ (index : Nat) handler, old.handlers.length ≤ index →
    new.handlers[index]? = some handler →
      handler.catchType = 0 ∧ handler.handler = markers.bodyEnd old.instructions
  /-- Every way out of an old instruction is still there, and there is no other one. -/
  leads_new : ∀ label exit d, old.Leads label exit d → ∃ exit' next,
    new.Leads (markers.place old.instructions label) exit' next ∧
      exit'.former old.handlers.length = exit ∧ Heads markers old ranges next d
  leads_old : ∀ label < old.instructions.size, ∀ exit next,
    new.Leads (markers.place old.instructions label) exit next →
      ∃ d, old.Leads label (exit.former old.handlers.length) d ∧ Heads markers old ranges next d

namespace Traced

variable {markers : Markers} {old new : Flow} {ranges : List (Label × Label)}

theorem added (h : Traced markers old new ranges) {place : Nat} {insn : Instruction}
    (hi : new.instructions[place]? = some insn)
    (hnone : markers.origin? old.instructions place = none) : insn ∈ markers.prologue ∨
      insn = markers.endCall ∨
      (insn = .plain Opcode.athrow [] ∧ place = markers.bodyEnd old.instructions + 1) := by
  rcases Nat.lt_or_ge place (markers.bodyEnd old.instructions) with lt | ge
  · rcases place_cases lt with ⟨l, hl, i, hio, rfl⟩ | ⟨l, hl, hc, rfl⟩ | ⟨l, hl, rfl⟩
    · have hp := hi.symm.trans (h.prologue l hl i hio)
      exact .inl (List.mem_of_getElem? hp.symm)
    · cases hi.symm.trans (h.endCall l hl hc)
      exact .inr (.inl rfl)
    · rw [origin?_place hl] at hnone
      cases hnone
  · have hlt := (Array.getElem?_eq_some_iff.mp hi).1
    have hne : ranges ≠ [] := by
      intro hnil
      rw [h.bare hnil] at hlt
      omega
    obtain ⟨hsize, hcall, hthrow⟩ := h.guarded hne
    rcases (by omega : place = markers.bodyEnd old.instructions ∨
        place = markers.bodyEnd old.instructions + 1) with rfl | rfl
    · cases hi.symm.trans hcall
      exact .inr (.inl rfl)
    · cases hi.symm.trans hthrow
      exact .inr (.inr ⟨rfl, rfl⟩)

theorem relocates (h : Traced markers old new ranges) : Relocates markers old new ranges where
  original := h.original
  added _ _ hi hnone := h.added hi hnone
  handlers _ _ hi := ⟨_, h.handler_of_former hi, rfl, fun _ => covers_move⟩
  added_handlers _ _ hle hi := (h.added_handler hi hle).2
  leads_new _ _ _ leads := h.leads_of_former leads
  leads_old _ hl _ _ leads := h.leads_former hl leads

theorem refines (h : Traced markers old new ranges) (hm : markers.GoOn) {pool : ConstantPool}
    (hr : old.Replays pool) : Refines markers old new := by
  rcases Nat.eq_zero_or_pos old.instructions.size with hz | h0
  · -- Without instructions there is only the execution that has not begun.
    have hplace : markers.place old.instructions 0 = 0 := by
      simp [place, Markers.target, Markers.entry, opening, closing, hz]
    refine ⟨?_, ?_⟩
    · intro steps last path _
      obtain ⟨rfl, rfl⟩ := path.of_empty (h.size_eq_zero hz)
      refine ⟨some 0, .stop _, ?_, ?_⟩
      · intro hn
        cases hn
      · intro l hl
        omega
    · intro steps d path
      obtain ⟨rfl, rfl⟩ := path.of_empty hz
      rw [Option.map_some, hplace]
      refine ⟨[], ⟨.stop _, undisturbed_nil _ _, rfl⟩, ?_⟩
      rintro other ⟨hp, _, _⟩
      exact (hp.of_empty (h.size_eq_zero hz)).1
  obtain ⟨met, hc⟩ := hr.closed
  have hstart : ∀ l, some 0 = some l → met l := by
    intro l hl
    cases hl
    exact hc.start h0
  have heads : Heads markers old ranges (some 0) (some 0) := .entry (Nat.zero_le _)
  refine ⟨?_, ?_⟩
  · intro steps last path hu
    obtain ⟨d, hd, hlast⟩ := h.path_erased hc path hstart heads hu
    refine ⟨d, hd, ?_, ?_⟩
    · rintro rfl
      cases hlast
      rfl
    · rintro l hl rfl
      exact hlast.eq_of_place hl
  · intro steps d path
    obtain ⟨steps', hp, hu, he⟩ := h.path_arises hm hc path hstart heads
    refine ⟨steps', ⟨hp, hu, he⟩, ?_⟩
    rintro other ⟨hp', hu', he'⟩
    refine (h.path_unique hp hp' ?_ hu hu' (he.trans he'.symm)).symm
    intro place hplace
    obtain ⟨l, rfl, rfl⟩ := Option.map_eq_some_iff.mp hplace
    exact ⟨l, origin?_place (hc.lt_size l (hc.path path hstart l rfl))⟩

end Traced

open Instrumented

/-- Tracing keeps every method that it rewrites: its instructions and handlers, and, where its stack
depths could be replayed, all its executions. -/
theorem instrument_refines {file : ClassFile} {selects : String → Bool} {hooks : Hooks}
    {result : Instrumented} (h : instrument file selects hooks = .ok (some result)) :
    ∃ rewritten, rewrite file selects hooks = .ok (rewritten, result.file.pool) ∧
      result.file.methods = rewritten.foldl replaceBody file.methods ∧
      ∀ r ∈ rewritten, ∃ old indices anchor tag ranges, r.selected.flow = .ok old ∧
        Relocates (TracedBody.markers indices anchor tag) old r.flow ranges ∧
        ∀ pool, old.Replays pool → Refines (TracedBody.markers indices anchor tag) old r.flow := by
  obtain ⟨rewritten, hr, _, hm⟩ := instrument_eq_some h
  refine ⟨rewritten, hr, hm, ?_⟩
  intro r hmem
  obtain ⟨indices, _, htraced⟩ := rewrite_traced hr
  obtain ⟨old, anchor, tag, ranges, ho, _, ht⟩ := htraced r hmem
  exact ⟨old, indices, anchor, tag, ranges, ho, ht.relocates, fun pool hreplays =>
    ht.refines (TracedBody.markers_goOn indices anchor tag) hreplays⟩

/-- Whether a class has methods to be rewritten, all of them with stack depths that can be
replayed. -/
def rewritesReplayable (file : ClassFile) : Bool :=
  match rewrite file (fun _ => true) {} with
  | .ok (rewritten, _) => !rewritten.isEmpty && rewritten.all fun r =>
      match r.selected.flow with
      | .ok old => (StackDepth.maximum old.instructions old.handlers file.pool matches .ok _)
      | .error _ => false
  | .error _ => false

theorem instrument_refines_branchingClass :
    ∃ result, instrument branchingClass (fun _ => true) {} = .ok (some result) ∧
      ∃ rewritten, rewrite branchingClass (fun _ => true) {} = .ok (rewritten, result.file.pool) ∧
        rewritten ≠ [] ∧ ∀ r ∈ rewritten, ∃ old indices anchor tag, r.selected.flow = .ok old ∧
          Refines (TracedBody.markers indices anchor tag) old r.flow := by
  have hreplayable : rewritesReplayable branchingClass = true := by cbv
  unfold rewritesReplayable at hreplayable
  split at hreplayable
  · next rewritten pool hr =>
    obtain ⟨hne, hall⟩ := Bool.and_eq_true_iff.mp hreplayable
    have hnil : rewritten.isEmpty = false := by simpa using hne
    obtain ⟨result, h⟩ := instrument_of_rewrite hr hnil
    obtain ⟨found, hf, _, hrefines⟩ := instrument_refines h
    cases hr.symm.trans hf
    refine ⟨result, h, rewritten, hr, by simpa using hnil, fun r hmem => ?_⟩
    obtain ⟨old, indices, anchor, tag, _, ho, _, href⟩ := hrefines r hmem
    have hreplays := List.all_eq_true.mp hall r hmem
    rw [ho] at hreplays
    dsimp only at hreplays
    split at hreplays
    · next depth hd => exact ⟨old, indices, anchor, tag, ho, href _ ⟨depth, hd⟩⟩
    · cases hreplays
  · cases hreplayable

end MethodTrace
