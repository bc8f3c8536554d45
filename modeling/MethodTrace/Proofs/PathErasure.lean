import MethodTrace.Proofs.FlowPaths
import MethodTrace.Proofs.TracedFlow

/-!
What is left of an execution of a traced method when all that tracing has added is taken out of it.

`Heads` is the simulation between the two flows: it says to which old label execution is on its way
at a new place. Every way out of an old instruction corresponds to one of the new one, in both
directions.
-/

namespace MethodTrace

/-- The way out of a former instruction; what only an added handler catches has escaped before. -/
def Exit.former (handlers : Nat) : Exit → Exit
  | .caught index => if index < handlers then .caught index else .escaped
  | exit => exit

theorem Exit.former_caught {handlers index : Nat} (h : handlers ≤ index) :
    (Exit.caught index).former handlers = .escaped := by
  rw [former, if_neg (Nat.not_lt.mpr h)]

theorem Exit.former_cases (handlers : Nat) (exit : Exit) :
    exit.former handlers = exit ∨ ∃ index, exit = .caught index ∧ handlers ≤ index := by
  cases exit with
  | caught index =>
    rcases Nat.lt_or_ge index handlers with lt | ge
    · exact .inl (by rw [former, if_pos lt])
    · exact .inr ⟨index, rfl, ge⟩
  | next => exact .inl rfl
  | jump => exact .inl rfl
  | returned => exact .inl rfl
  | escaped => exact .inl rfl

namespace Markers

/-- The old label whose instruction stands at a place, if it is an old one. -/
def origin? (markers : Markers) (old : Array Instruction) (place : Nat) : Option Nat :=
  (List.range old.size).find? fun label => markers.place old label == place

/-- The steps of an execution that are taken at old instructions, as they were before. -/
def erase (markers : Markers) (old : Flow) (steps : List (Nat × Exit)) : List (Nat × Exit) :=
  steps.filterMap fun step =>
    (markers.origin? old.instructions step.1).map (·, step.2.former old.handlers.length)

/-- Whether all that has been added completes normally, but for the instruction that throws the
exception of the method again. -/
def Undisturbed (markers : Markers) (old : Flow) (steps : List (Nat × Exit)) : Prop :=
  ∀ step ∈ steps, markers.origin? old.instructions step.1 = none →
    step.1 ≠ markers.bodyEnd old.instructions + 1 → step.2 = .next

/-- The old label to which execution is on its way at a new place; none once it is about to leave
the method with an exception, or has left it. -/
inductive Heads (markers : Markers) (old : Flow) (ranges : List (Label × Label)) :
    Option Nat → Option Nat → Prop
  | outside : Heads markers old ranges none none
  | body {label place : Nat} (inside : label ≤ old.instructions.size)
      (entry : markers.entry old.instructions label ≤ place)
      (before : place ≤ markers.place old.instructions label) :
      Heads markers old ranges (some place) (some label)
  | handler (guarded : ranges ≠ []) :
      Heads markers old ranges (some (markers.bodyEnd old.instructions)) none
  | rethrow (guarded : ranges ≠ []) :
      Heads markers old ranges (some (markers.bodyEnd old.instructions + 1)) none

variable {markers : Markers} {old new : Flow} {ranges : List (Label × Label)} {label place : Nat}
  {steps more : List (Nat × Exit)} {exit other : Exit}

/-- A place over which the moved handlers lie as the handlers lay over an old label. -/
def Overlies (markers : Markers) (old : Flow) (place label : Nat) : Prop :=
  ∀ handler : Handler,
    (markers.move old.instructions handler).covers place = true ↔ handler.covers label = true

theorem overlies_place (markers : Markers) (old : Flow) (label : Nat) :
    Overlies markers old (markers.place old.instructions label) label :=
  fun _ => covers_move

theorem origin?_place (h : label < old.instructions.size) :
    markers.origin? old.instructions (markers.place old.instructions label) = some label := by
  unfold origin?
  cases hf : (List.range old.instructions.size).find? fun l =>
      markers.place old.instructions l == markers.place old.instructions label with
  | none =>
    have := List.find?_eq_none.mp hf label (List.mem_range.mpr h)
    simp at this
  | some found =>
    have hp := List.find?_some hf
    rw [place_injective (beq_iff_eq.mp hp)]

theorem origin?_eq_some (h : markers.origin? old.instructions place = some label) :
    label < old.instructions.size ∧ place = markers.place old.instructions label := by
  have hm := List.mem_of_find?_eq_some h
  have hp := List.find?_some h
  exact ⟨List.mem_range.mp hm, (beq_iff_eq.mp hp).symm⟩

theorem origin?_eq_none (h : ∀ l < old.instructions.size, place ≠ markers.place old.instructions l) :
    markers.origin? old.instructions place = none := by
  refine List.find?_eq_none.mpr fun l hl hp => ?_
  exact h l (List.mem_range.mp hl) (beq_iff_eq.mp hp).symm

theorem origin?_before (hentry : markers.entry old.instructions label ≤ place)
    (hlt : place < markers.place old.instructions label) :
    markers.origin? old.instructions place = none := by
  refine origin?_eq_none fun l _ hp => ?_
  rcases Nat.lt_trichotomy l label with lt | rfl | gt
  · have := place_lt_entry markers old.instructions lt
    omega
  · omega
  · have := place_lt_place markers old.instructions gt
    omega

theorem origin?_behind (h : markers.bodyEnd old.instructions ≤ place) :
    markers.origin? old.instructions place = none := by
  refine origin?_eq_none fun l hl hp => ?_
  have := @place_lt_bodyEnd markers _ _ hl
  omega

theorem erase_append : markers.erase old (steps ++ more) =
    markers.erase old steps ++ markers.erase old more :=
  List.filterMap_append

theorem erase_cons_place (h : label < old.instructions.size) :
    markers.erase old ((markers.place old.instructions label, exit) :: steps) =
      (label, exit.former old.handlers.length) :: markers.erase old steps := by
  unfold erase
  rw [List.filterMap_cons, origin?_place h]
  rfl

theorem erase_cons_added (h : markers.origin? old.instructions place = none) :
    markers.erase old ((place, exit) :: steps) = markers.erase old steps := by
  unfold erase
  rw [List.filterMap_cons, h]
  rfl

theorem Undisturbed.append (h : markers.Undisturbed old steps) (h' : markers.Undisturbed old more) :
    markers.Undisturbed old (steps ++ more) := by
  intro step hs
  rcases List.mem_append.mp hs with hs | hs
  · exact h step hs
  · exact h' step hs

theorem Undisturbed.tail (h : markers.Undisturbed old ((place, exit) :: steps)) :
    markers.Undisturbed old steps :=
  fun step hs => h step (List.mem_cons_of_mem _ hs)

theorem Undisturbed.cons_place (hl : label < old.instructions.size)
    (h : markers.Undisturbed old steps) :
    markers.Undisturbed old ((markers.place old.instructions label, exit) :: steps) := by
  intro step hs hnone
  rcases List.mem_cons.mp hs with rfl | hs
  · rw [origin?_place hl] at hnone
    cases hnone
  · exact h step hs hnone

theorem Undisturbed.cons_next (h : markers.Undisturbed old steps) :
    markers.Undisturbed old ((place, .next) :: steps) := by
  intro step hs hnone hne
  rcases List.mem_cons.mp hs with rfl | hs
  · rfl
  · exact h step hs hnone hne

theorem entry_le_place (markers : Markers) (old : Array Instruction) (label : Nat) :
    markers.entry old label ≤ markers.place old label :=
  Nat.le_trans (entry_le_target _ _ _) (target_le_place _ _ _)

theorem Heads.entry (h : label ≤ old.instructions.size) :
    Heads markers old ranges (some (markers.entry old.instructions label)) (some label) :=
  .body h le_rfl (entry_le_place _ _ _)

theorem Heads.target (h : label ≤ old.instructions.size) :
    Heads markers old ranges (some (markers.target old.instructions label)) (some label) :=
  .body h (entry_le_target _ _ _) (target_le_place _ _ _)

/-- At an old instruction execution is on its way nowhere else. -/
theorem Heads.eq_of_place {d : Option Nat} (hl : label < old.instructions.size)
    (h : Heads markers old ranges (some (markers.place old.instructions label)) d) :
    d = some label := by
  have hend := @place_lt_bodyEnd markers _ _ hl
  generalize hp : markers.place old.instructions label = place at h
  cases h with
  | @body other _ inside entry before =>
    rcases Nat.lt_trichotomy other label with lt | rfl | gt
    · have := place_lt_place markers old.instructions lt
      omega
    · rfl
    · have := place_lt_entry markers old.instructions gt
      omega
  | handler => omega
  | rethrow => omega

end Markers

namespace Traced

open Markers

variable {markers : Markers} {old new : Flow} {ranges : List (Label × Label)} {label place : Nat}
  {exit other : Exit} {next : Option Nat}

/-- The old handlers come first, each with the type that it catches and over what it guarded. -/
theorem handler_of_former (h : Traced markers old new ranges) {index : Nat} {handler : Handler}
    (hi : old.handlers[index]? = some handler) :
    new.handlers[index]? = some (markers.move old.instructions handler) := by
  have hlt := (List.getElem?_eq_some_iff.mp hi).1
  rw [h.handlers, List.getElem?_append_left (by simpa using hlt), List.getElem?_map, hi]
  rfl

theorem former_of_handler (h : Traced markers old new ranges) {index : Nat} {handler : Handler}
    (hi : new.handlers[index]? = some handler) (hlt : index < old.handlers.length) :
    ∃ former, old.handlers[index]? = some former ∧
      handler = markers.move old.instructions former := by
  have hf := List.getElem?_eq_getElem hlt
  have hn := h.handler_of_former hf
  exact ⟨_, hf, Option.some.inj (hi.symm.trans hn)⟩

/-- All handlers behind the old ones catch everything, at the end of the body. -/
theorem added_handler (h : Traced markers old new ranges) {index : Nat} {handler : Handler}
    (hi : new.handlers[index]? = some handler) (hle : old.handlers.length ≤ index) :
    ranges ≠ [] ∧ handler.catchType = 0 ∧
      handler.handler = markers.bodyEnd old.instructions := by
  rw [h.handlers, List.getElem?_append_right (by simpa using hle)] at hi
  obtain ⟨range, hr, rfl⟩ := List.mem_map.mp (List.mem_of_getElem? hi)
  exact ⟨List.ne_nil_of_mem hr, rfl, rfl⟩

/-- The handlers behind the old ones are those that have been added. -/
theorem mem_drop_handlers (h : Traced markers old new ranges) {handler : Handler} :
    handler ∈ new.handlers.drop old.handlers.length ↔
      handler ∈ ranges.map (markers.guard old.instructions) := by
  rw [h.handlers, List.drop_left' (by simp)]

/-- An exception gets past the moved handlers where it got past the handlers. -/
theorem passes_overlying (h : Traced markers old new ranges) (ho : Overlies markers old place label)
    {index : Nat} (hle : index ≤ old.handlers.length) :
    new.Passes place index ↔ old.Passes label index := by
  constructor
  · intro hp j hj handler hi hc
    exact hp j hj (markers.move old.instructions handler) (h.handler_of_former hi)
      ((ho handler).mpr hc)
  · intro hp j hj handler hi hc
    obtain ⟨former, hf, rfl⟩ := h.former_of_handler hi (Nat.lt_of_lt_of_le hj hle)
    exact hp j hj former hf ((ho former).mp hc)

theorem passes_former (h : Traced markers old new ranges) {index : Nat}
    (hle : index ≤ old.handlers.length) :
    new.Passes (markers.place old.instructions label) index ↔ old.Passes label index :=
  h.passes_overlying (overlies_place markers old label) hle

theorem handlers_length_le (h : Traced markers old new ranges) :
    old.handlers.length ≤ new.handlers.length := by
  rw [h.handlers, List.length_append, List.length_map]
  exact Nat.le_add_right _ _

theorem exists_original (h : Traced markers old new ranges) (hl : label < old.instructions.size) :
    ∃ insn laid, old.instructions[label]? = some insn ∧
      new.instructions[markers.place old.instructions label]? = some laid ∧
      (insn.mapTargets (markers.target old.instructions)).Widens laid := by
  obtain ⟨laid, hp, hw⟩ := h.original label _ (Array.getElem?_eq_getElem hl)
  exact ⟨_, laid, Array.getElem?_eq_getElem hl, hp, hw⟩

/-- Execution goes on from an old instruction where it went on before. -/
theorem leads_next_iff (h : Traced markers old new ranges) (hl : label < old.instructions.size) :
    new.Leads (markers.place old.instructions label) .next next ↔
      old.Leads label .next (some (label + 1)) ∧
        next = some (markers.entry old.instructions (label + 1)) := by
  obtain ⟨insn, laid, hi, hp, hw⟩ := h.exists_original hl
  have ends : laid.endsBlock = insn.endsBlock := by
    rw [hw.endsBlock, Instruction.endsBlock_mapTargets]
  constructor
  · intro leads
    cases leads with
    | next here goes =>
      cases here.symm.trans hp
      exact ⟨.next hi (ends ▸ goes), rfl⟩
  · rintro ⟨leads, rfl⟩
    cases leads with
    | next here goes =>
      cases here.symm.trans hi
      exact .next hp (ends.trans goes)

/-- Every jump of an old instruction leads to where its target has moved. -/
theorem leads_jump_iff (h : Traced markers old new ranges) (hl : label < old.instructions.size)
    {index : Nat} : new.Leads (markers.place old.instructions label) (.jump index) next ↔
      ∃ target ≤ old.instructions.size, old.Leads label (.jump index) (some target) ∧
        next = some (markers.target old.instructions target) := by
  obtain ⟨insn, laid, hi, hp, hw⟩ := h.exists_original hl
  have moved : laid.targets[index]? =
      insn.targets[index]?.map (markers.target old.instructions) := by
    rw [hw.targets, Instruction.targets_mapTargets, List.getElem?_map]
  constructor
  · intro leads
    cases leads with
    | jump here goes =>
      cases here.symm.trans hp
      rw [moved] at goes
      obtain ⟨target, ht, rfl⟩ := Option.map_eq_some_iff.mp goes
      exact ⟨target, h.targets_le insn (Array.mem_of_getElem? hi) target (List.mem_of_getElem? ht),
        .jump hi ht, rfl⟩
  · rintro ⟨target, _, leads, rfl⟩
    cases leads with
    | jump here goes =>
      cases here.symm.trans hi
      exact .jump hp (by rw [moved, goes]; rfl)

/-- Every way out of an old instruction in the new flow is one that it had before. -/
theorem leads_former (h : Traced markers old new ranges) (hl : label < old.instructions.size)
    (leads : new.Leads (markers.place old.instructions label) exit next) :
    ∃ d, old.Leads label (exit.former old.handlers.length) d ∧
      Heads markers old ranges next d := by
  obtain ⟨insn, laid, hi, hp, hw⟩ := h.exists_original hl
  cases exit with
  | next =>
    obtain ⟨before, rfl⟩ := (h.leads_next_iff hl).mp leads
    exact ⟨_, before, .entry hl⟩
  | jump index =>
    obtain ⟨target, inside, before, rfl⟩ := (h.leads_jump_iff hl).mp leads
    exact ⟨_, before, .target inside⟩
  | returned =>
    cases leads with
    | returned here goes =>
      cases here.symm.trans hp
      rw [hw.isReturn, Instruction.opcode_mapTargets] at goes
      exact ⟨_, .returned hi goes, .outside⟩
  | caught index =>
    cases leads with
    | @caught _ handler inside passes here covers =>
      rcases Nat.lt_or_ge index old.handlers.length with lt | ge
      · obtain ⟨former, hf, rfl⟩ := h.former_of_handler here lt
        have hle := (h.handlers_le former (List.mem_of_getElem? hf)).2.2
        refine ⟨some former.handler, ?_, .target hle⟩
        rw [Exit.former, if_pos lt]
        exact .caught hl ((h.passes_former (Nat.le_of_lt lt)).mp passes) hf (covers_move.mp covers)
      · obtain ⟨hne, _, hplace⟩ := h.added_handler here ge
        refine ⟨none, ?_, ?_⟩
        · rw [Exit.former_caught ge]
          refine .escaped hl ((h.passes_former le_rfl).mp fun j hj => passes j ?_)
          exact Nat.lt_of_lt_of_le hj ge
        · rw [hplace]
          exact .handler hne
  | escaped =>
    cases leads with
    | escaped inside passes =>
      refine ⟨none, .escaped hl ((h.passes_former le_rfl).mp fun j hj => passes j ?_), .outside⟩
      exact Nat.lt_of_lt_of_le hj h.handlers_length_le

/-- Where an exception has escaped, it is caught by the first added handler that covers its place,
or it escapes still. -/
theorem leads_of_escaped (h : Traced markers old new ranges) (hl : label < old.instructions.size)
    (passes : old.Passes label old.handlers.length) :
    ∃ exit next, new.Leads (markers.place old.instructions label) exit next ∧
      exit.former old.handlers.length = .escaped ∧ Heads markers old ranges next none := by
  obtain ⟨insn, laid, hi, hp, hw⟩ := h.exists_original hl
  have hinside := (Array.getElem?_eq_some_iff.mp hp).1
  have hformer := (h.passes_former le_rfl).mpr passes
  by_cases hc : ∃ (index : Nat) (handler : Handler), new.handlers[index]? = some handler ∧
      handler.covers (markers.place old.instructions label) = true ∧ handler.catchType = 0
  · classical
    obtain ⟨handler, hget, hcovers, hall⟩ := Nat.find_spec hc
    have hge : old.handlers.length ≤ Nat.find hc := by
      by_contra hlt
      exact hformer _ (Nat.lt_of_not_le hlt) handler hget hcovers hall
    obtain ⟨hne, _, hplace⟩ := h.added_handler hget hge
    refine ⟨.caught (Nat.find hc), _, .caught hinside ?_ hget hcovers, ?_, ?_⟩
    · intro j hj other ho hoc hz
      exact Nat.find_min hc hj ⟨other, ho, hoc, hz⟩
    · exact Exit.former_caught hge
    · rw [hplace]
      exact .handler hne
  · refine ⟨.escaped, none, .escaped hinside ?_, rfl, .outside⟩
    intro j _ handler hget hcovers hz
    exact hc ⟨j, handler, hget, hcovers, hz⟩

/-- Every way out of an old instruction is still there. -/
theorem leads_of_former (h : Traced markers old new ranges) {d : Option Nat}
    (leads : old.Leads label exit d) :
    ∃ exit' next, new.Leads (markers.place old.instructions label) exit' next ∧
      exit'.former old.handlers.length = exit ∧ Heads markers old ranges next d := by
  have hl := leads.lt_size
  obtain ⟨insn, laid, hi, hp, hw⟩ := h.exists_original hl
  cases leads with
  | next here goes =>
    exact ⟨.next, _, (h.leads_next_iff hl).mpr ⟨.next here goes, rfl⟩, rfl, .entry hl⟩
  | @jump found index target here goes =>
    have hle := h.targets_le found (Array.mem_of_getElem? here) target (List.mem_of_getElem? goes)
    exact ⟨.jump index, _, (h.leads_jump_iff hl).mpr ⟨target, hle, .jump here goes, rfl⟩, rfl,
      .target hle⟩
  | returned here goes =>
    cases here.symm.trans hi
    refine ⟨.returned, _, .returned hp ?_, rfl, .outside⟩
    rw [hw.isReturn, Instruction.opcode_mapTargets, goes]
  | @caught index handler inside passes here covers =>
    have hlt := (List.getElem?_eq_some_iff.mp here).1
    have hle := (h.handlers_le handler (List.mem_of_getElem? here)).2.2
    refine ⟨.caught index, _, .caught (Array.getElem?_eq_some_iff.mp hp).1
      ((h.passes_former (Nat.le_of_lt hlt)).mpr passes) (h.handler_of_former here)
      (covers_move.mpr covers), ?_, .target hle⟩
    rw [Exit.former, if_pos hlt]
  | escaped inside passes => exact h.leads_of_escaped hl passes

/-- Nothing gets past an added handler that covers its place. -/
theorem not_passes (h : Traced markers old new ranges) {index count : Nat} {handler : Handler}
    (hi : new.handlers[index]? = some handler) (hc : handler.covers place = true)
    (hle : old.handlers.length ≤ index) (hlt : index < count) : ¬ new.Passes place count :=
  fun hp => hp index hlt handler hi hc (h.added_handler hi hle).2.1

theorem not_passes_of_caught (h : Traced markers old new ranges) {index count : Nat}
    (leads : new.Leads place (.caught index) next) (hle : old.handlers.length ≤ index)
    (hlt : index < count) : ¬ new.Passes place count := by
  cases leads with
  | caught _ _ here covers => exact h.not_passes here covers hle hlt

/-- No two ways out of an instruction were the same before. -/
theorem former_injective (h : Traced markers old new ranges) {next' : Option Nat}
    (leads : new.Leads place exit next) (leads' : new.Leads place other next')
    (heq : exit.former old.handlers.length = other.former old.handlers.length) : exit = other := by
  -- An exception that an added handler catches cannot escape as well.
  have hescaped : ∀ {index d d'}, new.Leads place (.caught index) d →
      old.handlers.length ≤ index → new.Leads place .escaped d' → False := by
    intro index d d' hc hle he
    cases he with
    | escaped _ passes =>
      cases hc with
      | caught inside before here covers =>
        exact h.not_passes here covers hle (List.getElem?_eq_some_iff.mp here).1 passes
  have hpasses : ∀ {index d}, new.Leads place (.caught index) d → new.Passes place index := by
    intro index d hc
    cases hc with
    | caught _ passes => exact passes
  rcases Exit.former_cases old.handlers.length exit with he | ⟨i, rfl, hi⟩
  · rcases Exit.former_cases old.handlers.length other with ho | ⟨j, rfl, hj⟩
    · rw [he, ho] at heq
      exact heq
    · rw [he, Exit.former_caught hj] at heq
      subst heq
      exact (hescaped leads' hj leads).elim
  · rcases Exit.former_cases old.handlers.length other with ho | ⟨j, rfl, hj⟩
    · rw [ho, Exit.former_caught hi] at heq
      subst heq
      exact (hescaped leads hi leads').elim
    · rcases Nat.lt_trichotomy i j with lt | rfl | gt
      · exact absurd (hpasses leads') (h.not_passes_of_caught leads hi lt)
      · rfl
      · exact absurd (hpasses leads) (h.not_passes_of_caught leads' hj gt)

end Traced

end MethodTrace
