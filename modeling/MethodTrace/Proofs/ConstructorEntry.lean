import MethodTrace.Proofs.EntryScans
import MethodTrace.Proofs.HookBalance
import MethodTrace.Proofs.PathErasure

/-!
The hook calls of traced constructors.

The begin hook of a constructor is called behind the call that initializes its object, wherever that
stands. What else holds of the hook calls depends on the order in which the blocks are laid out: the
added handler covers the places that are laid out behind that call, not those that are executed
behind it.
-/

namespace MethodTrace

namespace Flow

/-- The states that an execution can reach, each with how often the instruction at some label has
been completed on the way. -/
inductive Completes (pool : ConstantPool) (hooks : Hooks) (flow : Flow) (call : Nat) :
    HookState → Nat → Prop
  | start : Completes pool hooks flow call .start 0
  | thrown {s : HookState} {count index target : Nat} {insn : Instruction}
      (h : Completes pool hooks flow call s count)
      (here : flow.instructions[s.label]? = some insn) (may : MayThrow pool hooks insn)
      (leads : flow.Leads s.label (.caught index) (some target)) :
      Completes pool hooks flow call ⟨target, s.begun, s.ended⟩ count
  | done {s : HookState} {count target : Nat} {insn : Instruction} {exit : Exit}
      (h : Completes pool hooks flow call s count)
      (here : flow.instructions[s.label]? = some insn)
      (normal : exit = .next ∨ ∃ index, exit = .jump index)
      (leads : flow.Leads s.label exit (some target)) :
      Completes pool hooks flow call
        ⟨target, s.begun + callCount pool hooks.beginHook insn,
          s.ended + callCount pool hooks.endHook insn⟩
        (if s.label = call then count + 1 else count)

variable {pool : ConstantPool} {hooks : Hooks} {flow : Flow} {call : Nat} {s : HookState}

theorem Completes.reaches {count : Nat} (h : flow.Completes pool hooks call s count) :
    flow.Reaches pool hooks s := by
  induction h with
  | start => exact .start
  | thrown _ here may leads ih => exact ih.step (.thrown here may leads)
  | done _ here normal leads ih => exact ih.step (.done here normal leads)

theorem Reaches.exists_completes (h : flow.Reaches pool hooks s) (call : Nat) :
    ∃ count, flow.Completes pool hooks call s count := by
  induction h with
  | start => exact ⟨0, .start⟩
  | step _ hs ih =>
    obtain ⟨count, h⟩ := ih
    cases hs with
    | thrown here may leads => exact ⟨_, h.thrown here may leads⟩
    | done here normal leads => exact ⟨_, h.done here normal leads⟩

/-- An instruction is completed at most once on each path, and exactly once on those that reach a
return. -/
structure CompletesOnce (pool : ConstantPool) (hooks : Hooks) (flow : Flow) (call : Nat) : Prop where
  atMost : ∀ s count, flow.Completes pool hooks call s count → count ≤ 1
  returns : ∀ s count, flow.Completes pool hooks call s count →
    ∀ insn, flow.instructions[s.label]? = some insn → insn.opcode.isReturn = true → count = 1

/-- How a constructor is traced whose object is initialized at the label `call`, of which `place` is
the new place. -/
structure EnteredBehind (pool : ConstantPool) (hooks : Hooks) (old new : Flow)
    (call place : Nat) : Prop where
  /-- Nothing calls the begin hook before the call has been completed. -/
  begins : ∀ s, new.Completes pool hooks place s 0 → s.begun = 0 ∧
    ∀ insn, new.instructions[s.label]? = some insn → callCount pool hooks.beginHook insn = 0
  returns : ∀ s, new.Reaches pool hooks s → ∀ insn, new.instructions[s.label]? = some insn →
    insn.opcode.isReturn = true → s.begun = 1 ∧ s.ended = 1
  /-- The hook calls of all exceptions that escape after begin pair just if nothing from which an
  exception escapes after the call is laid out before it. -/
  escapes : (∀ s, new.Reaches pool hooks s → ∀ insn, new.instructions[s.label]? = some insn →
      MayThrow pool hooks insn → new.Leads s.label .escaped none → 0 < s.begun →
        s.begun = s.ended) ↔
    ∀ s, old.Completes pool hooks call s 1 → ∀ insn, old.instructions[s.label]? = some insn →
      MayThrow pool hooks insn → old.Leads s.label .escaped none → call < s.label
  /-- The added handlers cover nothing that can be executed before the call just if nothing of it is
  laid out behind the call. -/
  covers : (∀ s, new.Completes pool hooks place s 0 → s.label < new.instructions.size →
      ∀ handler ∈ new.handlers.drop old.handlers.length, handler.covers s.label = false) ↔
    ∀ s, old.Completes pool hooks call s 0 → s.label < old.instructions.size → s.label ≤ call

end Flow

/-- The markers of a constructor whose object is initialized at a label. -/
abbrev markersBehind (indices : HookIndices) (call : Nat) (tag : UInt16) : Markers :=
  TracedBody.markers indices (call + 1) tag

/-- A constructor without hook calls of its own that is traced from a call on. -/
structure TracedBehind (pool : ConstantPool) (hooks : Hooks) (indices : HookIndices) (tag : UInt16)
    (call : Nat) (old new : Flow) (ranges : List (Label × Label)) : Prop where
  traced : Traced (markersBehind indices call tag) old new ranges
  resolve : indices.Resolve pool hooks
  silent : CallsNoHooks pool hooks old.instructions
  calls : ∃ insn, old.instructions[call]? = some insn ∧ insn.endsBlock = false ∧
    insn.targets = [] ∧ insn.opcode.isReturn = false

namespace TracedBehind

open Markers Weaving

variable {pool : ConstantPool} {hooks : Hooks} {indices : HookIndices} {tag : UInt16} {call : Nat}
  {old new : Flow} {ranges : List (Label × Label)} {s : HookState} {label place count : Nat}
  {insn : Instruction} {handler : Handler}


theorem opening_behind (h : label ≠ call + 1) :
    (markersBehind indices call tag).opening old.instructions label = 0 :=
  Markers.opening_of_ne h

theorem opening_anchor (h : call + 1 < old.instructions.size) :
    (markersBehind indices call tag).opening old.instructions (call + 1) = 2 :=
  @Markers.opening_anchor (markersBehind indices call tag) _ h

theorem lt_size_of_opening {i : Nat}
    (h : i < (markersBehind indices call tag).opening old.instructions (call + 1)) :
    call + 1 < old.instructions.size ∧ i < 2 := by
  unfold Markers.opening at h
  split at h
  · next hc => exact ⟨hc.2, h⟩
  · omega

/-- Control that goes on from a label comes to where control comes that jumps to the next one,
except behind the call. -/
theorem target_succ (h : label ≠ call) :
    (markersBehind indices call tag).target old.instructions (label + 1) =
      (markersBehind indices call tag).place old.instructions label + 1 := by
  rw [Markers.target, opening_behind (by omega), Markers.entry_succ]

theorem target_zero : (markersBehind indices call tag).target old.instructions 0 = 0 := by
  rw [Markers.target, opening_behind (by omega)]
  rfl

theorem place_eq_target (markers : Markers) (hc : closing old.instructions label = 0) :
    markers.place old.instructions label = markers.target old.instructions label := by
  rw [Markers.place, hc, Nat.add_zero]

/-- The prologue lies between the place of the call and what was behind it. -/
theorem overlies_prologue {i : Nat}
    (h : i < (markersBehind indices call tag).opening old.instructions (call + 1)) :
    Overlies (markersBehind indices call tag) old
      ((markersBehind indices call tag).entry old.instructions (call + 1) + i) call := by
  have between (label : Nat) : (markersBehind indices call tag).target old.instructions label ≤
      (markersBehind indices call tag).entry old.instructions (call + 1) + i ↔ label ≤ call := by
    constructor
    · intro hle
      by_contra hlt
      have ht : (markersBehind indices call tag).target old.instructions (call + 1) ≤
          (markersBehind indices call tag).target old.instructions label := by
        rcases Nat.eq_or_lt_of_le (by omega : call + 1 ≤ label) with rfl | lt
        · exact le_rfl
        · exact Nat.le_of_lt (Markers.target_lt_target _ _ lt)
      rw [Markers.target] at ht
      omega
    · intro hle
      have ht := (Markers.target_le_place_iff (markersBehind indices call tag)
        old.instructions).mpr hle
      have hs := Markers.entry_succ (markersBehind indices call tag) old.instructions call
      omega
  intro handler
  rw [Handler.covers_iff, Handler.covers_iff]
  change (markersBehind indices call tag).target old.instructions handler.start ≤ _ ∧
    _ < (markersBehind indices call tag).target old.instructions handler.stop ↔ _
  rw [between, ← Nat.not_le, ← Nat.not_le, between]

section Leads

variable {markers : Markers}

/-- What catches an exception at a place is what caught it at its label, or an added handler. -/
theorem leads_caught (h : Traced markers old new ranges) (ho : Overlies markers old place label)
    (hl : label < old.instructions.size) {index target : Nat}
    (leads : new.Leads place (.caught index) (some target)) :
    (∃ former, old.Leads label (.caught index) (some former) ∧ former ≤ old.instructions.size ∧
      target = markers.target old.instructions former) ∨
    target = markers.bodyEnd old.instructions ∧ InRanges ranges place := by
  cases leads with
  | @caught index handler inside passes found covers =>
  rcases Nat.lt_or_ge index old.handlers.length with lt | ge
  · obtain ⟨former, hf, rfl⟩ := h.former_of_handler found lt
    have caught := Flow.Leads.caught hl ((h.passes_overlying ho (Nat.le_of_lt lt)).mp passes) hf
      ((ho former).mp covers)
    exact .inl ⟨former.handler, caught, (h.handlers_le _ (List.mem_of_getElem? hf)).2.2, rfl⟩
  · rw [h.handlers, List.getElem?_append_right (by simpa using ge)] at found
    obtain ⟨range, hr, rfl⟩ := List.mem_map.mp (List.mem_of_getElem? found)
    exact .inr ⟨rfl, range, hr, Handler.covers_iff.mp covers⟩

/-- What caught an exception at a label catches it at a place of the label. -/
theorem caught_leads (h : Traced markers old new ranges) (ho : Overlies markers old place label)
    (hp : place < new.instructions.size) {index former : Nat}
    (leads : old.Leads label (.caught index) (some former)) :
    new.Leads place (.caught index) (some (markers.target old.instructions former)) := by
  cases leads with
  | @caught index handler inside passes found covers =>
  have hlt := (List.getElem?_eq_some_iff.mp found).1
  exact Flow.Leads.caught hp ((h.passes_overlying ho (Nat.le_of_lt hlt)).mpr passes)
    (h.handler_of_former found) ((ho handler).mpr covers)

/-- An exception escapes from a place just if it escaped from its label and no added handler covers
the place. -/
theorem leads_escaped_iff (h : Traced markers old new ranges) (ho : Overlies markers old place label)
    (hl : label < old.instructions.size) (hp : place < new.instructions.size) :
    new.Leads place .escaped none ↔ old.Leads label .escaped none ∧ ¬InRanges ranges place := by
  constructor
  · intro leads
    cases leads with
    | escaped _ passes =>
      constructor
      · refine .escaped hl ((h.passes_overlying ho le_rfl).mp fun j hj => passes j ?_)
        exact Nat.lt_of_lt_of_le hj h.handlers_length_le
      · intro hr
        obtain ⟨handler, hm, covers, all⟩ := h.exists_guard hr
        obtain ⟨j, hj, hget⟩ := List.getElem_of_mem hm
        exact passes j hj handler (List.getElem?_eq_some_iff.mpr ⟨hj, hget⟩) covers all
  · rintro ⟨leads, outside⟩
    cases leads with
    | escaped _ passes =>
      refine .escaped hp fun j hj handler found covers => ?_
      rcases Nat.lt_or_ge j old.handlers.length with lt | ge
      · exact (h.passes_overlying ho le_rfl).mpr passes j lt handler found covers
      · rw [h.handlers, List.getElem?_append_right (by simpa using ge)] at found
        obtain ⟨range, hr, rfl⟩ := List.mem_map.mp (List.mem_of_getElem? found)
        exact absurd ⟨range, hr, Handler.covers_iff.mp covers⟩ outside

end Leads

/-- The states in which the execution of a traced constructor can be, with the state of the former
constructor that each stands for, and with how often the call has been completed so far.

What throws in the prologue stands for the call that throws. Therefore the call has been completed
at least as often as the begin hook has. -/
inductive Follows (pool : ConstantPool) (hooks : Hooks) (markers : Markers) (call : Nat)
    (old new : Flow) : HookState → Nat → Prop
  | inside {label begun count : Nat}
      (h : old.Completes pool hooks call ⟨label, 0, 0⟩ begun) (hl : label < old.instructions.size)
      (le : begun ≤ count) :
      Follows pool hooks markers call old new
        ⟨markers.target old.instructions label, begun, 0⟩ count
  | opening {i begun count : Nat} (h : old.Completes pool hooks call ⟨call, 0, 0⟩ begun)
      (hi : i < markers.opening old.instructions (call + 1)) (lt : begun < count) :
      Follows pool hooks markers call old new
        ⟨markers.entry old.instructions (call + 1) + i, begun, 0⟩ count
  | returning {label begun count : Nat}
      (h : old.Completes pool hooks call ⟨label, 0, 0⟩ begun)
      (closing : Markers.closing old.instructions label = 1) (le : begun ≤ count) :
      Follows pool hooks markers call old new ⟨markers.place old.instructions label, begun, 1⟩ count
  | handling {label begun count : Nat}
      (h : old.Completes pool hooks call ⟨label, 0, 0⟩ begun) (le : begun ≤ count) :
      Follows pool hooks markers call old new ⟨markers.bodyEnd old.instructions, begun, 0⟩ count
  | rethrowing {label begun count : Nat}
      (h : old.Completes pool hooks call ⟨label, 0, 0⟩ begun) (le : begun ≤ count) :
      Follows pool hooks markers call old new
        ⟨markers.bodyEnd old.instructions + 1, begun, 1⟩ count
  /-- Where the code ends with the call, nothing is behind it. -/
  | stuck {place begun count : Nat} (none : new.instructions[place]? = none)
      (le : begun ≤ count) : Follows pool hooks markers call old new ⟨place, begun, 0⟩ count

theorem Follows.reached {begun count : Nat}
    (h : old.Completes pool hooks call ⟨label, 0, 0⟩ begun) (hl : label ≤ old.instructions.size)
    (le : begun ≤ count) {markers : Markers} : Follows pool hooks markers call old new
      ⟨markers.target old.instructions label, begun, 0⟩ count := by
  rcases Nat.eq_or_lt_of_le hl with rfl | lt
  · rw [target_size]
    exact .handling h le
  · exact .inside h lt le

theorem Follows.begun_le {markers : Markers}
    (hf : Follows pool hooks markers call old new s count) : s.begun ≤ count := by
  cases hf with
  | inside _ _ le => exact le
  | opening _ _ lt => exact Nat.le_of_lt lt
  | returning _ _ le => exact le
  | handling _ le => exact le
  | rethrowing _ le => exact le
  | stuck _ le => exact le

/-- The call may be completed more often. -/
theorem Follows.mono {markers : Markers} {more : Nat}
    (hf : Follows pool hooks markers call old new s count) (grows : count ≤ more) :
    Follows pool hooks markers call old new s more := by
  cases hf with
  | inside hs hl le => exact .inside hs hl (Nat.le_trans le grows)
  | opening hs hi lt => exact .opening hs hi (Nat.lt_of_lt_of_le lt grows)
  | returning hs hc le => exact .returning hs hc (Nat.le_trans le grows)
  | handling hs le => exact .handling hs (Nat.le_trans le grows)
  | rethrowing hs le => exact .rethrowing hs (Nat.le_trans le grows)
  | stuck none le => exact .stuck none (Nat.le_trans le grows)

/-- What stands where the execution of a traced constructor can be, with the state of the former
constructor that it stands for. -/
inductive Meets (pool : ConstantPool) (hooks : Hooks) (indices : HookIndices) (tag : UInt16)
    (call : Nat) (old : Flow) : HookState → Nat → Instruction → Prop
  | ordinary {label begun count : Nat} {former laid : Instruction}
      (h : old.Completes pool hooks call ⟨label, 0, 0⟩ begun)
      (here : old.instructions[label]? = some former) (stays : former.opcode.isReturn = false)
      (hw : (former.mapTargets ((markersBehind indices call tag).target old.instructions)).Widens
        laid) (le : begun ≤ count) : Meets pool hooks indices tag call old
          ⟨(markersBehind indices call tag).place old.instructions label, begun, 0⟩ count laid
  | endCall {label begun count : Nat} (h : old.Completes pool hooks call ⟨label, 0, 0⟩ begun)
      (closing : Markers.closing old.instructions label = 1) (le : begun ≤ count) :
      Meets pool hooks indices tag call old
        ⟨(markersBehind indices call tag).target old.instructions label, begun, 0⟩ count
        (.withIndex Opcode.invokestatic indices.endHook)
  | load {begun count : Nat} (h : old.Completes pool hooks call ⟨call, 0, 0⟩ begun)
      (inside : call + 1 < old.instructions.size) (lt : begun < count) :
      Meets pool hooks indices tag call old
        ⟨(markersBehind indices call tag).entry old.instructions (call + 1), begun, 0⟩ count
        (TracedBody.loadText tag)
  | beginCall {begun count : Nat} (h : old.Completes pool hooks call ⟨call, 0, 0⟩ begun)
      (inside : call + 1 < old.instructions.size) (lt : begun < count) :
      Meets pool hooks indices tag call old
        ⟨(markersBehind indices call tag).entry old.instructions (call + 1) + 1, begun, 0⟩ count
        (.withIndex Opcode.invokestatic indices.beginHook)
  | returns {label begun count : Nat} {former laid : Instruction}
      (h : old.Completes pool hooks call ⟨label, 0, 0⟩ begun)
      (here : old.instructions[label]? = some former) (returns : former.opcode.isReturn = true)
      (hw : (former.mapTargets ((markersBehind indices call tag).target old.instructions)).Widens
        laid) : Meets pool hooks indices tag call old
          ⟨(markersBehind indices call tag).place old.instructions label, begun, 1⟩ count laid
  | handlerCall {label begun count : Nat} (h : old.Completes pool hooks call ⟨label, 0, 0⟩ begun)
      (le : begun ≤ count) : Meets pool hooks indices tag call old
        ⟨(markersBehind indices call tag).bodyEnd old.instructions, begun, 0⟩ count
        (.withIndex Opcode.invokestatic indices.endHook)
  | rethrow {label begun count : Nat} (h : old.Completes pool hooks call ⟨label, 0, 0⟩ begun) :
      Meets pool hooks indices tag call old
        ⟨(markersBehind indices call tag).bodyEnd old.instructions + 1, begun, 1⟩ count
        (.plain Opcode.athrow [])

/-- Before the call has been completed, execution is at no guarded place. -/
theorem not_guarded
    (ordered : ∀ s, old.Completes pool hooks call s 0 → s.label < old.instructions.size →
      s.label ≤ call)
    (hf : Follows pool hooks (markersBehind indices call tag) call old new s 0)
    (inside : s.label < new.instructions.size) (hl : label < old.instructions.size)
    (hlt : call < label) (hc : closing old.instructions label = 0) :
    s.label ≠ (markersBehind indices call tag).place old.instructions label := by
  intro place
  cases hf with
  | @inside other begun _ hs ho le =>
    change (markersBehind indices call tag).target old.instructions other = _ at place
    have same : other = label := by
      have le := (target_le_place_iff (markersBehind indices call tag) old.instructions).mp
        (Nat.le_of_eq place)
      have ge := (target_le_place_iff (markersBehind indices call tag) old.instructions).mp
        (show (markersBehind indices call tag).target old.instructions label ≤
          (markersBehind indices call tag).place old.instructions other by
            have := target_le_place (markersBehind indices call tag) old.instructions other
            have := target_le_place (markersBehind indices call tag) old.instructions label
            omega)
      omega
    subst same
    exact absurd (ordered _ (Nat.le_zero.mp le ▸ hs) ho) (Nat.not_le.mpr hlt)
  | opening _ _ lt => exact absurd lt (Nat.not_lt_zero _)
  | @returning other begun _ hs closes le =>
    rw [place_injective place, hc] at closes
    cases closes
  | handling hs le =>
    have := @place_lt_bodyEnd (markersBehind indices call tag) _ _ hl
    change (markersBehind indices call tag).bodyEnd old.instructions = _ at place
    omega
  | rethrowing hs le =>
    have := @place_lt_bodyEnd (markersBehind indices call tag) _ _ hl
    change (markersBehind indices call tag).bodyEnd old.instructions + 1 = _ at place
    omega
  | stuck none le => exact absurd inside (Nat.not_lt.mpr (Array.getElem?_eq_none_iff.mp none))

section Steps

variable (h : TracedBehind pool hooks indices tag call old new ranges)
include h

/-- At the end of the body there is something only where the handler has been added. -/
theorem guarded_of_behind (hle : (markersBehind indices call tag).bodyEnd old.instructions ≤ place)
    (here : new.instructions[place]? = some insn) : ranges ≠ [] := by
  intro none
  have := (Array.getElem?_eq_some_iff.mp here).1
  rw [h.traced.bare none] at this
  omega

/-- Nothing is caught behind the body. -/
theorem not_caught_behind {index : Nat} {next : Option Nat}
    (hle : (markersBehind indices call tag).bodyEnd old.instructions ≤ place) :
    ¬new.Leads place (.caught index) next := by
  intro leads
  cases leads with
  | caught _ _ found covers =>
    have := (h.traced.covered (List.mem_of_getElem? found) covers).2
    omega

theorem meets (hf : Follows pool hooks (markersBehind indices call tag) call old new s count)
    (here : new.instructions[s.label]? = some insn) :
    Meets pool hooks indices tag call old s count insn := by
  cases hf with
  | @inside label begun count hs hl le =>
    rcases closing_cases old.instructions label with hc | hc
    · obtain ⟨former, laid, hi, hp, hw⟩ := h.traced.exists_original hl
      rw [← place_eq_target _ hc] at here ⊢
      cases here.symm.trans hp
      exact .ordinary hs hi (not_return_of_closing hi hc) hw le
    · cases here.symm.trans (h.traced.endCall label hl hc)
      exact .endCall hs hc le
  | @opening i begun count hs hi lt =>
    obtain ⟨inside, two⟩ := lt_size_of_opening hi
    have found := here.symm.trans (h.traced.prologue (call + 1) inside i hi)
    rcases (by omega : i = 0 ∨ i = 1) with rfl | rfl
    · cases found
      exact .load hs inside lt
    · cases found
      exact .beginCall hs inside lt
  | @returning label begun count hs hc le =>
    obtain ⟨former, hi, hr⟩ := closing_eq_one hc
    obtain ⟨laid, hp, hw⟩ := h.traced.original label former hi
    cases here.symm.trans hp
    exact .returns hs hi hr hw
  | handling hs le =>
    cases here.symm.trans (h.traced.guarded (h.guarded_of_behind le_rfl here)).2.1
    exact .handlerCall hs le
  | rethrowing hs le =>
    cases here.symm.trans (h.traced.guarded (h.guarded_of_behind (Nat.le_succ _) here)).2.2
    exact .rethrow hs
  | stuck none => cases here.symm.trans none

/-- What throws stands for an instruction of the former constructor that throws as well, or throws
an exception again. All that stands for another instruction than the call stands at its place. -/
theorem throws (hm : Meets pool hooks indices tag call old s count insn)
    (may : Flow.MayThrow pool hooks insn) :
    (s.ended = 0 ∧ ∃ label former, old.Completes pool hooks call ⟨label, 0, 0⟩ s.begun ∧
      old.instructions[label]? = some former ∧ Flow.MayThrow pool hooks former ∧
      Overlies (markersBehind indices call tag) old s.label label ∧
      (label = call ∨ s.label = (markersBehind indices call tag).place old.instructions label)) ∨
    s.ended = 1 ∧ (markersBehind indices call tag).bodyEnd old.instructions ≤ s.label ∧
      ∃ label, old.Completes pool hooks call ⟨label, 0, 0⟩ s.begun := by
  have throws {label : Nat} {former : Instruction} (hi : old.instructions[label]? = some former)
      (stays : former.opcode.isReturn = false) : Flow.MayThrow pool hooks former :=
    ⟨h.silent.ends _ (Array.mem_of_getElem? hi), stays⟩
  cases hm with
  | ordinary hs hi stays _ _ =>
    exact .inl ⟨rfl, _, _, hs, hi, throws hi stays, overlies_place _ _ _, .inr rfl⟩
  | endCall => exact absurd may h.resolve.endCall_not_throws
  | load hs inside _ =>
    obtain ⟨caller, hi, _, _, stays⟩ := h.calls
    have ho := @overlies_prologue indices tag call old 0 (by rw [opening_anchor inside]; omega)
    exact .inl ⟨rfl, _, _, hs, hi, throws hi stays, ho, .inl rfl⟩
  | beginCall hs inside _ =>
    obtain ⟨caller, hi, _, _, stays⟩ := h.calls
    have ho := @overlies_prologue indices tag call old 1 (by rw [opening_anchor inside]; omega)
    exact .inl ⟨rfl, _, _, hs, hi, throws hi stays, ho, .inl rfl⟩
  | returns _ _ returns hw =>
    rw [may.not_return hw] at returns
    cases returns
  | handlerCall => exact absurd may h.resolve.endCall_not_throws
  | rethrow hs => exact .inr ⟨rfl, Nat.le_succ _, _, hs⟩

/-- Execution stays in the states of the invariant. -/
theorem follows_thrown {index target : Nat}
    (hf : Follows pool hooks (markersBehind indices call tag) call old new s count)
    (here : new.instructions[s.label]? = some insn) (may : Flow.MayThrow pool hooks insn)
    (leads : new.Leads s.label (.caught index) (some target)) :
    Follows pool hooks (markersBehind indices call tag) call old new ⟨target, s.begun, s.ended⟩
      count := by
  rcases h.throws (h.meets hf here) may with
    ⟨none, label, former, hs, hi, throws, ho, _⟩ | ⟨_, behind, _⟩
  · rw [none]
    have hl := (Array.getElem?_eq_some_iff.mp hi).1
    rcases leads_caught h.traced ho hl leads with ⟨former, caught, hle, rfl⟩ | ⟨rfl, _⟩
    · exact .reached (hs.thrown hi throws caught) hle hf.begun_le
    · exact .handling hs hf.begun_le
  · exact absurd leads (h.not_caught_behind behind)

/-- From an old label, control goes on as before. -/
theorem completes_done {begun target : Nat} {former : Instruction} {exit : Exit}
    (hs : old.Completes pool hooks call ⟨label, 0, 0⟩ begun)
    (here : old.instructions[label]? = some former)
    (normal : exit = .next ∨ ∃ index, exit = .jump index)
    (leads : old.Leads label exit (some target)) : old.Completes pool hooks call ⟨target, 0, 0⟩
      (if label = call then begun + 1 else begun) := by
  have hm := Array.mem_of_getElem? here
  have next := hs.done here normal leads
  rwa [h.silent.begins _ hm, h.silent.ends _ hm] at next

/-- The call is left for what is laid out behind it. -/
theorem ne_call_of_jump {index : Nat} {next : Option Nat}
    (leads : old.Leads label (.jump index) next) : label ≠ call := by
  rintro rfl
  obtain ⟨caller, hcaller, _, plain, _⟩ := h.calls
  cases leads with
  | jump here goes =>
    cases here.symm.trans hcaller
    rw [plain] at goes
    cases goes

/-- Control that goes on from the call comes to the prologue, if there is anything behind the call. -/
theorem follows_call {begun : Nat} (hs : old.Completes pool hooks call ⟨call, 0, 0⟩ begun)
    (lt : begun < count) : Follows pool hooks (markersBehind indices call tag) call old new
      ⟨(markersBehind indices call tag).entry old.instructions (call + 1), begun, 0⟩ count := by
  obtain ⟨former, here, _⟩ := h.calls
  have hl := (Array.getElem?_eq_some_iff.mp here).1
  rcases Nat.eq_or_lt_of_le (Nat.succ_le_of_lt hl) with last | inside
  · -- The new code ends with the call as well, since there is nothing to protect behind it.
    have none : ranges = [] := by
      refine List.eq_nil_iff_forall_not_mem.mpr fun range hr => ?_
      obtain ⟨label, hlt, hle, _⟩ := (h.traced.inRanges range.1).mp
        ⟨range, hr, le_rfl, h.traced.proper range hr⟩
      change call + 1 ≤ label at hle
      omega
    refine .stuck (Array.getElem?_eq_none ?_) (Nat.le_of_lt lt)
    rw [h.traced.bare none, bodyEnd, ← last]
  · refine .opening hs (i := 0) ?_ lt
    rw [opening_anchor inside]
    omega

/-- Where control goes on from an old label or jumps, it comes to where it came before. -/
theorem follows_ordinary {begun target : Nat} {former : Instruction} {exit : Exit}
    (hs : old.Completes pool hooks call ⟨label, 0, 0⟩ begun)
    (hi : old.instructions[label]? = some former) (le : begun ≤ count)
    (normal : exit = .next ∨ ∃ index, exit = .jump index)
    (leads : new.Leads ((markersBehind indices call tag).place old.instructions label) exit
      (some target)) : Follows pool hooks (markersBehind indices call tag) call old new
        ⟨target, begun, 0⟩ (if label = call then count + 1 else count) := by
  have hl := (Array.getElem?_eq_some_iff.mp hi).1
  rcases normal with rfl | ⟨index, rfl⟩
  · obtain ⟨before, same⟩ := (h.traced.leads_next_iff hl).mp leads
    cases same
    by_cases eq : label = call
    · subst eq
      rw [if_pos rfl]
      exact h.follows_call hs (Nat.lt_succ_of_le le)
    · have next := h.completes_done hs hi (.inl rfl) before
      rw [if_neg eq] at next ⊢
      rw [Markers.entry_succ, ← target_succ eq]
      exact .reached next hl le
  · obtain ⟨former_target, inside, before, same⟩ := (h.traced.leads_jump_iff hl).mp leads
    cases same
    have next := h.completes_done hs hi (.inr ⟨index, rfl⟩) before
    rw [if_neg (h.ne_call_of_jump before)] at next ⊢
    exact .reached next inside le

theorem follows_done {target : Nat} {exit : Exit}
    (hf : Follows pool hooks (markersBehind indices call tag) call old new s count)
    (here : new.instructions[s.label]? = some insn)
    (normal : exit = .next ∨ ∃ index, exit = .jump index)
    (leads : new.Leads s.label exit (some target)) :
    Follows pool hooks (markersBehind indices call tag) call old new
      ⟨target, s.begun + callCount pool hooks.beginHook insn,
        s.ended + callCount pool hooks.endHook insn⟩
      (if s.label = (markersBehind indices call tag).place old.instructions call then count + 1
        else count) := by
  have grows : count ≤ if s.label = (markersBehind indices call tag).place old.instructions call
      then count + 1 else count := by
    split
    · omega
    · exact le_rfl
  cases h.meets hf here with
  | @ordinary label begun count former laid hs hi stays hw le =>
    obtain ⟨begins, ends⟩ := h.silent.laid hi hw
    have same : (markersBehind indices call tag).place old.instructions label =
        (markersBehind indices call tag).place old.instructions call ↔ label = call :=
      ⟨place_injective, fun eq => by rw [eq]⟩
    rw [begins, ends, if_congr same rfl rfl]
    exact h.follows_ordinary hs hi le normal leads
  | @endCall label begun count hs hc le =>
    obtain ⟨_, rfl⟩ := leads.goes_on normal here rfl
    have after : Follows pool hooks (markersBehind indices call tag) call old new _ _ :=
      .returning hs hc le
    rw [Markers.place, hc] at after
    rw [h.resolve.begins_endCall, h.resolve.ends_endCall]
    exact after.mono grows
  | @load begun count hs inside lt =>
    obtain ⟨_, rfl⟩ := leads.goes_on normal here (TracedBody.loadText_targets tag)
    have after : Follows pool hooks (markersBehind indices call tag) call old new _ _ :=
      .opening hs (i := 1) (by rw [opening_anchor inside]; omega) lt
    rw [callCount_loadText, callCount_loadText]
    exact after.mono grows
  | @beginCall begun count hs inside lt =>
    obtain ⟨_, rfl⟩ := leads.goes_on normal here rfl
    obtain ⟨caller, hcaller, goes, _⟩ := h.calls
    have completed := h.completes_done hs hcaller (.inl rfl) (.next hcaller goes)
    rw [if_pos rfl] at completed
    have after : Follows pool hooks (markersBehind indices call tag) call old new _ _ :=
      .inside completed inside (Nat.succ_le_of_lt lt)
    rw [Markers.target, opening_anchor inside] at after
    rw [h.resolve.begins_beginCall, h.resolve.ends_beginCall]
    exact after.mono grows
  | returns _ hi hr hw =>
    obtain ⟨ends, plain⟩ := h.traced.return_leaves hi hr hw
    rw [(leads.goes_on normal here plain).1] at ends
    cases ends
  | @handlerCall label begun count hs le =>
    obtain ⟨_, rfl⟩ := leads.goes_on normal here rfl
    have after : Follows pool hooks (markersBehind indices call tag) call old new _ _ :=
      .rethrowing hs le
    rw [h.resolve.begins_endCall, h.resolve.ends_endCall]
    exact after.mono grows
  | rethrow => cases (leads.goes_on normal here rfl).1

theorem follows (hc : new.Completes pool hooks
      ((markersBehind indices call tag).place old.instructions call) s count) :
    Follows pool hooks (markersBehind indices call tag) call old new s count := by
  induction hc with
  | start =>
    obtain ⟨caller, hcaller, _⟩ := h.calls
    have reached : Follows pool hooks (markersBehind indices call tag) call old new _ _ :=
      .inside (.start : old.Completes pool hooks call .start 0)
        (Nat.zero_lt_of_lt (Array.getElem?_eq_some_iff.mp hcaller).1) le_rfl
    rwa [target_zero] at reached
  | thrown _ here may leads ih => exact h.follows_thrown ih here may leads
  | done _ here normal leads ih => exact h.follows_done ih here normal leads

/-- What stands at an old label that is no return. -/
theorem exists_laid (here : old.instructions[label]? = some insn)
    (hr : insn.opcode.isReturn = false) :
    ∃ laid, new.instructions[(markersBehind indices call tag).place old.instructions label]? =
        some laid ∧ Flow.MayThrow pool hooks laid ∧ callCount pool hooks.beginHook laid = 0 := by
  obtain ⟨laid, hp, hw⟩ := h.traced.original label insn here
  obtain ⟨begins, ends⟩ := h.silent.laid here hw
  exact ⟨laid, hp, ⟨ends, by rw [hw.isReturn, Instruction.opcode_mapTargets, hr]⟩, begins⟩

/-- Behind the call, execution goes through the prologue. -/
theorem opens {begun : Nat} (inside : call + 1 < old.instructions.size)
    (hc : new.Completes pool hooks
      ((markersBehind indices call tag).place old.instructions call)
      ⟨(markersBehind indices call tag).entry old.instructions (call + 1), begun, 0⟩ count) :
    new.Completes pool hooks ((markersBehind indices call tag).place old.instructions call)
      ⟨(markersBehind indices call tag).target old.instructions (call + 1), begun + 1, 0⟩ count := by
  have two := @opening_anchor indices tag call old inside
  have stands (i : Nat) (hi : i < 2) := h.traced.prologue (call + 1) inside i (two ▸ hi)
  have load := stands 0 (by omega)
  have begins := stands 1 (by omega)
  have behind := Markers.entry_succ (markersBehind indices call tag) old.instructions call
  have loaded := hc.done load (.inl rfl) (.next load (TracedBody.loadText_endsBlock tag))
  rw [callCount_loadText, callCount_loadText, if_neg (by simp only; omega)] at loaded
  have begun' := loaded.done begins (.inl rfl) (.next begins rfl)
  rw [h.resolve.begins_beginCall, h.resolve.ends_beginCall,
    if_neg (by simp only; omega)] at begun'
  rw [Markers.target, two]
  exact begun'

theorem goes_on_not_return {target : Nat} {exit : Exit}
    (here : old.instructions[label]? = some insn)
    (normal : exit = .next ∨ ∃ index, exit = .jump index)
    (leads : old.Leads label exit (some target)) : insn.opcode.isReturn = false := by
  by_contra hr
  have hr : insn.opcode.isReturn = true := by simpa using hr
  obtain ⟨operands, plain⟩ := h.traced.returnsPlainly insn (Array.mem_of_getElem? here) hr
  obtain ⟨goes, _⟩ := leads.goes_on normal here (by rw [plain]; rfl)
  rw [plain] at goes
  simp [Instruction.endsBlock, hr] at goes

/-- Every execution of the constructor is there still, with the begin call behind each call that is
completed. -/
theorem completes_of_former (hs : old.Completes pool hooks call s count)
    (hl : s.label < old.instructions.size) : new.Completes pool hooks
      ((markersBehind indices call tag).place old.instructions call)
      ⟨(markersBehind indices call tag).target old.instructions s.label, count, 0⟩ count := by
  induction hs with
  | start =>
    change new.Completes _ _ _ ⟨(markersBehind indices call tag).target old.instructions 0, 0, 0⟩ 0
    rw [target_zero]
    exact .start
  | @thrown s count index target insn hs here may leads ih =>
    obtain ⟨laid, hp, throws, _⟩ := h.exists_laid here may.2
    have at_place := ih (Array.getElem?_eq_some_iff.mp here).1
    rw [← place_eq_target _ (closing_of_not_return here may.2)] at at_place
    exact at_place.thrown hp throws (caught_leads h.traced (overlies_place _ _ _)
      (Array.getElem?_eq_some_iff.mp hp).1 leads)
  | @done s count target insn exit hs here normal leads ih =>
    have hlt := (Array.getElem?_eq_some_iff.mp here).1
    have hr := h.goes_on_not_return here normal leads
    obtain ⟨laid, hp, throws, begins⟩ := h.exists_laid here hr
    have at_place := ih hlt
    rw [← place_eq_target _ (closing_of_not_return here hr)] at at_place
    have same : (markersBehind indices call tag).place old.instructions s.label =
        (markersBehind indices call tag).place old.instructions call ↔ s.label = call :=
      ⟨place_injective, fun eq => by rw [eq]⟩
    have after {target : Nat} (leads : new.Leads
        ((markersBehind indices call tag).place old.instructions s.label) exit (some target)) :
        new.Completes pool hooks ((markersBehind indices call tag).place old.instructions call)
          ⟨target, count, 0⟩ (if s.label = call then count + 1 else count) := by
      have after := at_place.done hp normal leads
      rwa [begins, throws.1, if_congr same rfl rfl] at after
    rcases normal with rfl | ⟨index, rfl⟩
    · cases leads with
      | next found goes =>
        -- Only what goes on from the call comes to the prologue first.
        have went := after ((h.traced.leads_next_iff hlt).mpr ⟨.next found goes, rfl⟩)
        dsimp only at hl ⊢
        by_cases eq : s.label = call
        · rw [if_pos eq, eq] at went ⊢
          exact h.opens (eq ▸ hl) went
        · rw [if_neg eq, Markers.entry_succ, ← target_succ eq] at went
          rwa [if_neg eq]
    · have went := after ((h.traced.leads_jump_iff hlt).mpr ⟨target, Nat.le_of_lt hl, leads, rfl⟩)
      rw [if_neg (h.ne_call_of_jump leads)] at went ⊢
      exact went

/-- Before the call has been completed, execution is at no begin call. -/
theorem begins_not (hm : Meets pool hooks indices tag call old s 0 insn) :
    callCount pool hooks.beginHook insn = 0 := by
  cases hm with
  | ordinary _ hi _ hw _ => exact (h.silent.laid hi hw).1
  | endCall => exact h.resolve.begins_endCall
  | load => exact callCount_loadText tag
  | beginCall _ _ lt => exact absurd lt (Nat.not_lt_zero _)
  | returns _ hi _ hw => exact (h.silent.laid hi hw).1
  | handlerCall => exact h.resolve.begins_endCall
  | rethrow => exact callCount_of_ne (by decide)

omit h in
/-- A return is met behind its end call, and with one begin call. -/
theorem Meets.returns_paired (once : old.CompletesOnce pool hooks call)
    (hm : Meets pool hooks indices tag call old s count insn)
    (hr : insn.opcode.isReturn = true) : s.begun = 1 ∧ s.ended = 1 := by
  cases hm with
  | ordinary _ _ stays hw _ =>
    rw [hw.isReturn, Instruction.opcode_mapTargets, stays] at hr
    cases hr
  | endCall => cases hr
  | load =>
    rw [TracedBody.loadText_not_return] at hr
    cases hr
  | beginCall => cases hr
  | returns hs hi returns _ => exact ⟨once.returns _ _ hs _ hi returns, rfl⟩
  | handlerCall => cases hr
  | rethrow => cases hr

/-- A place that stands for an old label is guarded if that is laid out behind the call. -/
theorem inRanges_iff (hl : label < old.instructions.size)
    (hc : closing old.instructions label = 0) :
    InRanges ranges ((markersBehind indices call tag).place old.instructions label) ↔
      call < label := by
  rw [h.traced.inRanges]
  constructor
  · rintro ⟨other, _, hle, _, he⟩
    rw [place_injective he]
    exact hle
  · intro hlt
    exact ⟨label, hl, hlt, hc, rfl⟩

/-- An exception that escapes behind the begin call escapes from the handler or from before the
call. -/
theorem escapes (once : old.CompletesOnce pool hooks call)
    (ordered : ∀ s, old.Completes pool hooks call s 1 → ∀ insn,
      old.instructions[s.label]? = some insn → Flow.MayThrow pool hooks insn →
        old.Leads s.label .escaped none → call < s.label)
    (hm : Meets pool hooks indices tag call old s count insn)
    (here : new.instructions[s.label]? = some insn) (may : Flow.MayThrow pool hooks insn)
    (leads : new.Leads s.label .escaped none) (hb : 0 < s.begun) : s.begun = s.ended := by
  have one {label : Nat} (hs : old.Completes pool hooks call ⟨label, 0, 0⟩ s.begun) :
      s.begun = 1 := Nat.le_antisymm (once.atMost _ _ hs) hb
  rcases h.throws hm may with
    ⟨_, label, former, hs, hi, throws, ho, place⟩ | ⟨ends, _, label, hs⟩
  · have hl := (Array.getElem?_eq_some_iff.mp hi).1
    obtain ⟨escaped, outside⟩ := (leads_escaped_iff h.traced ho hl
      (Array.getElem?_eq_some_iff.mp here).1).mp leads
    have behind := ordered _ (one hs ▸ hs) former hi throws escaped
    rcases place with rfl | place
    · exact absurd behind (Nat.lt_irrefl _)
    · rw [place, h.inRanges_iff hl (closing_of_not_return hi throws.2)] at outside
      exact absurd behind outside
  · rw [ends, one hs]

/-- The hook calls of a constructor that is traced from its constructor call on. -/
theorem enteredBehind (once : old.CompletesOnce pool hooks call) :
    Flow.EnteredBehind pool hooks old new call
      ((markersBehind indices call tag).place old.instructions call) := by
  refine { begins := ?_, returns := ?_, escapes := ⟨?_, ?_⟩, covers := ⟨?_, ?_⟩ }
  · intro s hs
    exact ⟨Nat.le_zero.mp (h.follows hs).begun_le, fun insn here =>
      h.begins_not (h.meets (h.follows hs) here)⟩
  · intro s hs insn here hr
    obtain ⟨count, hs⟩ := hs.exists_completes _
    exact (h.meets (h.follows hs) here).returns_paired once hr
  · intro paired s hs insn here may leads
    by_contra hlt
    -- What escapes from before the call is covered by no added handler, so it escapes still.
    have hl := (Array.getElem?_eq_some_iff.mp here).1
    obtain ⟨laid, hp, throws, _⟩ := h.exists_laid here may.2
    have hc := closing_of_not_return here may.2
    have there := (h.completes_of_former hs hl).reaches
    rw [← place_eq_target _ hc] at there
    have escaped := (leads_escaped_iff h.traced (overlies_place _ _ _) hl
      (Array.getElem?_eq_some_iff.mp hp).1).mpr ⟨leads, fun hr => hlt ((h.inRanges_iff hl hc).mp hr)⟩
    cases paired _ there laid hp throws escaped Nat.zero_lt_one
  · intro ordered s hs insn here may leads hb
    obtain ⟨count, hs⟩ := hs.exists_completes _
    exact h.escapes once ordered (h.meets (h.follows hs) here) here may leads hb
  · intro bare s hs hl
    by_contra hlt
    have here := Array.getElem?_eq_getElem hl
    -- A return would be met before the call has been completed.
    have hr : (old.instructions[s.label]).opcode.isReturn = false := by
      by_contra hr
      cases once.returns s 0 hs _ here (by simpa using hr)
    obtain ⟨laid, hp, _⟩ := h.exists_laid here hr
    have hc := closing_of_not_return here hr
    have there := h.completes_of_former hs hl
    rw [← place_eq_target _ hc] at there
    obtain ⟨range, hm, covers⟩ := (h.inRanges_iff hl hc).mpr (Nat.lt_of_not_le hlt)
    have free := bare _ there (Array.getElem?_eq_some_iff.mp hp).1 _
      (h.traced.mem_drop_handlers.mpr (List.mem_map_of_mem hm))
    rw [Handler.covers_iff.mpr covers] at free
    cases free
  · intro ordered s hs hl handler hm
    by_contra hcovers
    obtain ⟨range, hr, rfl⟩ := List.mem_map.mp (h.traced.mem_drop_handlers.mp hm)
    obtain ⟨label, hlt, hle, hc, place⟩ := (h.traced.inRanges _).mp
      ⟨range, hr, Handler.covers_iff.mp (by simpa using hcovers)⟩
    exact not_guarded ordered (h.follows hs) hl hlt hle hc place

end Steps

end TracedBehind

namespace Entry

variable {pool : ConstantPool} {instructions : Array Instruction}

/-- A call that the search finds calls a constructor. -/
theorem constructorCallFrom_eq_some {label pending call : Nat} {rest : List Instruction}
    (h : constructorCallFrom pool label pending rest = .ok (some call)) :
    ∃ i insn member, call = label + i ∧ rest[i]? = some insn ∧
      insn.opcode = Opcode.invokespecial ∧ callee pool insn = .ok member := by
  induction rest generalizing label pending with
  | nil => cases h
  | cons insn rest ih =>
    have later {pending : Nat}
        (h : constructorCallFrom pool (label + 1) pending rest = .ok (some call)) :
        ∃ i other member, call = label + i ∧ (insn :: rest)[i]? = some other ∧
          other.opcode = Opcode.invokespecial ∧ callee pool other = .ok member := by
      obtain ⟨i, other, member, hi, rest⟩ := ih h
      exact ⟨i + 1, other, member, by omega, rest⟩
    rw [constructorCallFrom.eq_def] at h
    dsimp only at h
    split at h
    · exact later h
    split at h
    · next calls =>
      split at h
      · cases h
      next member found =>
      split at h
      · exact later h
      cases pending with
      | zero =>
        cases h
        exact ⟨0, insn, member, rfl, rfl, calls, found⟩
      | succ pending => exact later h
    · exact later h

/-- Execution goes on from the constructor call that the search finds. -/
theorem constructorCall?_goes_on {call : Nat}
    (h : constructorCall? pool instructions = .ok (some call)) :
    ∃ insn, instructions[call]? = some insn ∧ insn.endsBlock = false ∧ insn.targets = [] ∧
      insn.opcode.isReturn = false := by
  obtain ⟨i, insn, member, rfl, here, opcode, found⟩ := constructorCallFrom_eq_some h
  refine ⟨insn, by simpa using here, ?_⟩
  cases insn with
  | plain _ operands =>
    cases opcode
    refine ⟨?_, rfl, rfl⟩
    unfold Instruction.endsBlock
    rfl
  | branch => cases found
  | tableSwitch => cases found
  | lookupSwitch => cases found

theorem anchor_constructor {name : String} {label : Label}
    (hn : name = MethodSignature.constructorName) (h : anchor pool name instructions = .ok label) :
    constructorCall? pool instructions = .ok none ∧ label = 0 ∨
      ∃ call, constructorCall? pool instructions = .ok (some call) ∧ label = call + 1 := by
  unfold anchor at h
  rw [if_neg (not_not.mpr hn)] at h
  obtain ⟨found, hf, h⟩ := Except.bind_eq_ok_iff.mp h
  cases found with
  | none => exact .inl ⟨hf, (Except.pure_eq_ok_iff.mp h).symm⟩
  | some call => exact .inr ⟨call, hf, (Except.pure_eq_ok_iff.mp h).symm⟩

end Entry

open Instrumented

section

variable {file : ClassFile} {selects : String → Bool} {hooks : Hooks} {pool : ConstantPool}
  {rewritten : List Rewritten} {r : Rewritten}

/-- A constructor is traced from behind the call that the search finds, or from its beginning. -/
theorem rewrite_constructor (h : rewrite file selects hooks = .ok (rewritten, pool))
    (hp : file.pool.Numbered) (hmem : r ∈ rewritten)
    (hname : r.selected.name = MethodSignature.constructorName) :
    ∃ old indices tag ranges, r.selected.flow = .ok old ∧
      old.instructions = r.selected.code.instructions ∧ indices.Resolve pool hooks ∧
      (Entry.constructorCall? pool old.instructions = .ok none ∧
          Traced (markersAtStart indices tag) old r.flow ranges ∨
        ∃ call, Entry.constructorCall? pool old.instructions = .ok (some call) ∧
          Traced (markersBehind indices call tag) old r.flow ranges) := by
  obtain ⟨selection, indices, hs, hext, hresolve, hall⟩ := rewrite_stories h
  obtain ⟨hbegin, hend⟩ := hresolve hp (List.ne_nil_of_mem hmem)
  obtain ⟨selected, hmem', rfl, ⟨story⟩⟩ := forall₂_exists_left hall hmem
  obtain ⟨ranges, traced⟩ := story.steps.exists_traced (selection_code hs _ hmem')
  rw [← story.flow_eq] at traced
  have hext := ((story.steps.start_extends_named.trans story.steps.named_extends_woven).trans
    story.steps.woven_extends_later).trans story.extends_pool
  refine ⟨_, indices, story.steps.tag, ranges,
    Except.map_eq_ok_iff.mpr ⟨_, story.steps.handlers_eq, rfl⟩, rfl, ⟨hbegin, hend⟩, ?_⟩
  rcases Entry.anchor_constructor hname story.steps.anchor_eq with ⟨hc, ha⟩ | ⟨call, hc, ha⟩
  · rw [ha] at traced
    exact .inl ⟨Entry.constructorCallFrom_extends hext hc, traced⟩
  · rw [ha] at traced
    exact .inr ⟨call, Entry.constructorCallFrom_extends hext hc, traced⟩

end

/-- Every traced constructor without hook calls of its own is entered behind the call that the
search for the constructor call finds, or at its beginning if that finds none. -/
theorem instrument_entersConstructors {file : ClassFile} {selects : String → Bool} {hooks : Hooks}
    {result : Instrumented} (h : instrument file selects hooks = .ok (some result))
    (hp : file.pool.Numbered) :
    ∃ rewritten, rewrite file selects hooks = .ok (rewritten, result.file.pool) ∧
      result.file.methods = rewritten.foldl replaceBody file.methods ∧
      ∀ r ∈ rewritten, r.selected.name = MethodSignature.constructorName →
        CallsNoHooks result.file.pool hooks r.selected.code.instructions →
        ∃ old found, r.selected.flow = .ok old ∧
          Entry.constructorCall? result.file.pool old.instructions = .ok found ∧
          (found = none → r.flow.Balanced result.file.pool hooks) ∧
          ∀ call, found = some call → old.CompletesOnce result.file.pool hooks call →
            ∃ indices tag, Flow.EnteredBehind result.file.pool hooks old r.flow call
              ((markersBehind indices call tag).place old.instructions call) := by
  obtain ⟨rewritten, hr, _, hm⟩ := instrument_eq_some h
  refine ⟨rewritten, hr, hm, fun r hmem hname hn => ?_⟩
  obtain ⟨old, indices, tag, ranges, ho, code, resolve, found⟩ :=
    rewrite_constructor hr hp hmem hname
  rw [← code] at hn
  rcases found with ⟨hc, traced⟩ | ⟨call, hc, traced⟩
  · exact ⟨old, none, ho, hc, fun _ => traced.balanced resolve hn,
      fun _ same => absurd same (by simp)⟩
  · refine ⟨old, some call, ho, hc, fun none => absurd none (by simp), ?_⟩
    intro other same once
    cases same
    have behind : TracedBehind result.file.pool hooks indices tag call old r.flow ranges :=
      ⟨traced, resolve, hn, Entry.constructorCall?_goes_on hc⟩
    exact ⟨indices, tag, behind.enteredBehind once⟩

/-- A flow that is executed from the first instruction to the last one. -/
structure Flow.Straight (flow : Flow) : Prop where
  handlers : flow.handlers = []
  targets : ∀ insn ∈ flow.instructions, insn.targets = []

namespace Flow.Straight

variable {pool : ConstantPool} {hooks : Hooks} {flow : Flow} {call : Nat} (h : flow.Straight)
include h

/-- Straight on, an instruction has been completed once wherever execution is behind it. -/
theorem count_eq {s : HookState} {count : Nat} (hs : flow.Completes pool hooks call s count) :
    count = if call < s.label then 1 else 0 := by
  induction hs with
  | start => rfl
  | thrown _ _ _ leads =>
    cases leads with
    | caught _ _ found =>
      rw [h.handlers] at found
      cases found
  | @done s count target insn exit _ here normal leads ih =>
    obtain ⟨_, rfl⟩ := leads.goes_on normal here (h.targets _ (Array.mem_of_getElem? here))
    rw [ih]
    simp only
    split_ifs <;> omega

theorem completesOnce (behind : ∀ (label : Nat) insn, flow.instructions[label]? = some insn →
    insn.opcode.isReturn = true → call < label) : flow.CompletesOnce pool hooks call := by
  constructor
  · intro s count hs
    rw [h.count_eq hs]
    split <;> omega
  · intro s count hs insn here hr
    rw [h.count_eq hs, if_pos (behind _ insn here hr)]

end Flow.Straight

/-- Whether a flow is executed from the first instruction to the last one, and returns only behind
a label. -/
def Flow.isStraight (flow : Flow) (call : Nat) : Bool :=
  flow.handlers.isEmpty && flow.instructions.all (·.targets.isEmpty) &&
    (flow.instructions.toList.take (call + 1)).all fun insn => !insn.opcode.isReturn

theorem Flow.completesOnce_of_isStraight {pool : ConstantPool} {hooks : Hooks} {flow : Flow}
    {call : Nat} (h : flow.isStraight call = true) : flow.CompletesOnce pool hooks call := by
  simp only [isStraight, Bool.and_eq_true, List.isEmpty_iff, Array.all_eq_true_iff_forall_mem,
    List.all_eq_true, Bool.not_eq_true'] at h
  obtain ⟨⟨handlers, targets⟩, returns⟩ := h
  refine Straight.completesOnce ⟨handlers, targets⟩ fun label insn here hr => ?_
  by_contra hle
  have before : insn ∈ flow.instructions.toList.take (call + 1) := by
    refine List.mem_of_getElem? (i := label) ?_
    rw [List.getElem?_take_of_lt (by omega), Array.getElem?_toList, here]
  rw [returns insn before] at hr
  cases hr

/-- Whether instructions make no hook calls. -/
def isSilent (pool : ConstantPool) (hooks : Hooks) (instructions : Array Instruction) : Bool :=
  instructions.all fun insn =>
    callCount pool hooks.beginHook insn == 0 && callCount pool hooks.endHook insn == 0

theorem callsNoHooks_of_isSilent {pool : ConstantPool} {hooks : Hooks}
    {instructions : Array Instruction} (h : isSilent pool hooks instructions = true) :
    CallsNoHooks pool hooks instructions := by
  simp only [isSilent, Array.all_eq_true_iff_forall_mem, Bool.and_eq_true, beq_iff_eq] at h
  exact ⟨fun insn hi => (h insn hi).1, fun insn hi => (h insn hi).2⟩

/-- A class with a constructor of some code, which may name its own class with the constant 2 and
the constructor of the superclass with the constant 8. -/
def constructedClass (code : Bytes) : ClassFile where
  minorVersion := 0
  majorVersion := 49
  pool := ⟨#[.unusable, .utf8 [65], .classRef 1, .utf8 (Bytes.ofString "java/lang/Object"),
    .classRef 3, .utf8 (Bytes.ofString "<init>"), .utf8 [40, 41, 86], .nameAndType 5 6,
    .methodref 4 7, .utf8 [67, 111, 100, 101]]⟩
  access := 1
  thisClass := 2
  superClass := 4
  interfaces := []
  fields := []
  methods := [⟨1, 5, 6, [⟨9, [0, 2, 0, 1] ++ Bytes.bigEndian 4 code.length ++ code
    ++ [0, 0, 0, 0]⟩]⟩]
  attributes := []

/-- A constructor that does nothing but to call that of the superclass. -/
def plainConstructor : ClassFile :=
  constructedClass [0x2a, 0xb7, 0, 8, 0xb1]

/-- A constructor that creates another object first, of which it calls no constructor. -/
def distractedConstructor : ClassFile :=
  constructedClass [0xbb, 0, 2, 0x57, 0x2a, 0xb7, 0, 8, 0xb1]

/-- Whether all methods that are rewritten are straight constructors without hook calls in which a
call is found. -/
def findsConstructorCall (file : ClassFile) (call : Nat) : Bool :=
  match rewrite file (fun _ => true) {} with
  | .ok (rewritten, pool) => !rewritten.isEmpty && rewritten.all fun r =>
      r.selected.name == MethodSignature.constructorName &&
        isSilent pool {} r.selected.code.instructions &&
        match r.selected.flow with
        | .ok old => old.isStraight call &&
            (Entry.constructorCall? pool old.instructions).toOption == some (some call)
        | .error _ => false
  | .error _ => false

theorem instrument_entersConstructors_plainConstructor :
    ∃ result, instrument plainConstructor (fun _ => true) {} = .ok (some result) ∧
      plainConstructor.pool.Numbered ∧ ∃ rewritten,
        rewrite plainConstructor (fun _ => true) {} = .ok (rewritten, result.file.pool) ∧
        rewritten ≠ [] ∧ ∀ r ∈ rewritten, ∃ old place, r.selected.flow = .ok old ∧
          old.CompletesOnce result.file.pool {} 1 ∧
          Flow.EnteredBehind result.file.pool {} old r.flow 1 place := by
  have finds : findsConstructorCall plainConstructor 1 = true := by cbv
  unfold findsConstructorCall at finds
  split at finds
  · next rewritten pool hr =>
    obtain ⟨hne, hall⟩ := Bool.and_eq_true_iff.mp finds
    have hnil : rewritten.isEmpty = false := by simpa using hne
    obtain ⟨result, h⟩ := instrument_of_rewrite hr hnil
    have numbered : plainConstructor.pool.Numbered := by decide
    obtain ⟨found, hf, _, enters⟩ := instrument_entersConstructors h numbered
    cases hr.symm.trans hf
    refine ⟨result, h, numbered, rewritten, hr, by simpa using hnil, fun r hmem => ?_⟩
    have here := List.all_eq_true.mp hall r hmem
    obtain ⟨named, here⟩ := Bool.and_eq_true_iff.mp here
    obtain ⟨named, silent⟩ := Bool.and_eq_true_iff.mp named
    split at here
    · next old ho =>
      obtain ⟨straight, call⟩ := Bool.and_eq_true_iff.mp here
      obtain ⟨old', found, ho', hfound, _, behind⟩ :=
        enters r hmem (by simpa using named) (callsNoHooks_of_isSilent silent)
      cases ho.symm.trans ho'
      rw [hfound] at call
      have once : old.CompletesOnce result.file.pool {} 1 :=
        Flow.completesOnce_of_isStraight straight
      obtain ⟨indices, tag, entered⟩ := behind 1 (by simpa [Except.toOption] using call) once
      exact ⟨old, _, ho, once, entered⟩
    · cases here
  · cases finds

/-- Whether a constructor without arguments is called right behind the instruction that loads the
object of the method. -/
def Flow.callsOnThis (pool : ConstantPool) (flow : Flow) (call : Nat) : Bool :=
  flow.instructions[call - 1]? == some (.plain 0x2a []) &&
    flow.instructions[call]?.any fun insn => insn.opcode == Opcode.invokespecial &&
      (Entry.callee pool insn).toOption.any fun member =>
        member.name == MethodSignature.constructorName && member.descriptor == "()V"

/-- Whether the first method that is rewritten is a straight constructor without hook calls that
calls a constructor on its object at a label, where the search finds no call. -/
def overlooksCall (file : ClassFile) (call : Nat) : Bool :=
  match rewrite file (fun _ => true) {} with
  | .ok (r :: _, pool) =>
    r.selected.name == MethodSignature.constructorName &&
      isSilent pool {} r.selected.code.instructions &&
      r.selected.flow.toOption.any fun old => old.isStraight call && old.callsOnThis pool call &&
        (Entry.constructorCall? pool old.instructions).toOption == some none
  | _ => false

/-- A constructor in whose beginning no call is found calls the begin hook first. -/
theorem Traced.begins_first {pool : ConstantPool} {hooks : Hooks} {indices : HookIndices}
    {tag : UInt16} {old new : Flow} {ranges : List (Label × Label)}
    (h : Traced (markersAtStart indices tag) old new ranges) (hr : indices.Resolve pool hooks)
    (hz : 0 < old.instructions.size) {place : Nat} (hp : place ≠ 0) :
    ∃ s insn, new.Completes pool hooks place s 0 ∧ new.instructions[s.label]? = some insn ∧
      callCount pool hooks.beginHook insn = 1 := by
  have two := @opening_start indices tag old hz
  have load : new.instructions[0]? = some (TracedBody.loadText tag) :=
    h.prologue 0 hz 0 (by omega)
  have begins : new.instructions[1]? = some (.withIndex Opcode.invokestatic indices.beginHook) :=
    h.prologue 0 hz 1 (by omega)
  have loaded := (Flow.Completes.start : new.Completes pool hooks place .start 0).done load
    (.inl rfl) (.next load (TracedBody.loadText_endsBlock tag))
  rw [if_neg (show HookState.start.label ≠ place from Ne.symm hp)] at loaded
  exact ⟨_, _, loaded, begins, hr.begins_beginCall⟩

/-- A constructor may call the begin hook before it calls the constructor of the superclass. -/
theorem not_instrument_entersConstructors :
    ¬∀ (file : ClassFile) (selects : String → Bool) (hooks : Hooks) (result : Instrumented)
      (rewritten : List Rewritten), instrument file selects hooks = .ok (some result) →
      file.pool.Numbered → rewrite file selects hooks = .ok (rewritten, result.file.pool) →
      ∀ r ∈ rewritten, r.selected.name = MethodSignature.constructorName →
        CallsNoHooks result.file.pool hooks r.selected.code.instructions →
        ∀ old call, r.selected.flow = .ok old → old.callsOnThis result.file.pool call = true →
          old.CompletesOnce result.file.pool hooks call →
          ∃ place : Nat, r.flow.instructions[place]? = old.instructions[call]? ∧
            ∀ s, r.flow.Completes result.file.pool hooks place s 0 → ∀ insn,
              r.flow.instructions[s.label]? = some insn →
                callCount result.file.pool hooks.beginHook insn = 0 := by
  intro claim
  have overlooks : overlooksCall distractedConstructor 3 = true := by cbv
  unfold overlooksCall at overlooks
  split at overlooks
  · next r rewritten pool hr =>
    simp only [Bool.and_eq_true, Option.any_eq_true, beq_iff_eq] at overlooks
    obtain ⟨⟨named, silent⟩, old, ho, ⟨straight, this⟩, none⟩ := overlooks
    obtain ⟨result, h⟩ := instrument_of_rewrite hr rfl
    obtain ⟨found, hf, _, _⟩ := instrument_eq_some h
    cases hr.symm.trans hf
    have numbered : distractedConstructor.pool.Numbered := by decide
    obtain ⟨old', indices, tag, ranges, ho', _, resolve, entry⟩ :=
      rewrite_constructor hr numbered List.mem_cons_self named
    rw [ho'] at ho
    cases ho
    rcases entry with ⟨_, traced⟩ | ⟨call, found, _⟩
    · obtain ⟨place, same, quiet⟩ := claim _ _ _ result _ h numbered hr r List.mem_cons_self named
        (callsNoHooks_of_isSilent silent) old 3 ho' this
        (Flow.completesOnce_of_isStraight straight)
      simp only [Flow.callsOnThis, Bool.and_eq_true, Option.any_eq_true, beq_iff_eq] at this
      obtain ⟨_, caller, there, special, _⟩ := this
      have inside : 0 < old.instructions.size :=
        Nat.zero_lt_of_lt (Array.getElem?_eq_some_iff.mp there).1
      have elsewhere : place ≠ 0 := by
        rintro rfl
        have load : r.flow.instructions[0]? = some (TracedBody.loadText tag) :=
          traced.prologue 0 inside 0 (by rw [opening_start inside]; omega)
        rw [there, load] at same
        cases same
        exact ((TracedBody.markers_idle indices 0 tag).prologue _ List.mem_cons_self).2 special
      obtain ⟨s, insn, hs, here, calls⟩ := traced.begins_first resolve inside elsewhere
      rw [quiet s hs insn here] at calls
      cases calls
    · rw [found] at none
      cases none
  · cases overlooks

end MethodTrace
