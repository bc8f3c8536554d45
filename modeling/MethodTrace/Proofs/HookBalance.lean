import MethodTrace.Proofs.FlowPaths
import MethodTrace.Proofs.Rewriting

/-!
The balance of hook calls in traced methods.

A state of an execution is a label with the numbers of hook calls so far. `Pending` is the invariant
that ties each place of a traced method to these numbers.
-/

namespace MethodTrace

/-- A place in an execution, and how often the hooks have been called on the way to it. -/
structure HookState where
  label : Nat
  begun : Nat
  ended : Nat

namespace HookState

/-- The state in which a method is entered. -/
def start : HookState := ⟨0, 0, 0⟩

end HookState

/-- How many calls of a method an instruction makes. -/
def callCount (pool : ConstantPool) (method : MemberRef) (insn : Instruction) : Nat :=
  match Entry.callsMethod pool method insn with
  | .ok true => 1
  | _ => 0

namespace Flow

/-- Whether an instruction may throw: all but returns and calls of the end hook. -/
def MayThrow (pool : ConstantPool) (hooks : Hooks) (insn : Instruction) : Prop :=
  callCount pool hooks.endHook insn = 0 ∧ insn.opcode.isReturn = false

/-- One step of an execution. What throws has no effect before. -/
inductive HookStep (pool : ConstantPool) (hooks : Hooks) (flow : Flow) :
    HookState → HookState → Prop
  | thrown {label begun ended index target : Nat} {insn : Instruction}
      (here : flow.instructions[label]? = some insn) (may : MayThrow pool hooks insn)
      (leads : flow.Leads label (.caught index) (some target)) :
      HookStep pool hooks flow ⟨label, begun, ended⟩ ⟨target, begun, ended⟩
  | done {label begun ended target : Nat} {insn : Instruction} {exit : Exit}
      (here : flow.instructions[label]? = some insn)
      (normal : exit = .next ∨ ∃ index, exit = .jump index)
      (leads : flow.Leads label exit (some target)) :
      HookStep pool hooks flow ⟨label, begun, ended⟩
        ⟨target, begun + callCount pool hooks.beginHook insn,
          ended + callCount pool hooks.endHook insn⟩

/-- The states that an execution can reach. -/
inductive Reaches (pool : ConstantPool) (hooks : Hooks) (flow : Flow) : HookState → Prop
  | start : Reaches pool hooks flow .start
  | step {s t : HookState} (h : Reaches pool hooks flow s) (hs : HookStep pool hooks flow s t) :
      Reaches pool hooks flow t

/-- Hook calls that pair on every path. -/
structure Balanced (pool : ConstantPool) (hooks : Hooks) (flow : Flow) : Prop where
  begins : ∀ s, Reaches pool hooks flow s → s.begun ≤ 1
  ends : ∀ s, Reaches pool hooks flow s → ∀ insn, flow.instructions[s.label]? = some insn →
    callCount pool hooks.endHook insn ≠ 0 → s.begun = 1 ∧ s.ended = 0
  returns : ∀ s, Reaches pool hooks flow s → ∀ insn, flow.instructions[s.label]? = some insn →
    insn.opcode.isReturn = true → s.begun = 1 ∧ s.ended = 1
  escapes : ∀ s, Reaches pool hooks flow s → ∀ insn, flow.instructions[s.label]? = some insn →
    MayThrow pool hooks insn → flow.Leads s.label .escaped none → s.begun = s.ended

end Flow

section Calls

variable {pool : ConstantPool} {method : MemberRef} {insn : Instruction}

theorem callCount_of_ne (h : insn.opcode ≠ Opcode.invokestatic) : callCount pool method insn = 0 := by
  simp [callCount, Entry.callsMethod, h, pure, Except.pure]

theorem callCount_of_none (h : insn.indexOperand? = none) : callCount pool method insn = 0 := by
  unfold callCount Entry.callsMethod
  rw [h]
  split
  · next hc =>
    split at hc
    · cases hc
    · cases hc
  · rfl

theorem callCount_call {index : UInt16} {callee : MemberRef}
    (h : pool.memberRef index = .ok callee) :
    callCount pool method (.withIndex Opcode.invokestatic index) =
      if callee = method then 1 else 0 := by
  have hop : (Instruction.withIndex Opcode.invokestatic index).opcode = Opcode.invokestatic := rfl
  unfold callCount Entry.callsMethod
  rw [if_pos hop, Instruction.indexOperand?_withIndex]
  dsimp only
  rw [h]
  by_cases hc : callee = method
  · subst hc
    simp [bind, Except.bind, pure, Except.pure]
  · simp [bind, Except.bind, pure, Except.pure, hc]

theorem callCount_loadText (tag : UInt16) :
    callCount pool method (TracedBody.loadText tag) = 0 := by
  obtain ⟨opcode, operands, load, rfl | rfl⟩ := TracedBody.loadText_cases tag
  · rw [load]
    exact callCount_of_ne (show Opcode.ldc ≠ Opcode.invokestatic by decide)
  · rw [load]
    exact callCount_of_ne (show Opcode.ldcW ≠ Opcode.invokestatic by decide)

/-- Neither relocation nor layout makes or removes a call. -/
theorem callCount_widens {f : Label → Label} {laid : Instruction}
    (h : (insn.mapTargets f).Widens laid) :
    callCount pool method laid = callCount pool method insn := by
  cases insn with
  | plain opcode operands => rw [h.eq_of_plain]
  | branch opcode target =>
    have hz : callCount pool method (.branch opcode target) = 0 := callCount_of_none rfl
    rw [hz]
    cases h with
    | same => exact callCount_of_none rfl
    | jump => exact callCount_of_none rfl
  | tableSwitch fallback low all =>
    have hz : callCount pool method (.tableSwitch fallback low all) = 0 := callCount_of_none rfl
    rw [hz]
    cases h with
    | same => exact callCount_of_none rfl
  | lookupSwitch fallback pairs =>
    have hz : callCount pool method (.lookupSwitch fallback pairs) = 0 := callCount_of_none rfl
    rw [hz]
    cases h with
    | same => exact callCount_of_none rfl

end Calls

/-- Instructions none of which calls a hook. -/
structure CallsNoHooks (pool : ConstantPool) (hooks : Hooks) (instructions : Array Instruction) :
    Prop where
  begins : ∀ insn ∈ instructions, callCount pool hooks.beginHook insn = 0
  ends : ∀ insn ∈ instructions, callCount pool hooks.endHook insn = 0

/-- The constants of the hooks, as a pool resolves them. -/
structure HookIndices.Resolve (indices : HookIndices) (pool : ConstantPool) (hooks : Hooks) :
    Prop where
  beginHook : pool.memberRef indices.beginHook = .ok hooks.beginHook
  endHook : pool.memberRef indices.endHook = .ok hooks.endHook

section Pending

variable {pool : ConstantPool} {hooks : Hooks} {indices : HookIndices} {tag : UInt16}
  {old new : Flow} {ranges : List (Label × Label)} {s t : HookState} {insn : Instruction}

theorem Hooks.beginHook_ne_endHook (hooks : Hooks) : hooks.beginHook ≠ hooks.endHook := by
  intro h
  have := congrArg MemberRef.descriptor h
  revert this
  simp [beginHook, endHook]

section Hooks

variable (hr : indices.Resolve pool hooks)
include hr

theorem HookIndices.Resolve.begins_beginCall :
    callCount pool hooks.beginHook (.withIndex Opcode.invokestatic indices.beginHook) = 1 := by
  rw [callCount_call hr.beginHook, if_pos rfl]

theorem HookIndices.Resolve.ends_beginCall :
    callCount pool hooks.endHook (.withIndex Opcode.invokestatic indices.beginHook) = 0 := by
  rw [callCount_call hr.beginHook, if_neg hooks.beginHook_ne_endHook]

theorem HookIndices.Resolve.begins_endCall :
    callCount pool hooks.beginHook (.withIndex Opcode.invokestatic indices.endHook) = 0 := by
  rw [callCount_call hr.endHook, if_neg hooks.beginHook_ne_endHook.symm]

theorem HookIndices.Resolve.ends_endCall :
    callCount pool hooks.endHook (.withIndex Opcode.invokestatic indices.endHook) = 1 := by
  rw [callCount_call hr.endHook, if_pos rfl]

/-- An end call throws nothing. -/
theorem HookIndices.Resolve.endCall_not_throws :
    ¬Flow.MayThrow pool hooks (.withIndex Opcode.invokestatic indices.endHook) := by
  intro may
  have none := may.1
  rw [hr.ends_endCall] at none
  cases none

end Hooks

/-- An instruction without hook calls is laid out as one without hook calls. -/
theorem CallsNoHooks.laid {f : Label → Label} {laid : Instruction} {label : Nat}
    (hn : CallsNoHooks pool hooks old.instructions) (hi : old.instructions[label]? = some insn)
    (hw : (insn.mapTargets f).Widens laid) :
    callCount pool hooks.beginHook laid = 0 ∧ callCount pool hooks.endHook laid = 0 := by
  have hm := Array.mem_of_getElem? hi
  rw [callCount_widens hw, callCount_widens hw]
  exact ⟨hn.begins _ hm, hn.ends _ hm⟩

/-- A return throws nothing, wherever it is laid out. -/
theorem Flow.MayThrow.not_return {f : Label → Label} {laid : Instruction}
    (may : MayThrow pool hooks laid) (hw : (insn.mapTargets f).Widens laid) :
    insn.opcode.isReturn = false := by
  rw [← Instruction.opcode_mapTargets f, ← hw.isReturn]
  exact may.2

/-- The markers of a method that is entered at its beginning. -/
abbrev markersAtStart (indices : HookIndices) (tag : UInt16) : Markers :=
  TracedBody.markers indices 0 tag

/-- The states in which the execution of a traced method can be: before the begin call, in the
body, before a return, and behind the end call of the added handler. -/
inductive Pending (markers : Markers) (old : Flow) : HookState → Prop
  | opening {i : Nat} (h : i < markers.opening old.instructions 0) : Pending markers old ⟨i, 0, 0⟩
  | inside {label : Nat} (h : label ≤ old.instructions.size) :
      Pending markers old ⟨markers.target old.instructions label, 1, 0⟩
  | returning {label : Nat} (h : Markers.closing old.instructions label = 1) :
      Pending markers old ⟨markers.place old.instructions label, 1, 1⟩
  | rethrowing : Pending markers old ⟨markers.bodyEnd old.instructions + 1, 1, 1⟩

/-- What stands where execution can be. -/
inductive Stands (markers : Markers) (indices : HookIndices) (tag : UInt16) (old : Flow) :
    HookState → Instruction → Prop
  | load (h : 1 < markers.opening old.instructions 0) :
      Stands markers indices tag old ⟨0, 0, 0⟩ (TracedBody.loadText tag)
  | beginCall (h : markers.opening old.instructions 0 = 2) : Stands markers indices tag old
      ⟨1, 0, 0⟩ (.withIndex Opcode.invokestatic indices.beginHook)
  | ordinary {label : Nat} {insn laid : Instruction} (h : old.instructions[label]? = some insn)
      (closing : Markers.closing old.instructions label = 0)
      (hw : (insn.mapTargets (markers.target old.instructions)).Widens laid) :
      Stands markers indices tag old ⟨markers.target old.instructions label, 1, 0⟩ laid
  | endCall {label : Nat} (closing : Markers.closing old.instructions label = 1) :
      Stands markers indices tag old ⟨markers.target old.instructions label, 1, 0⟩
        (.withIndex Opcode.invokestatic indices.endHook)
  | returns {label : Nat} {insn laid : Instruction} (h : old.instructions[label]? = some insn)
      (closing : Markers.closing old.instructions label = 1)
      (hw : (insn.mapTargets (markers.target old.instructions)).Widens laid) :
      Stands markers indices tag old ⟨markers.place old.instructions label, 1, 1⟩ laid
  | handlerCall : Stands markers indices tag old ⟨markers.bodyEnd old.instructions, 1, 0⟩
      (.withIndex Opcode.invokestatic indices.endHook)
  | rethrow : Stands markers indices tag old ⟨markers.bodyEnd old.instructions + 1, 1, 1⟩
      (.plain Opcode.athrow [])

theorem opening_start (h : 0 < old.instructions.size) :
    (markersAtStart indices tag).opening old.instructions 0 = 2 :=
  @Markers.opening_anchor (markersAtStart indices tag) _ h

theorem lt_size_of_opening {i : Nat}
    (h : i < (markersAtStart indices tag).opening old.instructions 0) :
    0 < old.instructions.size := by
  unfold Markers.opening at h
  split at h
  · next hc => exact hc.2
  · omega

theorem target_zero_start (h : 0 < old.instructions.size) :
    (markersAtStart indices tag).target old.instructions 0 = 2 := by
  rw [Markers.target, opening_start h]
  rfl

theorem target_succ_start (label : Nat) :
    (markersAtStart indices tag).target old.instructions (label + 1) =
      (markersAtStart indices tag).place old.instructions label + 1 := by
  rw [Markers.target, Markers.opening_of_ne (by simp [markersAtStart, TracedBody.markers]),
    Markers.entry_succ]

theorem Pending.stands (ht : Traced (markersAtStart indices tag) old new ranges)
    (h : Pending (markersAtStart indices tag) old s) (hi : new.instructions[s.label]? = some insn) :
    Stands (markersAtStart indices tag) indices tag old s insn := by
  -- Behind the body there is something only where the handler has been added.
  have htail : (markersAtStart indices tag).bodyEnd old.instructions ≤ s.label → ranges ≠ [] := by
    intro hle hnil
    have hlt := (Array.getElem?_eq_some_iff.mp hi).1
    rw [ht.bare hnil] at hlt
    omega
  cases h with
  | @opening i h =>
    have h0 := lt_size_of_opening h
    have hp := ht.prologue 0 h0 i h
    rw [opening_start h0] at h
    have hz : (markersAtStart indices tag).entry old.instructions 0 + i = i := Nat.zero_add i
    rw [hz] at hp
    have hfound := hi.symm.trans hp
    rcases (by omega : i = 0 ∨ i = 1) with rfl | rfl
    · cases hfound
      exact .load (by rw [opening_start h0]; omega)
    · cases hfound
      exact .beginCall (opening_start h0)
  | @inside label h =>
    rcases Nat.eq_or_lt_of_le h with rfl | lt
    · rw [Markers.target_size] at hi htail ⊢
      have hcall := (ht.guarded (htail le_rfl)).2.1
      cases hi.symm.trans hcall
      exact .handlerCall
    · rcases Markers.closing_cases old.instructions label with hc | hc
      · obtain ⟨laid, hl, hw⟩ := ht.original label _ (Array.getElem?_eq_getElem lt)
        rw [Markers.place, hc] at hl
        cases hi.symm.trans hl
        exact .ordinary (Array.getElem?_eq_getElem lt) hc hw
      · cases hi.symm.trans (ht.endCall label lt hc)
        exact .endCall hc
  | @returning label h =>
    obtain ⟨former, hf, _⟩ := Markers.closing_eq_one h
    obtain ⟨laid, hl, hw⟩ := ht.original label former hf
    cases hi.symm.trans hl
    exact .returns hf h hw
  | rethrowing =>
    have hthrow := (ht.guarded (htail (Nat.le_succ _))).2.2
    cases hi.symm.trans hthrow
    exact .rethrow

theorem Stands.ends (hr : indices.Resolve pool hooks) (hn : CallsNoHooks pool hooks old.instructions)
    (h : Stands (markersAtStart indices tag) indices tag old s insn)
    (hc : callCount pool hooks.endHook insn ≠ 0) : s.begun = 1 ∧ s.ended = 0 := by
  cases h with
  | load => exact absurd (callCount_loadText _) hc
  | beginCall => exact absurd hr.ends_beginCall hc
  | ordinary => exact ⟨rfl, rfl⟩
  | endCall => exact ⟨rfl, rfl⟩
  | returns hi _ hw => exact absurd (hn.laid hi hw).2 hc
  | handlerCall => exact ⟨rfl, rfl⟩
  | rethrow => exact absurd (callCount_of_ne (by decide)) hc

/-- What throws in the body is neither before the begin call nor behind the end call. -/
theorem Stands.throws (hr : indices.Resolve pool hooks)
    (h : Stands (markersAtStart indices tag) indices tag old s insn)
    (may : Flow.MayThrow pool hooks insn)
    (hle : (markersAtStart indices tag).target old.instructions 0 ≤ s.label)
    (hlt : s.label < (markersAtStart indices tag).bodyEnd old.instructions) :
    s.begun = 1 ∧ s.ended = 0 := by
  cases h with
  | load h =>
    rw [target_zero_start (lt_size_of_opening h)] at hle
    cases hle
  | beginCall h =>
    rw [target_zero_start (lt_size_of_opening (h ▸ Nat.zero_lt_two))] at hle
    change 2 ≤ 1 at hle
    omega
  | ordinary => exact ⟨rfl, rfl⟩
  | endCall => exact absurd may hr.endCall_not_throws
  | @returns label former laid hi hc hw =>
    obtain ⟨found, hf, hreturn⟩ := Markers.closing_eq_one hc
    cases hi.symm.trans hf
    rw [may.not_return hw] at hreturn
    cases hreturn
  | handlerCall => exact absurd may hr.endCall_not_throws
  | rethrow =>
    change (markersAtStart indices tag).bodyEnd old.instructions + 1 < _ at hlt
    omega

theorem Stands.escapes (ht : Traced (markersAtStart indices tag) old new ranges)
    (hr : indices.Resolve pool hooks)
    (h : Stands (markersAtStart indices tag) indices tag old s insn)
    (may : Flow.MayThrow pool hooks insn) (leads : new.Leads s.label .escaped none) :
    s.begun = s.ended := by
  cases h with
  | load => rfl
  | beginCall => rfl
  | @ordinary label former laid hi hc hw =>
    have hlt := (Array.getElem?_eq_some_iff.mp hi).1
    have hplace : (markersAtStart indices tag).target old.instructions label =
        (markersAtStart indices tag).place old.instructions label := by rw [Markers.place, hc]; rfl
    obtain ⟨handler, hm, hcovers, hall⟩ := ht.exists_guard
      ((ht.inRanges _).mpr ⟨label, hlt, Nat.zero_le _, hc, hplace⟩)
    obtain ⟨i, hi, hget⟩ := List.getElem_of_mem hm
    cases leads with
    | escaped _ passes =>
      exact absurd hall (passes i hi handler (List.getElem?_eq_some_iff.mpr ⟨hi, hget⟩) hcovers)
  | endCall => exact absurd may hr.endCall_not_throws
  | returns => rfl
  | handlerCall => exact absurd may hr.endCall_not_throws
  | rethrow => rfl

/-- Without an exception each place leads on in the order of the invariant. -/
theorem Stands.goes_on (ht : Traced (markersAtStart indices tag) old new ranges)
    (hr : indices.Resolve pool hooks) (hn : CallsNoHooks pool hooks old.instructions)
    (h : Stands (markersAtStart indices tag) indices tag old s insn)
    (goes : insn.endsBlock = false) : Pending (markersAtStart indices tag) old
      ⟨s.label + 1, s.begun + callCount pool hooks.beginHook insn,
        s.ended + callCount pool hooks.endHook insn⟩ := by
  cases h with
  | load h =>
    rw [callCount_loadText, callCount_loadText]
    exact .opening h
  | beginCall h =>
    rw [hr.begins_beginCall, hr.ends_beginCall]
    have h0 := lt_size_of_opening (h ▸ Nat.zero_lt_two)
    have hp : Pending (markersAtStart indices tag) old ⟨_, 1, 0⟩ := .inside (Nat.zero_le _)
    rwa [target_zero_start h0] at hp
  | @ordinary label former laid hi hc hw =>
    have hlt := (Array.getElem?_eq_some_iff.mp hi).1
    rw [(hn.laid hi hw).1, (hn.laid hi hw).2]
    have hp : Pending (markersAtStart indices tag) old ⟨_, 1, 0⟩ := .inside (Nat.succ_le_of_lt hlt)
    rw [target_succ_start, Markers.place, hc] at hp
    exact hp
  | @endCall label hc =>
    rw [hr.begins_endCall, hr.ends_endCall]
    have hp : Pending (markersAtStart indices tag) old ⟨_, 1, 1⟩ := .returning hc
    rw [Markers.place, hc] at hp
    exact hp
  | @returns label former laid hi hc hw =>
    obtain ⟨found, hf, hreturn⟩ := Markers.closing_eq_one hc
    cases hi.symm.trans hf
    rw [(ht.return_leaves hi hreturn hw).1] at goes
    cases goes
  | handlerCall =>
    rw [hr.begins_endCall, hr.ends_endCall]
    exact .rethrowing
  | rethrow => cases goes

theorem Stands.jumps (ht : Traced (markersAtStart indices tag) old new ranges)
    (hn : CallsNoHooks pool hooks old.instructions)
    (h : Stands (markersAtStart indices tag) indices tag old s insn) {target : Nat}
    (goes : target ∈ insn.targets) : Pending (markersAtStart indices tag) old
      ⟨target, s.begun + callCount pool hooks.beginHook insn,
        s.ended + callCount pool hooks.endHook insn⟩ := by
  cases h with
  | load =>
    rw [TracedBody.loadText_targets] at goes
    cases goes
  | beginCall => cases goes
  | @ordinary label former laid hi hc hw =>
    rw [(hn.laid hi hw).1, (hn.laid hi hw).2]
    rw [hw.targets, Instruction.targets_mapTargets] at goes
    obtain ⟨t, htm, rfl⟩ := List.mem_map.mp goes
    exact .inside (ht.targets_le former (Array.mem_of_getElem? hi) t htm)
  | endCall => cases goes
  | @returns label former laid hi hc hw =>
    obtain ⟨found, hf, hreturn⟩ := Markers.closing_eq_one hc
    cases hi.symm.trans hf
    rw [(ht.return_leaves hi hreturn hw).2] at goes
    cases goes
  | handlerCall => cases goes
  | rethrow => cases goes

/-- Execution stays in the states of the invariant. -/
theorem Pending.step (ht : Traced (markersAtStart indices tag) old new ranges)
    (hr : indices.Resolve pool hooks) (hn : CallsNoHooks pool hooks old.instructions)
    (h : Pending (markersAtStart indices tag) old s) (hs : Flow.HookStep pool hooks new s t) :
    Pending (markersAtStart indices tag) old t := by
  cases hs with
  | @thrown label begun ended index target insn here may leads =>
    cases leads with
    | @caught index handler inside passes found covers =>
      have hm := List.mem_of_getElem? found
      obtain ⟨hle, hlt⟩ := ht.covered hm covers
      obtain ⟨rfl, rfl⟩ := (h.stands ht here).throws hr may hle hlt
      obtain ⟨l, hl, htarget⟩ := ht.handler_target hm
      rw [htarget]
      exact .inside hl
  | @done label begun ended target insn exit here normal leads =>
    rcases leads.of_normal normal here with ⟨goes, rfl⟩ | goes
    · exact (h.stands ht here).goes_on ht hr hn goes
    · exact (h.stands ht here).jumps ht hn goes

theorem Pending.reaches (ht : Traced (markersAtStart indices tag) old new ranges)
    (hr : indices.Resolve pool hooks) (hn : CallsNoHooks pool hooks old.instructions)
    (h0 : 0 < old.instructions.size) (h : Flow.Reaches pool hooks new s) :
    Pending (markersAtStart indices tag) old s := by
  induction h with
  | start => exact .opening (by rw [opening_start h0]; omega)
  | step _ hs ih => exact ih.step ht hr hn hs

theorem Pending.begun_le_one {markers : Markers} (h : Pending markers old s) : s.begun ≤ 1 := by
  cases h <;> simp

theorem Stands.returns_paired (h : Stands (markersAtStart indices tag) indices tag old s insn)
    (hreturn : insn.opcode.isReturn = true) : s.begun = 1 ∧ s.ended = 1 := by
  cases h with
  | load =>
    rw [TracedBody.loadText_not_return] at hreturn
    cases hreturn
  | beginCall => cases hreturn
  | @ordinary label former laid hi hc hw =>
    rw [hw.isReturn, Instruction.opcode_mapTargets,
      Markers.not_return_of_closing hi hc] at hreturn
    cases hreturn
  | endCall => cases hreturn
  | returns => exact ⟨rfl, rfl⟩
  | handlerCall => cases hreturn
  | rethrow => cases hreturn

/-- The hook calls of a traced method that is entered at its beginning are balanced. -/
theorem Traced.balanced (ht : Traced (markersAtStart indices tag) old new ranges)
    (hr : indices.Resolve pool hooks) (hn : CallsNoHooks pool hooks old.instructions) :
    new.Balanced pool hooks := by
  rcases Nat.eq_zero_or_pos old.instructions.size with hz | h0
  · -- Where there are no instructions, execution does not leave its start.
    have hsize := ht.size_eq_zero hz
    have hnone : ∀ (label : Nat) insn, new.instructions[label]? ≠ some insn := by
      intro label insn hi
      have := (Array.getElem?_eq_some_iff.mp hi).1
      omega
    have hstart : ∀ s, new.Reaches pool hooks s → s = .start := by
      intro s h
      cases h with
      | start => rfl
      | step _ hs => cases hs with
        | thrown here => exact absurd here (hnone _ _)
        | done here => exact absurd here (hnone _ _)
    refine ⟨?_, ?_, ?_, ?_⟩
    · intro s h
      rw [hstart s h]
      exact Nat.zero_le _
    · exact fun s _ insn hi => absurd hi (hnone _ _)
    · exact fun s _ insn hi => absurd hi (hnone _ _)
    · exact fun s _ insn hi => absurd hi (hnone _ _)
  · have hpending : ∀ s, new.Reaches pool hooks s → Pending (markersAtStart indices tag) old s :=
      fun s h => Pending.reaches ht hr hn h0 h
    refine ⟨?_, ?_, ?_, ?_⟩
    · intro s h
      exact (hpending s h).begun_le_one
    · intro s h insn hi hc
      exact ((hpending s h).stands ht hi).ends hr hn hc
    · intro s h insn hi hreturn
      exact ((hpending s h).stands ht hi).returns_paired hreturn
    · intro s h insn hi may leads
      exact ((hpending s h).stands ht hi).escapes ht hr may leads

end Pending

open Instrumented

end MethodTrace
