import MethodTrace.Code.StackDepth
import MethodTrace.Proofs.Exploration
import MethodTrace.Proofs.FlowPaths
import MethodTrace.Proofs.Runs

/-!
A flow whose stack depths can be replayed is closed: no way through it runs off its end.
-/

namespace MethodTrace

namespace Flow

/-- Labels that execution does not leave but by leaving the method. -/
structure ClosedOver (flow : Flow) (met : Nat → Prop) : Prop where
  start : 0 < flow.instructions.size → met 0
  lt_size : ∀ label, met label → label < flow.instructions.size
  leads : ∀ label, met label → ∀ exit target, flow.Leads label exit (some target) → met target

theorem ClosedOver.path {flow : Flow} {met : Nat → Prop} (h : flow.ClosedOver met)
    {place last : Option Nat} {steps : List (Nat × Exit)} (path : flow.Path place steps last)
    (hmet : ∀ l, place = some l → met l) : ∀ l, last = some l → met l := by
  induction path with
  | stop => exact hmet
  | @step label exit _ _ _ leads _ ih =>
    exact ih fun target ht => h.leads label (hmet label rfl) exit target (ht ▸ leads)

/-- Whether the stack depths of a flow can be replayed. -/
def Replays (flow : Flow) (pool : ConstantPool) : Prop :=
  ∃ depth, StackDepth.maximum flow.instructions flow.handlers pool = .ok depth

end Flow

namespace StackDepth

variable {pool : ConstantPool} {insn : Instruction} {label : Nat} {depth : UInt16}
  {pushed : List (Label × UInt16)}

/-- The depth with which an instruction goes on to the next one. -/
def depthBehind? (insn : Instruction) (depth after : UInt16) : Option UInt16 :=
  if insn.opcode.isSubroutineCall then some depth
  else if insn.endsBlock then none
  else some after

/-- Where an instruction leads that is met with some depth and leaves another one. -/
def leadsTo (insn : Instruction) (label : Label) (depth after : UInt16) : List (Label × UInt16) :=
  insn.targets.map (·, after) ++ (depthBehind? insn depth after).toList.map (label + 1, ·)

theorem next_eq_ok_iff : next pool insn label depth = .ok pushed ↔
    ∃ effect, StackEffect.ofInstruction pool insn = .ok effect ∧ effect.pops ≤ depth ∧
      pushed = leadsTo insn label depth (effect.apply depth) := by
  unfold next after leadsTo depthBehind?
  rw [Except.bind_eq_ok_iff]
  constructor
  · rintro ⟨after, h, hp⟩
    obtain ⟨effect, he, h⟩ := Except.bind_eq_ok_iff.mp h
    split at h
    · cases h
    · next enough =>
      cases h
      cases hp
      refine ⟨effect, he, UInt16.not_lt.mp enough, ?_⟩
      split
      · rfl
      · split
        · simp
        · rfl
  · rintro ⟨effect, he, enough, rfl⟩
    refine ⟨effect.apply depth, Except.bind_eq_ok_iff.mpr ⟨effect, he, ?_⟩, ?_⟩
    · rw [if_neg (UInt16.not_lt.mpr enough)]
      rfl
    · split
      · rfl
      · split
        · simp [pure, Except.pure]
        · rfl

theorem mem_leadsTo_iff {after : UInt16} {entry : Nat × UInt16} :
    entry ∈ leadsTo insn label depth after ↔ (entry.1 ∈ insn.targets ∧ entry.2 = after) ∨
      (entry.1 = label + 1 ∧ depthBehind? insn depth after = some entry.2) := by
  obtain ⟨place, value⟩ := entry
  unfold leadsTo
  rw [List.mem_append, List.mem_map, List.mem_map]
  constructor
  · rintro (⟨t, ht, same⟩ | ⟨left, hl, same⟩)
    · cases same
      exact .inl ⟨ht, rfl⟩
    · cases same
      exact .inr ⟨rfl, Option.mem_toList.mp hl⟩
  · rintro (⟨ht, rfl⟩ | ⟨rfl, hl⟩)
    · exact .inl ⟨place, ht, rfl⟩
    · exact .inr ⟨value, Option.mem_toList.mpr hl, rfl⟩

theorem exists_depthBehind (depth after : UInt16) (hb : insn.endsBlock = false) :
    ∃ left, depthBehind? insn depth after = some left := by
  unfold depthBehind?
  split
  · exact ⟨depth, rfl⟩
  · rw [hb]
    exact ⟨after, rfl⟩

end StackDepth

open StackDepth

namespace Flow

variable {flow : Flow} {pool : ConstantPool}

/-- The depths with which execution comes to the labels of a flow. -/
inductive MetWith (flow : Flow) (pool : ConstantPool) : Nat → UInt16 → Prop
  | root {label : Nat} {depth : UInt16}
      (h : (label, depth) ∈ roots flow.instructions flow.handlers) : MetWith flow pool label depth
  | step {label target : Nat} {depth left : UInt16} {insn : Instruction}
      {pushed : List (Label × UInt16)} (h : MetWith flow pool label depth)
      (here : flow.instructions[label]? = some insn)
      (leads : next pool insn label depth = .ok pushed) (he : (target, left) ∈ pushed) :
      MetWith flow pool target left

/-- A replay that succeeds has a table of the depths with which execution comes to the labels. -/
theorem Replays.exists_table (h : flow.Replays pool) : ∃ found : Array (Option UInt16),
    (∀ label depth, flow.MetWith pool label depth → found[label]? = some (some depth)) ∧
    ∀ (label : Nat) depth, found[label]? = some (some depth) → ∃ insn pushed,
      flow.instructions[label]? = some insn ∧ next pool insn label depth = .ok pushed := by
  obtain ⟨greatest, h⟩ := h
  obtain ⟨found, hf, _⟩ := Except.bind_eq_ok_iff.mp h
  obtain ⟨hsize, hpending, _, hleads⟩ := Exploration.explore_explored hf
  rw [Array.size_replicate] at hsize
  refine ⟨found, fun label depth met => ?_, fun label depth held => ?_⟩
  · induction met with
    | @root label depth h => exact hpending (label, depth) (List.mem_reverse.mpr h)
    | @step label target depth left insn pushed _ here leads he ih =>
      obtain ⟨others, hn, hp⟩ := (hleads label depth ih).resolve_left
        (Exploration.not_held_replicate _ label depth)
      rw [here] at hn
      cases hn.symm.trans leads
      exact hp (target, left) he
  · have lt := (Array.getElem?_eq_some_iff.mp held).1
    have here := @Array.getElem?_eq_getElem _ flow.instructions label (by omega)
    obtain ⟨pushed, hn, _⟩ := (hleads label depth held).resolve_left
      (Exploration.not_held_replicate _ label depth)
    rw [here] at hn
    exact ⟨_, pushed, here, hn⟩

/-- The replay succeeds just when execution comes with one depth to every label, and only to
instructions that can be executed with it. -/
theorem replays_iff : flow.Replays pool ↔
    (∀ label depth, flow.MetWith pool label depth → ∃ insn pushed,
      flow.instructions[label]? = some insn ∧ next pool insn label depth = .ok pushed) ∧
    ∀ label depth other, flow.MetWith pool label depth → flow.MetWith pool label other →
      depth = other := by
  constructor
  · intro h
    obtain ⟨found, held, leads⟩ := h.exists_table
    refine ⟨fun label depth met => leads label depth (held label depth met),
      fun label depth other met met' => ?_⟩
    cases (held label depth met).symm.trans (held label other met')
    rfl
  · rintro ⟨leads, unique⟩
    have succeeds : ∃ found, table flow.instructions flow.handlers pool = .ok found := by
      refine @Exploration.explore_succeeds _ _ _ _ _ _ _ _ (flow.MetWith pool) ?_ unique ?_ ?_
      · intro label depth met
        obtain ⟨insn, pushed, here, hn⟩ := leads label depth met
        refine ⟨by simpa using (Array.getElem?_eq_some_iff.mp here).1, pushed, ?_,
          fun entry he => .step met here hn he⟩
        rw [here]
        exact hn
      · exact fun entry he => .root (List.mem_reverse.mp he)
      · exact fun place value hp => absurd hp (Exploration.not_held_replicate _ place value)
    obtain ⟨found, hf⟩ := succeeds
    exact ⟨_, Except.bind_eq_ok_iff.mpr ⟨found, hf, rfl⟩⟩

theorem Replays.closed (h : flow.Replays pool) : ∃ met, flow.ClosedOver met := by
  obtain ⟨leads, _⟩ := replays_iff.mp h
  refine ⟨fun label => ∃ depth, flow.MetWith pool label depth, ?_, ?_, ?_⟩
  · intro h0
    have hne : flow.instructions.isEmpty = false := by
      rw [Array.isEmpty_eq_false_iff]
      rintro he
      rw [he] at h0
      cases h0
    exact ⟨0, .root (by simp [roots, hne])⟩
  · rintro label ⟨depth, met⟩
    obtain ⟨insn, _, here, _⟩ := leads label depth met
    exact (Array.getElem?_eq_some_iff.mp here).1
  · rintro label ⟨depth, met⟩ exit target hl
    obtain ⟨insn, pushed, here, hn⟩ := leads label depth met
    obtain ⟨effect, _, _, rfl⟩ := next_eq_ok_iff.mp hn
    cases hl with
    | next here' goes =>
      cases here.symm.trans here'
      obtain ⟨left, hl⟩ := exists_depthBehind depth (effect.apply depth) goes
      exact ⟨left, .step met here hn (mem_leadsTo_iff.mpr (.inr ⟨rfl, hl⟩))⟩
    | jump here' goes =>
      cases here.symm.trans here'
      refine ⟨effect.apply depth, .step met here hn ?_⟩
      exact mem_leadsTo_iff.mpr (.inl ⟨List.mem_of_getElem? goes, rfl⟩)
    | @caught index handler inside passes there covers =>
      have hlt : (handler.start : Nat) < handler.stop := by
        simp only [Handler.covers, Bool.and_eq_true, decide_eq_true_eq] at covers
        exact Nat.lt_of_le_of_lt covers.1 covers.2
      refine ⟨1, .root ?_⟩
      refine List.mem_append_right _ (List.mem_map.mpr ⟨handler, ?_, rfl⟩)
      exact List.mem_filter.mpr ⟨List.mem_of_getElem? there, by simpa using hlt⟩

end Flow

end MethodTrace
