import MethodTrace.Proofs.RewrittenCode

/-!
A rewritten method is entered where its prologue stands, and is recognized by it.

The search for the constructor call passes over the markers, so it ends at the new place of the call
that it has found before.
-/

namespace MethodTrace

namespace Entry

variable {pool later : ConstantPool} {insn : Instruction}

/-- An instruction that the search for the constructor call passes over. -/
def Idle (insn : Instruction) : Prop :=
  insn.opcode ≠ Opcode.new ∧ insn.opcode ≠ Opcode.invokespecial

theorem idle_of_opcode (opcode : Opcode) (h : insn.opcode = opcode)
    (ho : opcode ≠ Opcode.new ∧ opcode ≠ Opcode.invokespecial) : Idle insn := by
  subst h
  exact ho

theorem constructorCallFrom_idle (h : Idle insn) (label : Label) (pending : Nat)
    (rest : List Instruction) : constructorCallFrom pool label pending (insn :: rest)
      = constructorCallFrom pool (label + 1) pending rest := by
  rw [constructorCallFrom.eq_def]
  dsimp only
  rw [if_neg h.1, if_neg h.2]

/-- The layout of an instruction keeps what the search looks for. -/
theorem idle_or_eq {laid : Instruction} {f : Label → Label} (formed : insn.Formed)
    (h : (insn.mapTargets f).Widens laid) : laid = insn ∨ Idle insn ∧ Idle laid := by
  have branch {opcode : Opcode} {target : Label}
      (hb : (Instruction.branch opcode target).Formed) : Idle (.branch opcode target) := by
    cases hb with
    | branch _ hb =>
      constructor
      · rintro rfl
        revert hb
        decide
      · rintro rfl
        revert hb
        decide
  cases formed with
  | plain => exact .inl h.eq_of_plain
  | wide => exact .inl h.eq_of_plain
  | branch target hb =>
    have moved := (Instruction.Formed.branch (f target) hb).widens h
    refine .inr ⟨branch (.branch target hb), ?_⟩
    cases h with
    | same => exact branch moved
    | jump _ _ => exact branch moved
  | tableSwitch fallback =>
    cases h
    exact .inr ⟨idle_of_opcode Opcode.tableswitch rfl (by decide),
      idle_of_opcode Opcode.tableswitch rfl (by decide)⟩
  | lookupSwitch fallback pairs =>
    cases h
    exact .inr ⟨idle_of_opcode Opcode.lookupswitch rfl (by decide),
      idle_of_opcode Opcode.lookupswitch rfl (by decide)⟩

end Entry

/-- Markers that the search for the constructor call passes over. -/
structure Markers.Idle (markers : Markers) : Prop where
  prologue : ∀ insn ∈ markers.prologue, Entry.Idle insn
  endCall : Entry.Idle markers.endCall

theorem TracedBody.markers_idle (hooks : HookIndices) (anchor : Label) (tag : UInt16) :
    (markers hooks anchor tag).Idle := by
  have call (index : UInt16) : Entry.Idle (.withIndex Opcode.invokestatic index) :=
    Entry.idle_of_opcode Opcode.invokestatic rfl (by decide)
  refine ⟨fun insn hi => ?_, call _⟩
  rcases mem_prologue.mp hi with rfl | rfl
  · obtain ⟨opcode, operands, load, rfl | rfl⟩ := loadText_cases tag
    · exact Entry.idle_of_opcode Opcode.ldc (by rw [load]; rfl) (by decide)
    · exact Entry.idle_of_opcode Opcode.ldcW (by rw [load]; rfl) (by decide)
  · exact call _

namespace Traced

open Entry

variable {markers : Markers} {old new : Flow} {ranges : List (Label × Label)}
  {pool later : ConstantPool}

/-- The search from a place on, over the instructions that are left there. -/
def searchAt (pool : ConstantPool) (flow : Flow) (place pending : Nat) :
    Except ClassFileError (Option Label) :=
  constructorCallFrom pool place pending (flow.instructions.toList.drop place)

theorem searchAt_eq {flow : Flow} {place : Nat} {insn : Instruction}
    (h : flow.instructions[place]? = some insn) (pending : Nat) :
    searchAt pool flow place pending = constructorCallFrom pool place pending
      (insn :: flow.instructions.toList.drop (place + 1)) := by
  obtain ⟨lt, rfl⟩ := Array.getElem?_eq_some_iff.mp h
  rw [searchAt, List.drop_eq_getElem_cons (by simpa using lt), Array.getElem_toList]

theorem searchAt_idle {flow : Flow} {place pending : Nat} {insn : Instruction}
    (h : flow.instructions[place]? = some insn) (hi : Entry.Idle insn) :
    searchAt pool flow place pending = searchAt pool flow (place + 1) pending := by
  rw [searchAt_eq h, constructorCallFrom_idle hi]
  rfl

theorem searchAt_end {flow : Flow} {place pending : Nat} (h : flow.instructions.size ≤ place) :
    searchAt pool flow place pending = .ok none := by
  rw [searchAt, List.drop_eq_nil_of_le (by simpa using h)]
  rfl

/-- The search passes over the markers before an old instruction. -/
theorem searchAt_entry (h : Traced markers old new ranges) (hm : markers.Idle) {label : Nat}
    (hl : label < old.instructions.size) (pending : Nat) :
    searchAt pool new (markers.entry old.instructions label) pending
      = searchAt pool new (markers.place old.instructions label) pending := by
  have opened : ∀ count ≤ markers.opening old.instructions label,
      searchAt pool new (markers.entry old.instructions label) pending
        = searchAt pool new (markers.entry old.instructions label + count) pending := by
    intro count
    induction count with
    | zero => intro _; rfl
    | succ count ih =>
      intro hc
      have stands := h.prologue label hl count (by omega)
      have lt : count < markers.prologue.length :=
        Nat.lt_of_lt_of_le hc (Markers.opening_le_length _ _ _)
      rw [List.getElem?_eq_getElem lt] at stands
      rw [ih (by omega), searchAt_idle stands (hm.prologue _ (List.getElem_mem lt))]
      rfl
  have met : searchAt pool new (markers.entry old.instructions label) pending
      = searchAt pool new (markers.target old.instructions label) pending := opened _ le_rfl
  rw [met, Markers.place]
  rcases Markers.closing_cases old.instructions label with closing | closing
  · rw [closing]
    rfl
  · rw [closing, searchAt_idle (h.endCall label hl closing) hm.endCall]

theorem searchAt_bodyEnd (h : Traced markers old new ranges) (hm : markers.Idle) (pending : Nat) :
    searchAt pool new (markers.bodyEnd old.instructions) pending = .ok none := by
  by_cases hr : ranges = []
  · exact searchAt_end (h.bare hr).le
  · obtain ⟨size, call, throws⟩ := h.guarded hr
    rw [searchAt_idle call hm.endCall, searchAt_idle throws (idle_of_opcode Opcode.athrow rfl (by decide))]
    exact searchAt_end (by omega)

/-- From every old instruction on, the search finds the call that it has found before. -/
theorem searchAt_place (h : Traced markers old new ranges) (hm : markers.Idle)
    (formed : ∀ insn ∈ old.instructions, insn.Formed) {label : Nat} (pending : Nat)
    (hl : label ≤ old.instructions.size) :
    searchAt pool new (markers.entry old.instructions label) pending
      = (searchAt pool old label pending).map (Option.map (markers.place old.instructions)) := by
  obtain ⟨left, hleft⟩ : ∃ left, left = old.instructions.size - label := ⟨_, rfl⟩
  induction left generalizing label pending with
  | zero =>
    have last : label = old.instructions.size := by omega
    subst last
    rw [searchAt_end le_rfl]
    exact h.searchAt_bodyEnd hm pending
  | succ left ih =>
    have lt : label < old.instructions.size := by omega
    have hi : old.instructions[label]? = some old.instructions[label] :=
      Array.getElem?_eq_getElem lt
    obtain ⟨laid, hlaid, hw⟩ := h.original label _ hi
    have next (pending : Nat) :
        searchAt pool new (markers.place old.instructions label + 1) pending
          = (searchAt pool old (label + 1) pending).map
              (Option.map (markers.place old.instructions)) :=
      ih pending lt (by omega)
    rw [h.searchAt_entry hm lt]
    rcases idle_or_eq (formed _ (Array.getElem_mem lt)) hw with same | ⟨idle, idleLaid⟩
    · subst same
      rw [searchAt_eq hlaid, constructorCallFrom.eq_def, searchAt_eq hi,
        constructorCallFrom.eq_def pool label]
      dsimp only
      split
      · exact next _
      split
      · split
        · rfl
        · split
          · exact next _
          · cases pending with
            | zero => rfl
            | succ pending => exact next pending
      · exact next _
    · rw [searchAt_idle hi idle, searchAt_idle hlaid idleLaid]
      exact next pending

/-- The constructor call is found at its new place. -/
theorem constructorCall?_eq (h : Traced markers old new ranges) (hm : markers.Idle)
    (formed : ∀ insn ∈ old.instructions, insn.Formed) : constructorCall? pool new.instructions
      = (constructorCall? pool old.instructions).map
          (Option.map (markers.place old.instructions)) :=
  h.searchAt_place hm formed 0 (Nat.zero_le _)

theorem anchor_eq (h : Traced markers old new ranges) (hm : markers.Idle)
    (formed : ∀ insn ∈ old.instructions, insn.Formed) {name : String}
    (ha : anchor pool name old.instructions = .ok markers.anchor) :
    anchor pool name new.instructions = .ok (markers.entry old.instructions markers.anchor) := by
  unfold anchor at ha ⊢
  split at ha
  · next ordinary =>
    rw [if_pos ordinary, ← Except.pure_eq_ok_iff.mp ha]
    rfl
  · next constructor =>
    rw [if_neg constructor, h.constructorCall?_eq hm formed]
    obtain ⟨found, hs, ha⟩ := Except.bind_eq_ok_iff.mp ha
    rw [hs]
    cases found with
    | none =>
      rw [← Except.pure_eq_ok_iff.mp ha]
      rfl
    | some call =>
      rw [← Except.pure_eq_ok_iff.mp ha]
      rfl

end Traced

namespace Entry

variable {pool later : ConstantPool} {insn : Instruction} {instructions : Array Instruction}

theorem callee_extends {member : MemberRef} (hext : pool.Extends later)
    (h : callee pool insn = .ok member) : callee later insn = .ok member := by
  unfold callee at h ⊢
  split at h
  · exact hext.memberRef h
  · cases h

theorem constructorCallFrom_extends (hext : pool.Extends later) {label pending : Nat}
    {rest : List Instruction} {found : Option Label}
    (h : constructorCallFrom pool label pending rest = .ok found) :
    constructorCallFrom later label pending rest = .ok found := by
  induction rest generalizing label pending with
  | nil => exact h
  | cons insn rest ih =>
    rw [constructorCallFrom.eq_def] at h ⊢
    dsimp only at h ⊢
    split at h
    · next creates =>
      rw [if_pos creates]
      exact ih h
    next creates =>
    rw [if_neg creates]
    split at h
    · next calls =>
      rw [if_pos calls]
      split at h
      · cases h
      · next member hc =>
        rw [callee_extends hext hc]
        dsimp only
        split at h
        · next other =>
          rw [if_pos other]
          exact ih h
        · next constructs =>
          rw [if_neg constructs]
          cases pending with
          | zero => exact h
          | succ pending => exact ih h
    · next calls =>
      rw [if_neg calls]
      exact ih h

theorem anchor_extends (hext : pool.Extends later) {name : String} {label : Label}
    (h : anchor pool name instructions = .ok label) :
    anchor later name instructions = .ok label := by
  unfold anchor at h ⊢
  split at h
  · next ordinary =>
    rw [if_pos ordinary]
    exact h
  · next constructor =>
    rw [if_neg constructor]
    obtain ⟨found, hs, h⟩ := Except.bind_eq_ok_iff.mp h
    exact Except.bind_eq_ok_iff.mpr ⟨found, constructorCallFrom_extends hext hs, h⟩

/-- An instruction that loads a text goes on to load it in every later pool. -/
theorem loadsText_extends (hext : pool.Extends later) {text : String}
    (h : loadsText pool text insn = .ok true) : loadsText later text insn = .ok true := by
  unfold loadsText at h ⊢
  split at h
  · next index hload =>
    obtain ⟨constant, hc, hg⟩ := Option.bind_eq_some_iff.mp hload
    rw [hc, Option.bind_some, hext.get? hg]
    obtain ⟨found, hf, h⟩ := Except.bind_eq_ok_iff.mp h
    exact Except.bind_eq_ok_iff.mpr ⟨found, hext.utf8 hf, h⟩
  · cases h

theorem callsMethod_extends (hext : pool.Extends later) {method : MemberRef}
    (h : callsMethod pool method insn = .ok true) : callsMethod later method insn = .ok true := by
  unfold callsMethod at h ⊢
  split at h
  · next call =>
    rw [if_pos call]
    split at h
    · obtain ⟨found, hf, h⟩ := Except.bind_eq_ok_iff.mp h
      exact Except.bind_eq_ok_iff.mpr ⟨found, hext.memberRef hf, h⟩
    · cases h
  · cases h

theorem isTraced_eq_ok_true {hooks : Hooks} {name tag : String} :
    isTraced pool hooks name tag instructions = .ok true ↔
      ∃ label load call, anchor pool name instructions = .ok label ∧
        instructions[label]? = some load ∧ instructions[label + 1]? = some call ∧
        loadsText pool tag load = .ok true ∧ callsMethod pool hooks.beginHook call = .ok true := by
  unfold isTraced
  rw [Except.bind_eq_ok_iff]
  constructor
  · rintro ⟨label, ha, h⟩
    split at h
    · next load call hl hc =>
      obtain ⟨loads, hloads, h⟩ := Except.bind_eq_ok_iff.mp h
      cases loads with
      | false => cases h
      | true => exact ⟨label, load, call, ha, hl, hc, hloads, h⟩
    · cases h
  · rintro ⟨label, load, call, ha, hl, hc, loads, calls⟩
    refine ⟨label, ha, ?_⟩
    rw [hl, hc]
    exact Except.bind_eq_ok_iff.mpr ⟨true, loads, calls⟩

/-- What is traced remains so in every later pool. -/
theorem isTraced_extends (hext : pool.Extends later) {hooks : Hooks} {name tag : String}
    (h : isTraced pool hooks name tag instructions = .ok true) :
    isTraced later hooks name tag instructions = .ok true := by
  obtain ⟨label, load, call, ha, hl, hc, loads, calls⟩ := isTraced_eq_ok_true.mp h
  exact isTraced_eq_ok_true.mpr ⟨label, load, call, anchor_extends hext ha, hl, hc,
    loadsText_extends hext loads, callsMethod_extends hext calls⟩

theorem loadedIndex?_loadText (index : UInt16) :
    loadedIndex? (TracedBody.loadText index) = some index := by
  unfold TracedBody.loadText
  split
  · next short =>
    have whole : index.toUInt8.toUInt16 = index := by
      apply UInt16.toNat_inj.mp
      have : index.toNat < 256 := UInt16.lt_iff_toNat_lt.mp short
      rw [UInt8.toNat_toUInt16, UInt16.toNat_toUInt8]
      omega
    rw [loadedIndex?, if_pos rfl]
    exact congrArg some whole
  · have read := Instruction.indexOperand?_withIndex Opcode.ldcW index
    unfold Instruction.withIndex at read ⊢
    unfold loadedIndex?
    dsimp only
    rw [if_neg (by decide), if_pos rfl, read]

theorem loadsText_loadText {index spelled : UInt16} {text : String}
    (hg : pool.get? index = some (.string spelled)) (ht : pool.utf8 spelled = .ok text) :
    loadsText pool text (TracedBody.loadText index) = .ok true := by
  unfold loadsText
  rw [loadedIndex?_loadText, Option.bind_some, hg]
  exact Except.bind_eq_ok_iff.mpr ⟨text, ht, by simp [pure, Except.pure]⟩

theorem callsMethod_call {index : UInt16} {method : MemberRef}
    (h : pool.memberRef index = .ok method) :
    callsMethod pool method (.withIndex Opcode.invokestatic index) = .ok true := by
  have opcode : (Instruction.withIndex Opcode.invokestatic index).opcode = Opcode.invokestatic :=
    rfl
  unfold callsMethod
  rw [if_pos opcode, Instruction.indexOperand?_withIndex]
  exact Except.bind_eq_ok_iff.mpr ⟨method, h, by simp [pure, Except.pure]⟩

end Entry

end MethodTrace
