import MethodTrace.Proofs.HookBalance
import MethodTrace.Trace.Balance

/-!
Walks through a method, which count the calls of its hooks.

A walk counts calls by plain numbers and goes on wherever control can go. The check of the balance
only tells whether a hook has been called or not, and stops at the first violation. The two agree as
long as nothing is violated: `Marks.exists_next_iff` says where the check goes on, and
`Marks.mem_next_iff` to which states.
-/

namespace MethodTrace

namespace Balance

variable {pool : ConstantPool} {hooks : Hooks} {flow : Flow} {insn : Instruction} {call : HookCall}

/-- A static call of a method of the class of the hooks. -/
def CallsNamed (pool : ConstantPool) (hooks : Hooks) (name : String) (insn : Instruction) : Prop :=
  insn.opcode = Opcode.invokestatic ∧ ∃ index callee, insn.indexOperand? = some index ∧
    pool.memberRef index = .ok callee ∧ callee.owner = hooks.owner ∧ callee.name = name

/-- What an instruction means for the balance. If both hooks have one name, all calls of it are
calls of the begin hook. -/
inductive Means (pool : ConstantPool) (hooks : Hooks) (insn : Instruction) : HookCall → Prop
  | begins (begins : CallsNamed pool hooks hooks.beginName insn) : Means pool hooks insn .begins
  | ends (no : ¬CallsNamed pool hooks hooks.beginName insn)
      (ends : CallsNamed pool hooks hooks.endName insn) : Means pool hooks insn .ends
  | other (no : ¬CallsNamed pool hooks hooks.beginName insn)
      (no' : ¬CallsNamed pool hooks hooks.endName insn) : Means pool hooks insn .other

/-- Whether the method that a static call names can be resolved. -/
def Resolves (pool : ConstantPool) (insn : Instruction) : Prop :=
  insn.opcode = Opcode.invokestatic → ∀ index, insn.indexOperand? = some index →
    ∃ callee, pool.memberRef index = .ok callee

/-- One step of a walk. What throws has no effect before, and calls of the end hook and returns do
not throw. -/
inductive WalkStep (pool : ConstantPool) (hooks : Hooks) (flow : Flow) :
    HookState → HookState → Prop
  | thrown {label begun ended index target : Nat} {insn : Instruction} {call : HookCall}
      (here : flow.instructions[label]? = some insn) (means : Means pool hooks insn call)
      (may : call ≠ .ends) (stays : insn.opcode.isReturn = false)
      (leads : flow.Leads label (.caught index) (some target)) :
      WalkStep pool hooks flow ⟨label, begun, ended⟩ ⟨target, begun, ended⟩
  | done {label begun ended target : Nat} {insn : Instruction} {call : HookCall} {exit : Exit}
      (here : flow.instructions[label]? = some insn) (means : Means pool hooks insn call)
      (stays : insn.opcode.isReturn = false) (normal : exit = .next ∨ ∃ index, exit = .jump index)
      (leads : flow.Leads label exit (some target)) :
      WalkStep pool hooks flow ⟨label, begun, ended⟩
        ⟨target, begun + (if call = .begins then 1 else 0), ended + (if call = .ends then 1 else 0)⟩

/-- What a walk must not meet. -/
inductive Violates (pool : ConstantPool) (hooks : Hooks) (flow : Flow) : HookState → Prop
  | fallsOff {label begun ended : Nat} (outside : flow.instructions.size ≤ label) :
      Violates pool hooks flow ⟨label, begun, ended⟩
  | secondBegin {label begun ended : Nat} {insn : Instruction}
      (here : flow.instructions[label]? = some insn) (means : Means pool hooks insn .begins)
      (again : 0 < begun) : Violates pool hooks flow ⟨label, begun, ended⟩
  | unmatchedEnd {label begun ended : Nat} {insn : Instruction}
      (here : flow.instructions[label]? = some insn) (means : Means pool hooks insn .ends)
      (unmatched : begun ≤ ended) : Violates pool hooks flow ⟨label, begun, ended⟩
  | openReturn {label begun ended : Nat} {insn : Instruction}
      (here : flow.instructions[label]? = some insn) (returns : insn.opcode.isReturn = true)
      (unpaired : ¬(begun = 1 ∧ ended = 1)) : Violates pool hooks flow ⟨label, begun, ended⟩
  | escapes {label begun ended : Nat} {insn : Instruction} {call : HookCall}
      (here : flow.instructions[label]? = some insn) (means : Means pool hooks insn call)
      (may : call ≠ .ends) (stays : insn.opcode.isReturn = false)
      (leads : flow.Leads label .escaped none) (differ : begun ≠ ended) :
      Violates pool hooks flow ⟨label, begun, ended⟩

/-- The states that a finite walk can come to. -/
def Walked (pool : ConstantPool) (hooks : Hooks) (flow : Flow) : HookState → Prop :=
  Relation.ReflTransGen (WalkStep pool hooks flow) .start

/-- A payload of code that can be read, and through which no walk meets a violation if it calls the
begin hook at all. -/
def Pairs (pool : ConstantPool) (hooks : Hooks) (info : Bytes) : Prop :=
  ∃ body code handlers, Body.parse info = .ok body ∧ Decoded.ofCode body.code = .ok code ∧
    code.handlers body.exceptions = .ok handlers ∧
    (∀ insn ∈ code.instructions, Resolves pool insn) ∧
    ((∃ insn ∈ code.instructions, Means pool hooks insn .begins) →
      ∀ s, Walked pool hooks ⟨code.instructions, handlers⟩ s →
        ¬Violates pool hooks ⟨code.instructions, handlers⟩ s)

section Meaning

theorem Means.unique {call' : HookCall} (h : Means pool hooks insn call)
    (h' : Means pool hooks insn call') : call = call' := by
  cases h with
  | begins begins =>
    cases h' with
    | begins => rfl
    | ends no => exact absurd begins no
    | other no _ => exact absurd begins no
  | ends no ends =>
    cases h' with
    | begins begins => exact absurd begins no
    | ends => rfl
    | other _ no' => exact absurd ends no'
  | other no no' =>
    cases h' with
    | begins begins => exact absurd begins no
    | ends _ ends => exact absurd ends no'
    | other => rfl

theorem Means.of_not_static (h : insn.opcode ≠ Opcode.invokestatic) :
    Means pool hooks insn .other :=
  .other (fun calls => h calls.1) (fun calls => h calls.1)

/-- A return calls nothing. -/
theorem Means.eq_other (h : Means pool hooks insn call) (returns : insn.opcode.isReturn = true) :
    call = .other := by
  refine h.unique (.of_not_static fun same => ?_)
  rw [same] at returns
  exact absurd returns (by decide)

theorem callsNamed_iff {name : String} {index : UInt16} {callee : MemberRef}
    (static : insn.opcode = Opcode.invokestatic) (operand : insn.indexOperand? = some index)
    (resolved : pool.memberRef index = .ok callee) :
    CallsNamed pool hooks name insn ↔ callee.owner = hooks.owner ∧ callee.name = name := by
  constructor
  · rintro ⟨_, index', callee', operand', resolved', names⟩
    cases operand.symm.trans operand'
    cases resolved.symm.trans resolved'
    exact names
  · exact fun names => ⟨static, index, callee, operand, resolved, names⟩

theorem hookCall_eq_ok_iff :
    hookCall pool hooks insn = .ok call ↔ Resolves pool insn ∧ Means pool hooks insn call := by
  have settle {found : HookCall} (resolves : Resolves pool insn)
      (means : Means pool hooks insn found) :
      .ok found = (.ok call : Except ClassFileError HookCall) ↔
        Resolves pool insn ∧ Means pool hooks insn call := by
    constructor
    · rintro ⟨⟩
      exact ⟨resolves, means⟩
    · rintro ⟨_, means'⟩
      rw [means.unique means']
  unfold hookCall
  split
  · next plain => exact settle (fun static => absurd static plain) (.of_not_static plain)
  · next static =>
    rw [ne_eq, not_not] at static
    cases operand : insn.indexOperand? with
    | none =>
      have calls (name : String) : ¬CallsNamed pool hooks name insn := by
        rintro ⟨_, index, _, h, _⟩
        rw [operand] at h
        cases h
      refine settle (fun _ index h => ?_) (.other (calls _) (calls _))
      rw [operand] at h
      cases h
    | some index =>
      dsimp only
      cases resolved : pool.memberRef index with
      | error fault =>
        constructor
        · rintro ⟨⟩
        · rintro ⟨resolves, _⟩
          obtain ⟨callee, h⟩ := resolves static index operand
          rw [resolved] at h
          cases h
      | ok callee =>
        have resolves : Resolves pool insn := by
          intro _ index' operand'
          cases operand.symm.trans operand'
          exact ⟨callee, resolved⟩
        have names (name : String) : CallsNamed pool hooks name insn ↔
            callee.owner = hooks.owner ∧ callee.name = name :=
          callsNamed_iff static operand resolved
        change (if _ then _ else _) = _ ↔ _
        split
        · next begins => exact settle resolves (.begins ((names _).mpr begins))
        · next no =>
          have no := mt (names _).mp no
          change (if _ then _ else _) = _ ↔ _
          split
          · next ends => exact settle resolves (.ends no ((names _).mpr ends))
          · next no' => exact settle resolves (.other no (mt (names _).mp no'))

end Meaning

section Dispatch

variable {label target : Nat} {handler : Handler} {handlers : List Handler}

theorem mem_dispatch_iff : handler ∈ (dispatch label handlers).1 ↔
    ∃ index : Nat, handlers[index]? = some handler ∧ handler.covers label = true ∧
      ∀ j < index, ∀ earlier : Handler, handlers[j]? = some earlier → earlier.covers label = true →
        earlier.catchType ≠ 0 := by
  induction handlers with
  | nil => simp [dispatch]
  | cons first rest ih =>
    -- Of the handlers behind the first one those are met that are met behind nothing but itself.
    have behind : (∃ index : Nat, (first :: rest)[index]? = some handler ∧
        handler.covers label = true ∧ ∀ j < index, ∀ earlier : Handler,
          (first :: rest)[j]? = some earlier → earlier.covers label = true →
            earlier.catchType ≠ 0) ↔
        (handler = first ∧ handler.covers label = true) ∨
          ((first.covers label = true → first.catchType ≠ 0) ∧
            handler ∈ (dispatch label rest).1) := by
      rw [ih]
      constructor
      · rintro ⟨index, here, covers, passes⟩
        cases index with
        | zero => exact .inl ⟨(Option.some.inj here).symm, covers⟩
        | succ index =>
          refine .inr ⟨passes 0 (Nat.succ_pos _) first rfl, index, here, covers, ?_⟩
          exact fun j lt earlier h => passes (j + 1) (Nat.succ_lt_succ lt) earlier h
      · rintro (⟨rfl, covers⟩ | ⟨past, index, here, covers, passes⟩)
        · exact ⟨0, rfl, covers, fun j lt => absurd lt (Nat.not_lt_zero j)⟩
        · refine ⟨index + 1, here, covers, fun j lt earlier h => ?_⟩
          cases j with
          | zero => exact Option.some.inj h ▸ past
          | succ j => exact passes j (Nat.lt_of_succ_lt_succ lt) earlier h
    rw [behind, dispatch]
    split
    · next covers =>
      split
      · next all =>
        rw [List.mem_singleton]
        constructor
        · rintro rfl
          exact .inl ⟨rfl, covers⟩
        · rintro (⟨rfl, _⟩ | ⟨past, _⟩)
          · rfl
          · exact absurd all (past covers)
      · next some =>
        rw [List.mem_cons]
        refine or_congr ⟨fun h => ⟨h, h ▸ covers⟩, fun h => h.1⟩ ?_
        exact ⟨fun h => ⟨fun _ => some, h⟩, fun h => h.2⟩
    · next no =>
      constructor
      · exact fun h => .inr ⟨fun covers => absurd covers no, h⟩
      · rintro (⟨rfl, covers⟩ | ⟨_, h⟩)
        · exact absurd covers no
        · exact h

theorem dispatch_snd_iff : (dispatch label handlers).2 = false ↔
    ∀ handler ∈ handlers, handler.covers label = true → handler.catchType ≠ 0 := by
  induction handlers with
  | nil => simp [dispatch]
  | cons first rest ih =>
    rw [List.forall_mem_cons, dispatch]
    split
    · next covers =>
      split
      · next all => simp [covers, all]
      · next some => simp [some, ih]
    · next no => simp [no, ih]

theorem leads_caught_iff (inside : label < flow.instructions.size) :
    target ∈ (dispatch label flow.handlers).1.map (·.handler) ↔
      ∃ index, flow.Leads label (.caught index) (some target) := by
  rw [List.mem_map]
  constructor
  · rintro ⟨handler, hm, rfl⟩
    obtain ⟨index, here, covers, passes⟩ := mem_dispatch_iff.mp hm
    exact ⟨index, .caught inside passes here covers⟩
  · rintro ⟨index, leads⟩
    cases leads with
    | caught _ passes here covers =>
      exact ⟨_, mem_dispatch_iff.mpr ⟨index, here, covers, passes⟩, rfl⟩

theorem leads_escaped_iff (inside : label < flow.instructions.size) :
    (dispatch label flow.handlers).2 = false ↔ flow.Leads label .escaped none := by
  rw [dispatch_snd_iff]
  constructor
  · intro no
    exact .escaped inside fun j _ handler h => no handler (List.mem_of_getElem? h)
  · rintro (_ | _ | _ | _ | ⟨_, passes⟩) handler hm
    obtain ⟨j, lt, h⟩ := List.mem_iff_getElem.mp hm
    exact passes j lt handler (List.getElem?_eq_some_iff.mpr ⟨lt, h⟩)

theorem mem_thrown_iff (inside : label < flow.instructions.size) :
    target ∈ (if call = .ends ∨ insn.opcode.isReturn = true then []
      else (dispatch label flow.handlers).1.map (·.handler)) ↔
      call ≠ .ends ∧ insn.opcode.isReturn = false ∧
        ∃ index, flow.Leads label (.caught index) (some target) := by
  rw [← leads_caught_iff inside, ← and_assoc, ← Bool.not_eq_true, ne_eq, ← not_or]
  split
  · next quiet => simp [quiet]
  · next loud => exact (and_iff_right loud).symm

/-- The places to which an instruction that is no return leads without an exception. -/
theorem mem_continued_iff (here : flow.instructions[label]? = some insn) :
    target ∈ (if insn.opcode.isReturn = true then []
      else insn.targets ++ if insn.endsBlock then [] else [label + 1]) ↔
      insn.opcode.isReturn = false ∧ ∃ exit, (exit = .next ∨ ∃ index, exit = .jump index) ∧
        flow.Leads label exit (some target) := by
  cases insn.opcode.isReturn with
  | true => simp
  | false =>
    rw [if_neg Bool.false_ne_true, List.mem_append]
    constructor
    · rintro (jump | goes)
      · obtain ⟨index, ht⟩ := List.getElem?_of_mem jump
        exact ⟨rfl, _, .inr ⟨index, rfl⟩, .jump here ht⟩
      · cases block : insn.endsBlock with
        | true => simp [block] at goes
        | false =>
          obtain rfl : target = label + 1 := by simpa [block] using goes
          exact ⟨rfl, _, .inl rfl, .next here block⟩
    · rintro ⟨_, exit, rfl | ⟨index, rfl⟩, leads⟩
      · cases leads with
        | next here' goes =>
          cases here.symm.trans here'
          exact .inr (by simp [goes])
      · cases leads with
        | jump here' goes =>
          cases here.symm.trans here'
          exact .inl (List.mem_of_getElem? goes)

end Dispatch

section Steps

variable {walk : Walk} {label : Nat} {calls after : Calls} {targets : List Label}

theorem thrown_eq_ok_iff : thrown walk insn call label calls = .ok targets ↔
    (call ≠ .ends → insn.opcode.isReturn = false → (dispatch label walk.handlers).2 = false →
      calls.begun = calls.ended) ∧
    targets = if call = .ends ∨ insn.opcode.isReturn = true then []
      else (dispatch label walk.handlers).1.map (·.handler) := by
  unfold thrown
  by_cases quiet : call = .ends ∨ insn.opcode.isReturn = true
  · rw [if_pos quiet, if_pos quiet]
    have may (no : call ≠ .ends) (stays : insn.opcode.isReturn = false) : False := by
      rcases quiet with h | h
      · exact no h
      · rw [stays] at h
        cases h
    constructor
    · rintro ⟨⟩
      exact ⟨fun no stays => (may no stays).elim, rfl⟩
    · rintro ⟨_, rfl⟩
      rfl
  · rw [if_neg quiet, if_neg quiet]
    rw [not_or, Bool.not_eq_true] at quiet
    dsimp only
    split
    · next escapes =>
      constructor
      · rintro ⟨⟩
      · rintro ⟨paired, _⟩
        exact absurd (paired quiet.1 quiet.2 (by simpa using escapes.1)) escapes.2
    · next held =>
      constructor
      · rintro ⟨⟩
        refine ⟨fun _ _ uncaught => ?_, rfl⟩
        by_contra differ
        exact held ⟨by simpa using uncaught, differ⟩
      · rintro ⟨_, rfl⟩
        rfl

theorem performed_eq_ok_iff : performed walk call label calls = .ok after ↔
    (call = .begins → calls.begun = false) ∧
    (call = .ends → calls.begun = true ∧ calls.ended = false) ∧
    after = ⟨calls.begun || decide (call = .begins), calls.ended || decide (call = .ends)⟩ := by
  obtain ⟨begun, ended⟩ := calls
  cases call <;> cases begun <;> cases ended <;> simp [performed, eq_comm (b := after)]

theorem continued_eq_ok_iff : continued walk insn label calls = .ok targets ↔
    (insn.opcode.isReturn = true → calls.begun = true ∧ calls.ended = true) ∧
    targets = if insn.opcode.isReturn = true then []
      else insn.targets ++ if insn.endsBlock then [] else [label + 1] := by
  unfold continued
  cases insn.opcode.isReturn with
  | false => simp [eq_comm (b := targets)]
  | true =>
    obtain ⟨begun, ended⟩ := calls
    cases begun <;> cases ended <;> simp [eq_comm (b := targets)]

theorem next_eq_ok_iff {pushed : List Nat} : next walk label calls = .ok pushed ↔
    ∃ insn call targets after others, walk.instructions[label]? = some (insn, call) ∧
      thrown walk insn call label calls = .ok targets ∧
      performed walk call label calls = .ok after ∧
      continued walk insn label after = .ok others ∧
      pushed = targets.map (place · calls) ++ others.map (place · after) := by
  unfold next
  constructor
  · intro h
    split at h
    · cases h
    · next insn call here =>
      obtain ⟨targets, ht, h⟩ := Except.bind_eq_ok_iff.mp h
      obtain ⟨after, ha, h⟩ := Except.bind_eq_ok_iff.mp h
      obtain ⟨others, ho, h⟩ := Except.bind_eq_ok_iff.mp h
      exact ⟨insn, call, targets, after, others, here, ht, ha, ho,
        (Except.pure_eq_ok_iff.mp h).symm⟩
  · rintro ⟨insn, call, targets, after, others, here, ht, ha, ho, rfl⟩
    rw [here]
    dsimp only
    rw [ht]
    change (performed walk call label calls >>= _) = _
    rw [ha]
    change (continued walk insn label after >>= _) = _
    rw [ho]
    rfl

end Steps

/-- The state of a walk that a state of the search stands for. -/
def stateWith (label : Nat) (calls : Calls) : HookState :=
  ⟨label, calls.begun.toNat, calls.ended.toNat⟩

def stateAt (place : Nat) : HookState :=
  stateWith (stateOf place).1 (stateOf place).2

theorem stateOf_place (label : Nat) (calls : Calls) :
    stateOf (place label calls) = (label, calls) := by
  obtain ⟨begun, ended⟩ := calls
  have first := begun.toNat_le
  have last := ended.toNat_le
  have front : (4 * label + 2 * begun.toNat + ended.toNat) / 4 = label := by omega
  have middle : (4 * label + 2 * begun.toNat + ended.toNat) / 2 % 2 = begun.toNat := by omega
  have back : (4 * label + 2 * begun.toNat + ended.toNat) % 2 = ended.toNat := by omega
  rw [stateOf, place, front, middle, back]
  cases begun <;> cases ended <;> rfl

theorem stateAt_place (label : Nat) (calls : Calls) :
    stateAt (place label calls) = stateWith label calls := by
  rw [stateAt, stateOf_place]

theorem exists_place_iff {targets others : List Nat} {calls after : Calls} {t : HookState} :
    (∃ found ∈ targets.map (place · calls) ++ others.map (place · after), stateAt found = t) ↔
      (∃ target ∈ targets, stateWith target calls = t) ∨
        ∃ target ∈ others, stateWith target after = t := by
  simp [or_and_right, exists_or, stateAt_place]

/-- A call that violates nothing is counted. -/
theorem stateWith_performed {calls : Calls} (target : Nat)
    (first : call = .begins → calls.begun = false)
    (matched : call = .ends → calls.begun = true ∧ calls.ended = false) :
    stateWith target ⟨calls.begun || decide (call = .begins), calls.ended || decide (call = .ends)⟩
      = ⟨target, calls.begun.toNat + (if call = .begins then 1 else 0),
          calls.ended.toNat + (if call = .ends then 1 else 0)⟩ := by
  cases call with
  | begins => simp [stateWith, first rfl]
  | ends => simp [stateWith, matched rfl]
  | other => simp [stateWith]

theorem toNat_eq_toNat_iff {begun ended : Bool} : begun.toNat = ended.toNat ↔ begun = ended := by
  cases begun <;> cases ended <;> simp

theorem toNat_le_toNat_iff {begun ended : Bool} :
    begun.toNat ≤ ended.toNat ↔ ¬(begun = true ∧ ended = false) := by
  cases begun <;> cases ended <;> simp

/-- A method in the form in which it is walked: its instructions with what they mean. -/
structure Marks (pool : ConstantPool) (hooks : Hooks) (flow : Flow) (walk : Walk) : Prop where
  size : walk.instructions.size = flow.instructions.size
  means : ∀ (label : Nat) insn call, walk.instructions[label]? = some (insn, call) →
    flow.instructions[label]? = some insn ∧ Means pool hooks insn call
  handlers : walk.handlers = flow.handlers

namespace Marks

variable {walk : Walk} {label : Nat} {calls : Calls} {pushed : List Nat} {t : HookState}

theorem exists_mark (marks : Marks pool hooks flow walk)
    (h : flow.instructions[label]? = some insn) :
    ∃ call, walk.instructions[label]? = some (insn, call) ∧ Means pool hooks insn call := by
  have inside : label < walk.instructions.size :=
    marks.size ▸ (Array.getElem?_eq_some_iff.mp h).1
  have here := Array.getElem?_eq_getElem inside
  obtain ⟨here', means⟩ := marks.means label _ _ here
  cases h.symm.trans here'
  exact ⟨_, here, means⟩

/-- The search goes on from a state just when it violates nothing. -/
theorem exists_next_iff (marks : Marks pool hooks flow walk) :
    (∃ pushed, next walk label calls = .ok pushed) ↔
      ¬Violates pool hooks flow (stateWith label calls) := by
  constructor
  · rintro ⟨pushed, h⟩ violates
    obtain ⟨insn, call, targets, after, others, here, ht, ha, ho, _⟩ := next_eq_ok_iff.mp h
    obtain ⟨here', means⟩ := marks.means _ _ _ here
    have inside := (Array.getElem?_eq_some_iff.mp here').1
    obtain ⟨paired, _⟩ := thrown_eq_ok_iff.mp ht
    obtain ⟨first, matched, rfl⟩ := performed_eq_ok_iff.mp ha
    obtain ⟨closed, _⟩ := continued_eq_ok_iff.mp ho
    unfold stateWith at violates
    cases violates with
    | fallsOff outside => omega
    | secondBegin here'' means' again =>
      cases here'.symm.trans here''
      simp [first (means.unique means')] at again
    | unmatchedEnd here'' means' unmatched =>
      cases here'.symm.trans here''
      simp [matched (means.unique means')] at unmatched
    | openReturn here'' returns unpaired =>
      cases here'.symm.trans here''
      obtain rfl := means.eq_other returns
      simp only [reduceCtorEq, decide_false, Bool.or_false] at closed
      simp [closed returns] at unpaired
    | escapes here'' means' may stays leads differ =>
      cases here'.symm.trans here''
      obtain rfl := means.unique means'
      rw [marks.handlers] at paired
      exact differ (congrArg _ (paired may stays ((leads_escaped_iff inside).mpr leads)))
  · intro fine
    have inside : label < flow.instructions.size := by
      by_contra outside
      exact fine (.fallsOff (Nat.not_lt.mp outside))
    obtain ⟨call, here, means⟩ := marks.exists_mark (Array.getElem?_eq_getElem inside)
    have here' := (marks.means _ _ _ here).1
    refine ⟨_, next_eq_ok_iff.mpr ⟨_, call, _, _, _, here,
      thrown_eq_ok_iff.mpr ⟨fun may stays uncaught => ?thrown, rfl⟩,
      performed_eq_ok_iff.mpr ⟨fun begins => ?begins, fun ends => ?ends, rfl⟩,
      continued_eq_ok_iff.mpr ⟨fun returns => ?returns, rfl⟩, rfl⟩⟩
    case thrown =>
      rw [marks.handlers] at uncaught
      by_contra differ
      refine fine (.escapes here' means may stays ((leads_escaped_iff inside).mp uncaught) ?_)
      exact mt toNat_eq_toNat_iff.mp differ
    case begins =>
      subst begins
      by_contra again
      exact fine (.secondBegin here' means (by simp [again]))
    case ends =>
      subst ends
      by_contra unmatched
      exact fine (.unmatchedEnd here' means (toNat_le_toNat_iff.mpr unmatched))
    case returns =>
      obtain rfl := means.eq_other returns
      by_contra unpaired
      refine fine (.openReturn here' returns fun paired => unpaired ?_)
      simpa using paired

/-- The search goes on to just the states to which a step of a walk leads. -/
theorem mem_next_iff (marks : Marks pool hooks flow walk)
    (h : next walk label calls = .ok pushed) :
    (∃ place ∈ pushed, stateAt place = t) ↔ WalkStep pool hooks flow (stateWith label calls) t := by
  obtain ⟨insn, call, targets, after, others, here, ht, ha, ho, rfl⟩ := next_eq_ok_iff.mp h
  obtain ⟨here', means⟩ := marks.means _ _ _ here
  have inside := (Array.getElem?_eq_some_iff.mp here').1
  obtain ⟨_, rfl⟩ := thrown_eq_ok_iff.mp ht
  obtain ⟨first, matched, rfl⟩ := performed_eq_ok_iff.mp ha
  obtain ⟨_, rfl⟩ := continued_eq_ok_iff.mp ho
  rw [marks.handlers]
  have counted (target : Nat) := stateWith_performed target first matched
  rw [exists_place_iff]
  simp only [mem_thrown_iff inside, mem_continued_iff here', counted]
  constructor
  · rintro (⟨target, ⟨may, stays, index, leads⟩, rfl⟩ | ⟨target, ⟨stays, exit, normal, leads⟩, rfl⟩)
    · exact .thrown here' means may stays leads
    · exact .done here' means stays normal leads
  · intro step
    unfold stateWith at step
    cases step with
    | thrown here'' means' may stays leads =>
      cases here'.symm.trans here''
      obtain rfl := means.unique means'
      exact .inl ⟨_, ⟨may, stays, _, leads⟩, rfl⟩
    | done here'' means' stays normal leads =>
      cases here'.symm.trans here''
      obtain rfl := means.unique means'
      exact .inr ⟨_, ⟨stays, _, normal, leads⟩, rfl⟩

end Marks

end Balance

end MethodTrace
