import MethodTrace.Proofs.BalanceWalks
import MethodTrace.Proofs.Exploration

/-!
The check of the balance of hook calls, against all walks through a method.

As a second call of a hook is a violation, the check sees all that a walk can meet. It accepts a
class just when every part of it that is looked at can be read, and no walk through a method with a
begin call meets a violation.
-/

namespace MethodTrace

namespace Balance

variable {pool : ConstantPool} {hooks : Hooks} {flow : Flow} {insn : Instruction}

section Search

open Exploration

variable {walk : Walk}

/-- The states to which a state of the search leads. -/
def successors (walk : Walk) (found : Nat) : Unit → Except Imbalance (List (Nat × Unit)) :=
  fun _ => do return (← next walk (stateOf found).1 (stateOf found).2).map (·, ())

/-- The state in which a search begins. -/
def entrance : List (Nat × Unit) :=
  [(place 0 ⟨false, false⟩, ())]

/-- What a search comes to if it takes the pending states in some order. -/
def Searches (walk : Walk) (outcome : Option (Array (Option Unit))) : Prop :=
  Ends (successors walk) ⟨entrance, Array.replicate (4 * walk.instructions.size) none⟩ outcome

theorem successors_eq_ok_iff {found : Nat} {pushed : List (Nat × Unit)} :
    successors walk found () = .ok pushed ↔
      ∃ places, next walk (stateOf found).1 (stateOf found).2 = .ok places ∧
        pushed = places.map (·, ()) := by
  unfold successors
  rw [Except.bind_eq_ok_iff]
  simp only [Except.pure_eq_ok_iff, eq_comm (b := pushed)]

/-- The check is the search that takes the latest state first. -/
theorem searches_walkAll (walk : Walk) :
    ∃ outcome, Searches walk outcome ∧ (walkAll walk = .ok () ↔ outcome.isSome = true) := by
  let outside (found : Nat) : Imbalance := .fallsOff walk.name (stateOf found).1
  have ends : Searches walk (explore (successors walk) (fun found _ => outside found)
      (fun found _ _ => outside found) entrance
      (Array.replicate (4 * walk.instructions.size) none)).toOption := ends_explore _ _ _ _
  have run : walkAll walk = (explore (successors walk) (fun found _ => outside found)
      (fun found _ _ => outside found) entrance
      (Array.replicate (4 * walk.instructions.size) none)).map fun _ => () := rfl
  refine ⟨_, ends, ?_⟩
  rw [run]
  cases explore (successors walk) (fun found _ => outside found) (fun found _ _ => outside found)
    entrance (Array.replicate (4 * walk.instructions.size) none) with
  | error fault => exact ⟨nofun, nofun⟩
  | ok table => exact ⟨fun _ => rfl, fun _ => rfl⟩

theorem Searches.isSome_iff {outcome : Option (Array (Option Unit))}
    (h : Searches walk outcome) : outcome.isSome = true ↔
      Explorable (successors walk) entrance (4 * walk.instructions.size) := by
  rcases (Along.start _ _ _).ends h with ⟨rfl, no⟩ | ⟨table, rfl, along⟩
  · simpa using no
  · exact ⟨fun _ => along.explorable, fun _ => rfl⟩

namespace Marks

variable (marks : Marks pool hooks flow walk)
include marks

theorem walked_of_met {found : Nat} {value : Unit}
    (met : Met (successors walk) entrance found value) :
    Walked pool hooks flow (stateAt found) := by
  induction met with
  | first here =>
    cases List.mem_singleton.mp here
    rw [stateAt_place]
    exact .refl
  | @step found target _ _ pushed _ leads here ih =>
    obtain ⟨places, hn, rfl⟩ := successors_eq_ok_iff.mp leads
    obtain ⟨_, hm, same⟩ := List.mem_map.mp here
    cases same
    exact ih.tail ((marks.mem_next_iff hn).mp ⟨target, hm, rfl⟩)

/-- A search that does not fail meets all that a walk can come to. -/
theorem met_of_walked {size : Nat} {s : HookState}
    (explorable : Explorable (successors walk) entrance size) (h : Walked pool hooks flow s) :
    ∃ found, Met (successors walk) entrance found () ∧ stateAt found = s := by
  induction h with
  | refl => exact ⟨_, .first (List.mem_singleton.mpr rfl), stateAt_place _ _⟩
  | tail _ step ih =>
    obtain ⟨found, met, rfl⟩ := ih
    obtain ⟨pushed, leads⟩ := explorable.leads found () met
    obtain ⟨places, hn, rfl⟩ := successors_eq_ok_iff.mp leads
    obtain ⟨target, hm, same⟩ := (marks.mem_next_iff hn).mpr step
    exact ⟨target, met.step leads (List.mem_map_of_mem hm), same⟩

theorem explorable_iff :
    Explorable (successors walk) entrance (4 * walk.instructions.size) ↔
      ∀ s, Walked pool hooks flow s → ¬Violates pool hooks flow s := by
  constructor
  · intro explorable s walked
    obtain ⟨found, met, rfl⟩ := marks.met_of_walked explorable walked
    obtain ⟨_, leads⟩ := explorable.leads found () met
    obtain ⟨places, hn, _⟩ := successors_eq_ok_iff.mp leads
    exact marks.exists_next_iff.mp ⟨places, hn⟩
  · intro fine
    refine ⟨fun found _ met => ?_, fun found _ met => ?_, fun _ _ _ _ _ => rfl⟩
    · by_contra outside
      refine fine _ (marks.walked_of_met met) (.fallsOff ?_)
      rw [← marks.size]
      exact (Nat.le_div_iff_mul_le (by decide)).mpr (by omega)
    · obtain ⟨places, hn⟩ := marks.exists_next_iff.mpr (fine _ (marks.walked_of_met met))
      exact ⟨_, successors_eq_ok_iff.mpr ⟨places, hn, rfl⟩⟩

theorem walkAll_eq_ok_iff : walkAll walk = .ok () ↔
    ∀ s, Walked pool hooks flow s → ¬Violates pool hooks flow s := by
  obtain ⟨outcome, searches, same⟩ := searches_walkAll walk
  rw [same, searches.isSome_iff, marks.explorable_iff]

theorem any_begins_iff : walk.instructions.any (·.2 == .begins) = true ↔
    ∃ insn ∈ flow.instructions, Means pool hooks insn .begins := by
  rw [Array.any_eq_true']
  constructor
  · rintro ⟨⟨insn, call⟩, hm, begins⟩
    obtain ⟨label, here⟩ := Array.mem_iff_getElem?.mp hm
    obtain ⟨here', means⟩ := marks.means label insn call here
    cases eq_of_beq begins
    exact ⟨insn, Array.mem_of_getElem? here', means⟩
  · rintro ⟨insn, hm, begins⟩
    obtain ⟨label, here⟩ := Array.mem_iff_getElem?.mp hm
    obtain ⟨call, here', means⟩ := marks.exists_mark here
    cases means.unique begins
    exact ⟨_, Array.mem_of_getElem? here', rfl⟩

end Marks

end Search

section Reading

variable {method : Member} {name : String} {info : Bytes} {walk : Walk}

/-- The walk through a payload of code. -/
def walkOfCode (pool : ConstantPool) (hooks : Hooks) (name : String) (info : Bytes) :
    Except ClassFileError Walk := do
  let body ← Body.parse info
  let code ← Decoded.ofCode body.code
  let handlers ← code.handlers body.exceptions
  let marked ← code.instructions.toList.mapM fun insn => return (insn, ← hookCall pool hooks insn)
  return ⟨name, marked.toArray, handlers⟩

/-- The code that is looked at is the first attribute of its name. -/
theorem walkOf?_eq (pool : ConstantPool) (hooks : Hooks) (method : Member) :
    walkOf? pool hooks method = (pool.utf8 method.name >>= fun name =>
      match method.attributes.find? (Attribute.hasName pool "Code") with
      | none => pure none
      | some attr => some <$> walkOfCode pool hooks name attr.info) := by
  unfold walkOf? Member.attributeIndex?
  congr 1
  funext name
  cases found : method.attributes.findIdx? (Attribute.hasName pool "Code") with
  | none => rw [List.find?_eq_none.mpr (by simpa using List.findIdx?_eq_none_iff.mp found)]
  | some index =>
    obtain ⟨inside, named, before⟩ := List.findIdx?_eq_some_iff_getElem.mp found
    have first : method.attributes.find? (Attribute.hasName pool "Code")
        = some method.attributes[index] :=
      List.find?_eq_some_iff_getElem.mpr ⟨named, index, inside, rfl, by simpa using before⟩
    rw [first]
    dsimp only
    rw [List.getElem?_eq_getElem inside]
    dsimp only
    simp only [walkOfCode, map_bind, map_pure]

/-- What is true of an instruction and its mark. -/
def Marked (pool : ConstantPool) (hooks : Hooks) (insn : Instruction)
    (mark : Instruction × HookCall) : Prop :=
  Resolves pool insn ∧ mark.1 = insn ∧ Means pool hooks insn mark.2

theorem mark_eq_ok_iff {mark : Instruction × HookCall} :
    (hookCall pool hooks insn >>= fun call => pure (insn, call)) = .ok mark ↔
      Marked pool hooks insn mark := by
  rw [Except.bind_eq_ok_iff]
  constructor
  · rintro ⟨call, h, same⟩
    obtain rfl := Except.pure_eq_ok_iff.mp same
    obtain ⟨resolves, means⟩ := hookCall_eq_ok_iff.mp h
    exact ⟨resolves, rfl, means⟩
  · rintro ⟨resolves, rfl, means⟩
    exact ⟨mark.2, hookCall_eq_ok_iff.mpr ⟨resolves, means⟩, rfl⟩

theorem mapM_mark_iff {instructions : List Instruction} {marked : List (Instruction × HookCall)} :
    (instructions.mapM fun insn => hookCall pool hooks insn >>= fun call => pure (insn, call))
      = .ok marked ↔ List.Forall₂ (Marked pool hooks) instructions marked := by
  rw [Except.mapM_eq_ok_iff]
  simp only [mark_eq_ok_iff]

theorem exists_means (pool : ConstantPool) (hooks : Hooks) (insn : Instruction) :
    ∃ call, Means pool hooks insn call := by
  by_cases begins : CallsNamed pool hooks hooks.beginName insn
  · exact ⟨.begins, .begins begins⟩
  · by_cases ends : CallsNamed pool hooks hooks.endName insn
    · exact ⟨.ends, .ends begins ends⟩
    · exact ⟨.other, .other begins ends⟩

theorem walkOfCode_eq_ok_iff : walkOfCode pool hooks name info = .ok walk ↔
    ∃ body code handlers marked, Body.parse info = .ok body ∧ Decoded.ofCode body.code = .ok code ∧
      code.handlers body.exceptions = .ok handlers ∧
      List.Forall₂ (Marked pool hooks) code.instructions.toList marked ∧
      walk = ⟨name, marked.toArray, handlers⟩ := by
  unfold walkOfCode
  constructor
  · intro h
    obtain ⟨body, hb, h⟩ := Except.bind_eq_ok_iff.mp h
    obtain ⟨code, hc, h⟩ := Except.bind_eq_ok_iff.mp h
    obtain ⟨handlers, hh, h⟩ := Except.bind_eq_ok_iff.mp h
    obtain ⟨marked, hm, same⟩ := Except.bind_eq_ok_iff.mp h
    exact ⟨body, code, handlers, marked, hb, hc, hh, mapM_mark_iff.mp hm,
      (Except.pure_eq_ok_iff.mp same).symm⟩
  · rintro ⟨body, code, handlers, marked, hb, hc, hh, hm, rfl⟩
    exact Except.bind_eq_ok_iff.mpr ⟨body, hb, Except.bind_eq_ok_iff.mpr ⟨code, hc,
      Except.bind_eq_ok_iff.mpr ⟨handlers, hh, Except.bind_eq_ok_iff.mpr
        ⟨marked, mapM_mark_iff.mpr hm, rfl⟩⟩⟩⟩

theorem marks_of_forall₂ {instructions : Array Instruction} {marked : List (Instruction × HookCall)}
    (name : String) (handlers : List Handler)
    (h : List.Forall₂ (Marked pool hooks) instructions.toList marked) :
    Marks pool hooks ⟨instructions, handlers⟩ ⟨name, marked.toArray, handlers⟩ := by
  refine ⟨h.length_eq.symm, fun label insn call here => ?_, rfl⟩
  rw [List.getElem?_toArray] at here
  obtain ⟨inside, same⟩ := List.getElem?_eq_some_iff.mp here
  have inside' : label < instructions.toList.length := h.length_eq ▸ inside
  have mark : Marked pool hooks instructions.toList[label] marked[label] := h.get inside' inside
  rw [same] at mark
  obtain ⟨_, first, means⟩ := mark
  dsimp only at first means
  rw [← first] at means
  refine ⟨?_, means⟩
  rw [first, Array.getElem_toList]
  exact Array.getElem?_eq_getElem inside'

/-- The hook calls of a payload pair just when it can be walked through and the walk through it, if
it begins at all, is accepted. -/
theorem pairs_iff (name : String) : Pairs pool hooks info ↔ ∃ walk,
    walkOfCode pool hooks name info = .ok walk ∧
      (walk.instructions.any (·.2 == .begins) = true → walkAll walk = .ok ()) := by
  constructor
  · rintro ⟨body, code, handlers, hb, hc, hh, resolves, fine⟩
    choose call means using exists_means pool hooks
    have hm : List.Forall₂ (Marked pool hooks) code.instructions.toList
        (code.instructions.toList.map fun insn => (insn, call insn)) :=
      List.forall₂_map_right_iff.mpr (List.forall₂_same.mpr fun insn hi =>
        ⟨resolves insn (Array.mem_def.mpr hi), rfl, means insn⟩)
    refine ⟨_, walkOfCode_eq_ok_iff.mpr ⟨body, code, handlers, _, hb, hc, hh, hm, rfl⟩, ?_⟩
    have marks := marks_of_forall₂ name handlers hm
    rw [marks.any_begins_iff, marks.walkAll_eq_ok_iff]
    exact fine
  · rintro ⟨walk, h, fine⟩
    obtain ⟨body, code, handlers, marked, hb, hc, hh, hm, rfl⟩ := walkOfCode_eq_ok_iff.mp h
    have marks := marks_of_forall₂ name handlers hm
    rw [marks.any_begins_iff, marks.walkAll_eq_ok_iff] at fine
    refine ⟨body, code, handlers, hb, hc, hh, fun insn hi => ?_, fine⟩
    obtain ⟨_, _, resolves, _⟩ := forall₂_exists_left hm.flip (Array.mem_def.mp hi)
    exact resolves

theorem checkMethod_eq_ok_iff : checkMethod pool hooks method = .ok () ↔
    (∃ name, pool.utf8 method.name = .ok name) ∧
    ∀ attr, method.attributes.find? (Attribute.hasName pool "Code") = some attr →
      Pairs pool hooks attr.info := by
  have check : checkMethod pool hooks method = .ok () ↔
      ∃ walk, walkOf? pool hooks method = .ok walk ∧ ∀ found ∈ walk,
        found.instructions.any (·.2 == .begins) = true → walkAll found = .ok () := by
    unfold checkMethod
    cases walkOf? pool hooks method with
    | error fault => exact ⟨nofun, nofun⟩
    | ok walk =>
      cases walk with
      | none => exact ⟨fun _ => ⟨none, rfl, nofun⟩, fun _ => rfl⟩
      | some found =>
        dsimp only
        split
        · next begins =>
          constructor
          · exact fun h => ⟨_, rfl, fun _ same _ => Option.some.inj same ▸ h⟩
          · rintro ⟨_, same, fine⟩
            cases same
            exact fine found rfl begins
        · next no =>
          refine ⟨fun _ => ⟨_, rfl, fun _ same begins => ?_⟩, fun _ => rfl⟩
          cases same
          exact absurd begins no
  rw [check, walkOf?_eq]
  constructor
  · rintro ⟨walk, h, fine⟩
    obtain ⟨name, hn, h⟩ := Except.bind_eq_ok_iff.mp h
    refine ⟨⟨name, hn⟩, fun attr ha => ?_⟩
    rw [ha] at h
    obtain ⟨found, hw, rfl⟩ := Except.map_eq_ok_iff.mp h
    exact (pairs_iff name).mpr ⟨found, hw, fine found rfl⟩
  · rintro ⟨⟨name, hn⟩, pairs⟩
    cases first : method.attributes.find? (Attribute.hasName pool "Code") with
    | none => exact ⟨none, Except.bind_eq_ok_iff.mpr ⟨name, hn, rfl⟩, nofun⟩
    | some attr =>
      obtain ⟨walk, hw, fine⟩ := (pairs_iff name).mp (pairs attr first)
      refine ⟨some walk, Except.bind_eq_ok_iff.mpr ⟨name, hn, ?_⟩, fun found hf => ?_⟩
      · exact Except.map_eq_ok_iff.mpr ⟨walk, hw, rfl⟩
      · cases hf
        exact fine

end Reading

end Balance

/-- The check accepts a class just when it can be read, each method has a name, and the first `Code`
attribute of each method pairs its hook calls. The search through a method comes to an end in
whatever order it takes the pending states, and always with the same verdict. -/
theorem checkBalance_eq_ok_iff (data : Bytes) (hooks : Hooks) :
    (checkBalance data hooks = .ok () ↔ ∃ file, ClassFile.parse data = .ok file ∧
      ∀ method ∈ file.methods, (∃ name, file.pool.utf8 method.name = .ok name) ∧
        ∀ attr, method.attributes.find? (Attribute.hasName file.pool "Code") = some attr →
          Balance.Pairs file.pool hooks attr.info) ∧
    ∀ walk : Balance.Walk,
      (WellFounded fun after before => Exploration.Step (Balance.successors walk) before after) ∧
      ∀ outcome, Balance.Searches walk outcome →
        (outcome.isSome = true ↔ Balance.walkAll walk = .ok ()) := by
  refine ⟨?_, fun walk => ⟨Exploration.wellFounded_step _, fun outcome searches => ?_⟩⟩
  · have check : checkBalance data hooks = .ok () ↔ ∃ file, ClassFile.parse data = .ok file ∧
        ∀ method ∈ file.methods, Balance.checkMethod file.pool hooks method = .ok () := by
      unfold checkBalance
      cases ClassFile.parse data with
      | error fault => exact ⟨nofun, nofun⟩
      | ok file =>
        dsimp only
        simp only [Except.ok.injEq, exists_eq_left', ← Except.exists_mapM_iff]
        rw [Except.bind_eq_ok_iff]
        exact ⟨fun ⟨_, h, _⟩ => ⟨_, h⟩, fun ⟨_, h⟩ => ⟨_, h, rfl⟩⟩
    simp only [check, Balance.checkMethod_eq_ok_iff]
  · obtain ⟨latest, searches', same⟩ := Balance.searches_walkAll walk
    rw [same, searches.isSome_iff, searches'.isSome_iff]

/-- A class that can be read and all whose code, in whatever attribute, pairs its hook calls. -/
def AllPair (data : Bytes) (hooks : Hooks) : Prop :=
  ∃ file, ClassFile.parse data = .ok file ∧ ∀ method ∈ file.methods, ∀ attr ∈ method.attributes,
    attr.hasName file.pool "Code" = true → Balance.Pairs file.pool hooks attr.info

/-- A class with a method whose name is in no slot of the pool. -/
def namelessMethod : ClassFile where
  minorVersion := 0
  majorVersion := 49
  pool := ⟨#[.unusable, .utf8 [0x41], .classRef 1]⟩
  access := 0
  thisClass := 2
  superClass := 0
  interfaces := []
  fields := []
  methods := [⟨0x400, 0, 1, []⟩]
  attributes := []

/-- A class with a method that has a body, and behind it an attribute of the same name that is
empty. -/
def secondBody : ClassFile where
  minorVersion := 0
  majorVersion := 49
  pool := ⟨#[.unusable, .utf8 [0x41], .classRef 1, .utf8 [0x6d], .utf8 [0x28, 0x29, 0x56],
    .utf8 [0x43, 0x6f, 0x64, 0x65]]⟩
  access := 0
  thisClass := 2
  superClass := 0
  interfaces := []
  fields := []
  methods := [⟨0x9, 3, 4, [⟨5, Body.toBytes ⟨0, 0, [0xb1], [], []⟩⟩, ⟨5, []⟩]⟩]
  attributes := []

/-- Methods are asked for their names although only messages need them, and of the attributes called
`Code` only the first is looked at. -/
theorem not_checkBalance_eq_ok_iff :
    ¬(checkBalance namelessMethod.toBytes {} = .ok () ↔ AllPair namelessMethod.toBytes {}) ∧
      ¬(checkBalance secondBody.toBytes {} = .ok () ↔ AllPair secondBody.toBytes {}) := by
  constructor
  · intro h
    have parsed : ClassFile.parse namelessMethod.toBytes = .ok namelessMethod := by cbv
    have pairs : AllPair namelessMethod.toBytes {} := by
      refine ⟨namelessMethod, parsed, fun method hm attr ha => ?_⟩
      cases List.mem_singleton.mp hm
      cases ha
    have fails : checkBalance namelessMethod.toBytes {}
        = .error (.unreadable (.badConstantIndex 0 .utf8)) := by cbv
    cases fails.symm.trans (h.mpr pairs)
  · intro h
    have parsed : ClassFile.parse secondBody.toBytes = .ok secondBody := by cbv
    have fine : checkBalance secondBody.toBytes {} = .ok () := by cbv
    obtain ⟨file, hf, pairs⟩ := h.mp fine
    cases parsed.symm.trans hf
    obtain ⟨body, _, _, hb, _⟩ := pairs _ (List.mem_singleton.mpr rfl) ⟨5, []⟩ (by decide) (by cbv)
    have fails : Body.parse [] = .error (.truncated 0) := by cbv
    cases fails.symm.trans hb

end MethodTrace
