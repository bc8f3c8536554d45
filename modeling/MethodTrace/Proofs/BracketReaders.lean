import MethodTrace.Proofs.PatternReaders

/-!
What readers of classes in brackets take.

A class is read step by step: a step takes an item, an operation or the opening or the end of a
class, and leaves less than it finds. So the limit on the number of steps does not matter as long as
it is above what is left.
-/

namespace MethodTrace.Pattern

set_option synthInstance.maxSize 5000
set_option synthInstance.maxHeartbeats 200000

/-- The next character after the present one that is not skipped. -/
def Scan.pastBlank (σ : Scan) : Option Char :=
  if !σ.verbose then σ.rest[1]?
  else match Scanner.dropMark σ.rest.tail with
    | c :: _ => some c
    | [] => σ.rest[1]?

namespace Scanner

variable {σ τ : Scan} {c : Char} {rest : List Char}

instance : Shrinks peekSecond? :=
  shrinks_get_bind fun _ => inferInstance

instance : Shrinks peekPastBlank? := by
  refine shrinks_get_bind fun σ => ?_
  split
  · infer_instance
  · split <;> infer_instance

theorem peekPastBlank?_eq (σ : Scan) : peekPastBlank? σ = some (σ.pastBlank, σ) := by
  unfold peekPastBlank? Scan.pastBlank
  rw [get_bind_eq]
  split
  · rfl
  · cases dropMark σ.rest.tail <;> rfl

theorem dropMark_of_solid (solid : isBlank c = false) (h : c ≠ '#') :
    dropMark (c :: rest) = c :: rest := by
  rw [dropMark, List.dropWhile_cons_of_neg (by simp [solid])]
  simp [h]

instance : Shrinks openClass := by
  unfold openClass
  dsimp only
  infer_instance

theorem spendsAt_openClass (left : σ.rest = c :: rest) : SpendsAt openClass σ :=
  (SpendsAt.bumpSkip left).bind_left

/-! ### ASCII classes -/

/-- An ASCII class as it is written. -/
def asciiMark (negated : Bool) (name : List Char) : List Char :=
  '[' :: ':' :: ((if negated then ['^'] else []) ++ (name ++ [':', ']']))

/-- Whether a text begins with a sign of negation, and the text behind it. -/
def splitNegation : List Char → Bool × List Char
  | '^' :: rest => (true, rest)
  | rest => (false, rest)

theorem splitNegation_append (text : List Char) :
    (if (splitNegation text).1 then ['^'] else []) ++ (splitNegation text).2 = text := by
  unfold splitNegation
  split <;> rfl

theorem splitNegation_eq {negated : Bool} {text : List Char} (h : text.head? ≠ some '^') :
    splitNegation ((if negated then ['^'] else []) ++ text) = (negated, text) := by
  cases negated with
  | true => rfl
  | false =>
    change splitNegation text = _
    unfold splitNegation
    split
    · exact absurd rfl h
    · rfl

/-- Reads the name of an ASCII class at the beginning of a text. -/
def asciiReader (text : List Char) : Scanner (Option ClassTree) := do
  match text with
  | '[' :: ':' :: rest =>
    let (negated, rest) := splitNegation rest
    let name := String.ofList (rest.takeWhile (· != ':'))
    match rest.dropWhile (· != ':'), asciiClasses.find? (·.1 == name) with
    | ':' :: ']' :: rest, some (_, ranges) =>
      modify ({ · with rest })
      return some (.ascii ranges negated)
    | _, _ => return none
  | _ => return none

theorem asciiClass?_eq : asciiClass? = attempt (get >>= fun s => asciiReader s.rest) := rfl

theorem asciiReader_cases (text : List Char) :
    asciiReader text = pure none ∨ ∃ negated name rest entry,
      text = asciiMark negated name ++ rest ∧
        asciiClasses.find? (·.1 == String.ofList name) = some entry := by
  unfold asciiReader
  split
  · rename_i rest
    dsimp only
    split
    · rename_i behind name ranges dropped found
      refine .inr ⟨(splitNegation rest).1, _, behind, _, ?_, found⟩
      simp only [asciiMark, List.cons_append, List.append_assoc, List.nil_append]
      rw [← eq_takeWhile_append dropped, splitNegation_append]
    · exact .inl rfl
  · exact .inl rfl

theorem asciiClasses_plain : ∀ entry ∈ asciiClasses,
    ':' ∉ entry.1.toList ∧ ')' ∉ entry.1.toList ∧ entry.1.toList.head? ≠ some '^' ∧
      entry.1.toList ≠ [] := by
  decide

section Named

variable {negated : Bool} {name : List Char} {entry : String × List (Nat × Nat)}

theorem plain_of_found (found : asciiClasses.find? (·.1 == String.ofList name) = some entry) :
    ':' ∉ name ∧ ')' ∉ name ∧ name.head? ≠ some '^' ∧ name ≠ [] := by
  have named : entry.1.toList = name := by
    have same := List.find?_some found
    rw [beq_iff_eq.mp same, String.toList_ofList]
  exact named ▸ asciiClasses_plain entry (List.mem_of_find?_eq_some found)

theorem asciiReader_mark (found : asciiClasses.find? (·.1 == String.ofList name) = some entry)
    (rest : List Char) :
    asciiReader (asciiMark negated name ++ rest) = do
      modify ({ · with rest })
      return some (.ascii entry.2 negated) := by
  obtain ⟨colon, -, sign, nonempty⟩ := plain_of_found found
  have head : (name ++ ':' :: ']' :: rest).head? ≠ some '^' := by
    rwa [List.head?_append_of_ne_nil _ nonempty]
  have text_eq : asciiMark negated name ++ rest
      = '[' :: ':' :: ((if negated then ['^'] else []) ++ (name ++ ':' :: ']' :: rest)) := by
    simp only [asciiMark, List.cons_append, List.append_assoc, List.nil_append]
  rw [text_eq, asciiReader, splitNegation_eq head]
  simp only [takeWhile_ne_append colon, dropWhile_ne_append colon, found]

theorem asciiClass?_mark (found : asciiClasses.find? (·.1 == String.ofList name) = some entry)
    (spelled : σ.rest = asciiMark negated name ++ rest) :
    asciiClass? σ = some (some (.ascii entry.2 negated), { σ with rest }) := by
  have read : (get >>= fun s => asciiReader s.rest) σ
      = some (some (.ascii entry.2 negated), { σ with rest }) := by
    rw [get_bind_eq, spelled, asciiReader_mark found]
    rfl
  rw [asciiClass?_eq, attempt, read]

end Named

theorem asciiClass?_cases (σ : Scan) : asciiClass? σ = some (none, σ) ∨
    ∃ negated name rest entry, σ.rest = asciiMark negated name ++ rest ∧
      asciiClasses.find? (·.1 == String.ofList name) = some entry := by
  refine (asciiReader_cases σ.rest).imp_left fun nothing => ?_
  have read : (get >>= fun s => asciiReader s.rest) σ = some (none, σ) := by
    rw [get_bind_eq, nothing]
    rfl
  rw [asciiClass?_eq, attempt, read]

instance : Shrinks asciiClass? where
  suffix σ item τ h := by
    obtain nothing | ⟨negated, name, rest, entry, spelled, found⟩ := asciiClass?_cases σ
    · cases nothing.symm.trans h
      exact List.suffix_rfl
    · cases (asciiClass?_mark found spelled).symm.trans h
      exact spelled ▸ List.suffix_append _ _

theorem asciiClass?_spends {item : Option ClassTree}
    (h : asciiClass? σ = some (item, τ)) :
    (item = none ∧ τ = σ) ∨ item.isSome ∧ τ.rest.length < σ.rest.length := by
  obtain nothing | ⟨negated, name, rest, entry, spelled, found⟩ := asciiClass?_cases σ
  · cases nothing.symm.trans h
    exact .inl ⟨rfl, rfl⟩
  · cases (asciiClass?_mark found spelled).symm.trans h
    refine .inr ⟨rfl, ?_⟩
    rw [spelled, asciiMark]
    simp only [List.cons_append, List.length_cons, List.length_append]
    omega

/-! ### Items -/

instance : Shrinks classPrimitive := by
  unfold classPrimitive
  infer_instance

instance (item : Primitive) : Shrinks (itemOf item) := by
  unfold itemOf
  split <;> infer_instance

instance (item : Primitive) : Shrinks (rangeEnd item) := by
  unfold rangeEnd
  split <;> infer_instance

/-- Reads the end of a range behind the hyphen. -/
def rangeBehind (first : Primitive) : Scanner ClassTree := do
  let final ← classPrimitive
  let first ← rangeEnd first
  let final ← rangeEnd final
  if final.char < first.char then failure
  return .range first final

instance (first : Primitive) : Shrinks (rangeBehind first) := by
  unfold rangeBehind
  dsimp only
  infer_instance

theorem classItem_eq : classItem = (do
    let first ← classPrimitive
    skip
    let c ← peek
    let next ← peekPastBlank?
    if c ≠ '-' ∨ next = some ']' ∨ next = some '-' then itemOf first
    else do
      bumpSkip
      rangeBehind first) := rfl

instance : Shrinks classItem := by
  rw [classItem_eq]
  infer_instance

theorem spendsAt_classPrimitive (σ : Scan) : SpendsAt classPrimitive σ :=
  .peek_bind fun _ _ left => (SpendsAt.bump left).bind_left

theorem spendsAt_classItem (σ : Scan) : SpendsAt classItem σ :=
  (spendsAt_classPrimitive σ).bind_left

/-! A word boundary is no item of a class, whatever is behind it. -/

theorem classPrimitive_boundary {item : Primitive} (left : σ.rest = '\\' :: 'b' :: rest)
    (h : classPrimitive σ = some (item, τ)) :
    ∃ assertion, item = .assertion assertion := by
  unfold classPrimitive at h
  rw [bind_of_some (peek_eq left)] at h
  obtain ⟨_, υ, bumped, h⟩ := bind_eq_some_iff.mp h
  cases modify_eq_some_iff.mp bumped
  have next : (Scan.mk σ.rest.tail σ.verbose σ.names).rest = 'b' :: rest := by
    rw [left, List.tail_cons]
  obtain ⟨assertion, same, -⟩ := escape_boundary next h
  exact ⟨assertion, same⟩

theorem classItem_boundary (left : σ.rest = '\\' :: 'b' :: rest) : classItem σ = none := by
  cases h : classItem σ with
  | none => rfl
  | some found =>
    rw [classItem_eq] at h
    obtain ⟨first, σ₁, read, h⟩ := bind_eq_some_iff.mp h
    obtain ⟨assertion, rfl⟩ := classPrimitive_boundary left read
    obtain ⟨-, σ₂, -, h⟩ := bind_eq_some_iff.mp h
    obtain ⟨c, σ₃, -, h⟩ := bind_eq_some_iff.mp h
    obtain ⟨next, σ₄, -, h⟩ := bind_eq_some_iff.mp h
    split at h
    · cases h
    · obtain ⟨-, σ₅, -, h⟩ := bind_eq_some_iff.mp h
      obtain ⟨final, σ₆, -, h⟩ := bind_eq_some_iff.mp h
      cases h

theorem rangeBehind_boundary (left : σ.rest = '\\' :: 'b' :: rest) (first : Primitive) :
    rangeBehind first σ = none := by
  cases h : rangeBehind first σ with
  | none => rfl
  | some found =>
    unfold rangeBehind at h
    obtain ⟨final, σ₁, read, h⟩ := bind_eq_some_iff.mp h
    obtain ⟨assertion, rfl⟩ := classPrimitive_boundary left read
    obtain ⟨first, σ₂, -, h⟩ := bind_eq_some_iff.mp h
    cases h

/-! ### Steps -/

/-- One step of reading a class, at the next character and with a reader of what is behind. -/
def classStep (behind : OpenClass → List OpenClass → Scanner Tree) (current : OpenClass)
    (outer : List OpenClass) (c : Char) : Scanner Tree := do
  if c = '[' then
    match ← asciiClass? with
    | some item => behind (current.add item) outer
    | none => behind (← openClass) (current :: outer)
  else if c = ']' then
    bump
    match outer with
    | [] => return .brackets current.negated current.toTree
    | parent :: outer =>
      behind (parent.add (.bracketed current.negated current.toTree)) outer
  else
    match operationOf? c with
    | some kind =>
      if (← peekSecond?) = some c then
        bump
        bump
        behind (current.operate kind) outer
      else behind (current.add (← classItem)) outer
    | none => behind (current.add (← classItem)) outer

theorem classRest_succ (fuel : Nat) (current : OpenClass) (outer : List OpenClass) :
    classRest (fuel + 1) current outer = (do
      skip
      let c ← peek
      classStep (classRest fuel) current outer c) := rfl

section ClassStep

variable {behind behind' : OpenClass → List OpenClass → Scanner Tree}
variable {current : OpenClass} {outer : List OpenClass}

instance [∀ current outer, Shrinks (behind current outer)] :
    Shrinks (classStep behind current outer c) := by
  unfold classStep
  refine .ite (.bind inferInstance fun item => ?_) (.ite (.bind inferInstance fun _ => ?_) ?_)
  · split <;> infer_instance
  · split <;> infer_instance
  · split <;> infer_instance

theorem spendsAt_classStep (h : ∀ current outer σ, SpendsAt (behind current outer) σ)
    (left : σ.rest = c :: rest) : SpendsAt (classStep behind current outer c) σ := by
  unfold classStep
  have item (τ : Scan) : SpendsAt (do behind (current.add (← classItem)) outer) τ :=
    .bind_right fun _ τ _ => h _ _ τ
  refine .ite (fun _ => .bind_right fun item τ read => ?_) fun _ => .ite (fun _ => ?_) fun _ => ?_
  · cases item with
    | some item => exact h _ _ τ
    | none => exact .bind_right fun _ τ _ => h _ _ τ
  · cases outer with
    | nil => exact (SpendsAt.bump left).bind_left
    | cons parent outer => exact .bind_right fun _ τ _ => h _ _ τ
  · cases operationOf? c with
    | none => exact item σ
    | some kind =>
      refine .bind_right fun next τ _ => .ite (fun _ => ?_) fun _ => item τ
      exact .bind_right fun _ _ _ => .bind_right fun _ τ _ => h _ _ τ

/-- A step leaves less to what is behind it than it finds. -/
theorem classStep_congr (left : σ.rest = c :: rest)
    (h : ∀ current outer τ, τ.rest.length < σ.rest.length →
      behind current outer τ = behind' current outer τ) :
    classStep behind current outer c σ = classStep behind' current outer c σ := by
  have item : (do behind (current.add (← classItem)) outer : Scanner Tree) σ
      = (do behind' (current.add (← classItem)) outer : Scanner Tree) σ :=
    bind_congr_at fun item τ read => h _ _ τ (spendsAt_classItem σ item τ read)
  unfold classStep
  split
  · refine bind_congr_at fun item τ read => ?_
    obtain ⟨rfl, rfl⟩ | ⟨found, lt⟩ := asciiClass?_spends read
    · exact bind_congr_at fun first υ opened => h _ _ υ (spendsAt_openClass left first υ opened)
    · cases item with
      | none => cases found
      | some item => exact h _ _ τ lt
  split
  · refine bind_congr_at fun _ τ bumped => ?_
    cases outer with
    | nil => rfl
    | cons parent outer => exact h _ _ τ (SpendsAt.bump left _ τ bumped)
  cases operationOf? c with
  | none => exact item
  | some kind =>
    refine bind_congr_at fun next τ peeked => ?_
    cases peeked
    split
    · refine bind_congr_at fun _ τ bumped => bind_congr_at fun _ υ bumped' => h _ _ υ ?_
      exact (Shrinks.suffix τ _ υ bumped').length_le.trans_lt (SpendsAt.bump left _ τ bumped)
    · exact item

end ClassStep

theorem spendsAt_classRest (fuel : Nat) (current : OpenClass) (outer : List OpenClass) (σ : Scan) :
    SpendsAt (classRest fuel current outer) σ := by
  induction fuel generalizing current outer σ with
  | zero => exact .failure
  | succ fuel ih =>
    rw [classRest_succ]
    exact .bind_right fun _ τ _ => .peek_bind fun c rest left => spendsAt_classStep ih left

/-- Any limit above what is left will do for the number of steps. -/
theorem classRest_fuel {few many : Nat} {current : OpenClass} {outer : List OpenClass}
    (h : σ.rest.length < few) (le : few ≤ many) :
    classRest few current outer σ = classRest many current outer σ := by
  induction few generalizing many current outer σ with
  | zero => omega
  | succ few ih =>
    obtain ⟨many, rfl⟩ := Nat.exists_eq_succ_of_ne_zero (by omega : many ≠ 0)
    rw [classRest_succ, classRest_succ]
    refine bind_congr_at fun _ σ₁ skipped => bind_congr_at fun c σ₂ peeked => ?_
    have le₁ := (Shrinks.suffix _ _ _ skipped).length_le
    obtain ⟨rfl, rest, left⟩ := peek_eq_some_iff.mp peeked
    exact classStep_congr left fun _ _ τ lt => ih (by omega) (by omega)

instance (fuel : Nat) (current : OpenClass) (outer : List OpenClass) :
    Shrinks (classRest fuel current outer) := by
  induction fuel generalizing current outer with
  | zero => exact inferInstanceAs (Shrinks failure)
  | succ fuel ih =>
    rw [classRest_succ]
    infer_instance

instance : Shrinks brackets := by
  unfold brackets
  exact .bind inferInstance fun _ => shrinks_get_bind fun _ => inferInstance

theorem spendsAt_brackets (σ : Scan) : SpendsAt brackets σ := by
  unfold brackets
  refine .bind_right fun first τ _ => ?_
  rw [spendsAt_get_bind]
  exact spendsAt_classRest _ first [] τ

end Scanner

end MethodTrace.Pattern
