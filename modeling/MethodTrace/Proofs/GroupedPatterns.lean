import MethodTrace.Proofs.ClosedItems

/-!
Reading a pattern with a closing parenthesis behind it.

A step of reading a pattern either closes a group or takes one thing that stands between
parentheses. So what is read alone is read in the same way inside a group, up to the parenthesis
that closes the group, and what is read inside a group is read alone, up to the first parenthesis
that closes what was not opened there. A comment at the end of the pattern takes in the parenthesis.
-/

namespace MethodTrace.Pattern

set_option synthInstance.maxSize 5000
set_option synthInstance.maxHeartbeats 200000

namespace Scanner

variable {σ τ : Scan} {c : Char} {rest after : List Char} {current : Branches}
variable {outer : List OpenGroup} {fuel : Nat}

/-! ### Steps -/

/-- Goes on behind an opening: a group that it begins is open from there. -/
def enter (current : Branches) (verbose : Bool) : Opening → Scanner (Branches × List OpenGroup)
  | .flags flags => do
    setVerbose ((verboseOf? flags).getD verbose)
    return (current.add (.flags flags), [])
  | .group kind => do
    let inner := match kind with
      | .plain flags => (verboseOf? flags).getD verbose
      | .capture => verbose
    setVerbose inner
    return (Branches.start, [⟨kind, current, verbose⟩])

/-- Reads what is next in a pattern, which is no closing parenthesis; the groups that it opens are
given too. -/
def grow (current : Branches) : Char → Scanner (Branches × List OpenGroup)
  | '(' => do
    let verbose := (← get).verbose
    enter current verbose (← opening)
  | '|' => do
    bump
    return (current.next, [])
  | '[' => do
    return (current.add (← brackets), [])
  | '?' => do
    bump
    return (← repeatLast current 0 (some 1), [])
  | '*' => do
    bump
    return (← repeatLast current 0 none, [])
  | '+' => do
    bump
    return (← repeatLast current 1 none, [])
  | '{' => do
    return (← counted current, [])
  | _ => do
    return (current.add (.primitive (← primitive)), [])

/-- One step of reading a pattern, at what is next and with a reader of what is behind. -/
def patternStep (behind : Branches → List OpenGroup → Scanner Tree) (current : Branches)
    (outer : List OpenGroup) : Option Char → Scanner Tree
  | none => if outer.isEmpty then return current.toTree else failure
  | some c => do
    if c = ')' then
      match outer with
      | [] => failure
      | group :: outer =>
        setVerbose group.verbose
        bump
        behind (group.around.add (.group group.kind current.toTree)) outer
    else
      let (branches, opened) ← grow current c
      behind branches (opened ++ outer)

theorem patternRest_succ (fuel : Nat) (current : Branches) (outer : List OpenGroup) :
    patternRest (fuel + 1) current outer = (do
      skip
      patternStep (patternRest fuel) current outer (← peek?)) := by
  conv_lhs => unfold patternRest
  generalize patternRest fuel = behind
  refine congrArg (skip >>= ·) (funext fun _ => congrArg (peek? >>= ·) (funext fun next => ?_))
  cases next with
  | none => rfl
  | some c =>
    unfold patternStep
    dsimp only
    split
    case h_1 nothing => cases nothing
    case h_2 opens =>
      cases opens
      rw [if_neg (by decide)]
      simp only [grow, bind_assoc]
      refine congrArg (get >>= ·) (funext fun s => congrArg (opening >>= ·) (funext fun kind => ?_))
      cases kind <;> rfl
    case h_3 closes =>
      cases closes
      cases outer with
      | nil => exact (if_pos rfl).symm
      | cons group outer => exact (if_pos rfl).symm
    case h_10 plain =>
      cases plain
      rw [if_neg (by assumption)]
      simp only [grow, bind_assoc, pure_bind, List.nil_append]
    all_goals
      rename_i found
      cases found
      rw [if_neg (by decide)]
      simp only [grow, bind_assoc, pure_bind, List.nil_append]

theorem patternRest_nil (left : σ.skipped.rest = []) : patternRest (fuel + 1) current outer σ
    = if outer.isEmpty then some (current.toTree, σ.skipped) else none := by
  have read : peek? σ.skipped = some (none, σ.skipped) := by
    change some (σ.skipped.rest.head?, σ.skipped) = _
    rw [left, List.head?_nil]
  rw [patternRest_succ, bind_of_some (skip_eq σ), bind_of_some read, patternStep]
  split <;> rfl

theorem patternRest_cons (left : σ.skipped.rest = c :: rest) :
    patternRest (fuel + 1) current outer σ
      = patternStep (patternRest fuel) current outer (some c) σ.skipped := by
  have read : peek? σ.skipped = some (some c, σ.skipped) := by
    change some (σ.skipped.rest.head?, σ.skipped) = _
    rw [left, List.head?_cons]
  rw [patternRest_succ, bind_of_some (skip_eq σ), bind_of_some read]

theorem patternRest_unopened (left : σ.skipped.rest = ')' :: rest) :
    patternRest (fuel + 1) current [] σ = none := by
  rw [patternRest_cons left]
  rfl

theorem patternRest_close {group : OpenGroup} (left : σ.skipped.rest = ')' :: rest) :
    patternRest (fuel + 1) current (group :: outer) σ
      = patternRest fuel (group.around.add (.group group.kind current.toTree)) outer
          { σ.skipped with rest, verbose := group.verbose } := by
  have bumped : bump { σ.skipped with verbose := group.verbose }
      = some ((), { σ.skipped with rest, verbose := group.verbose }) := by
    change some ((), (Scan.mk σ.skipped.rest.tail group.verbose σ.skipped.names)) = _
    rw [left, List.tail_cons]
  have step : patternStep (patternRest fuel) current (group :: outer) (some ')') = (do
      setVerbose group.verbose
      bump
      patternRest fuel (group.around.add (.group group.kind current.toTree)) outer) := by
    unfold patternStep
    dsimp only
    rw [if_pos rfl]
  rw [patternRest_cons left, step]
  exact (bind_of_some rfl).trans (bind_of_some bumped)

theorem patternRest_grow_bind (left : σ.skipped.rest = c :: rest) (h : c ≠ ')') :
    patternRest (fuel + 1) current outer σ = (do
      let (branches, opened) ← grow current c
      patternRest fuel branches (opened ++ outer)) σ.skipped := by
  rw [patternRest_cons left, patternStep.eq_def]
  exact congrFun (if_neg h) _

theorem patternRest_grow {branches : Branches} {opened : List OpenGroup} {υ : Scan}
    (left : σ.skipped.rest = c :: rest) (h : c ≠ ')')
    (grown : grow current c σ.skipped = some ((branches, opened), υ)) :
    patternRest (fuel + 1) current outer σ = patternRest fuel branches (opened ++ outer) υ := by
  rw [patternRest_grow_bind left h, bind_of_some grown]

theorem grow_of_patternRest {tree : Tree} (left : σ.skipped.rest = c :: rest) (h : c ≠ ')')
    (read : patternRest (fuel + 1) current outer σ = some (tree, τ)) :
    ∃ branches opened υ, grow current c σ.skipped = some ((branches, opened), υ) := by
  rw [patternRest_grow_bind left h] at read
  obtain ⟨⟨branches, opened⟩, υ, grown, -⟩ := bind_eq_some_iff.mp read
  exact ⟨branches, opened, υ, grown⟩

theorem patternRest_skipped (fuel : Nat) (current : Branches) (outer : List OpenGroup) (σ : Scan) :
    patternRest (fuel + 1) current outer σ = patternRest (fuel + 1) current outer σ.skipped := by
  rw [patternRest_succ, bind_of_some (skip_eq σ), bind_of_some (skip_eq σ.skipped), skipped_skipped]

/-! ### What a step takes -/

instance (current : Branches) (verbose : Bool) (found : Opening) :
    Shrinks (enter current verbose found) := by
  cases found <;> exact inferInstanceAs (Shrinks (setVerbose _ >>= fun _ => pure _))

instance (current : Branches) (c : Char) : Shrinks (grow current c) := by
  unfold grow
  split
  · exact shrinks_get_bind fun s => inferInstance
  all_goals infer_instance

theorem spendsAt_grow (left : σ.rest = c :: rest) (current : Branches) :
    SpendsAt (grow current c) σ := by
  unfold grow
  split
  · rw [spendsAt_get_bind]
    exact (spendsAt_opening left).bind_left
  · exact (SpendsAt.bump left).bind_left
  · exact (spendsAt_brackets σ).bind_left
  · exact (SpendsAt.bump left).bind_left
  · exact (SpendsAt.bump left).bind_left
  · exact (SpendsAt.bump left).bind_left
  · exact (spendsAt_counted current σ).bind_left
  · exact (spendsAt_primitive σ).bind_left

namespace Steady

theorem enter (current : Branches) (verbose : Bool) (found : Opening) :
    Steady after 0 (enter current verbose found) σ := by
  cases found <;> exact (setVerbose _).bind fun _ _ _ => .pure _

theorem grow (left : σ.rest = c :: rest) (current : Branches)
    (h : ∀ rest, σ.rest = '\\' :: 'b' :: rest → ¬Scan.Braced { σ with rest }) :
    Steady after 0 (grow current c) σ := by
  unfold Scanner.grow
  split
  · have entered : Steady after 0 (Scanner.opening >>= Scanner.enter current σ.verbose) σ :=
      (opening left).bind fun found _ _ => enter current _ found
    exact entered.congr rfl rfl
  · exact (bump left).bind fun _ _ _ => .pure _
  · exact (brackets left).bind fun _ _ _ => .pure _
  · exact (bump left).bind fun _ _ _ => (repeatLast _ _ _).bind fun _ _ _ => .pure _
  · exact (bump left).bind fun _ _ _ => (repeatLast _ _ _).bind fun _ _ _ => .pure _
  · exact (bump left).bind fun _ _ _ => (repeatLast _ _ _).bind fun _ _ _ => .pure _
  · exact (counted current left).bind fun _ _ _ => .pure _
  · exact (primitive h).bind fun _ _ _ => .pure _

end Steady

/-! ### Braces with nothing in them -/

theorem boundarySide?_braced (braced : σ.Braced) : boundarySide? σ = none := by
  have taken : bumpSkip σ = some ((), Scan.skipped { σ with rest := σ.rest.tail }) := rfl
  rw [boundarySide?_eq, attempt, bind_of_some taken, bind_of_none (peek_eq_none braced.2)]

/-- With a parenthesis behind them such braces hold no name, but then they are left as they are. -/
theorem boundarySide?_braced_closed (braced : σ.Braced) {side : Assertion} :
    boundarySide? (σ.closed after) ≠ some (some side, τ.closed after) := by
  intro h
  obtain ⟨rest, left⟩ := braced.exists_rest
  have nothing : (Scan.skipped { σ with rest }).rest = [] := by
    have nothing := braced.2
    rwa [left, List.tail_cons] at nothing
  have taken : bumpSkip (σ.closed after)
      = some ((), (Scan.closed { σ with rest } after).skipped) := by
    change some ((), Scan.skipped { σ with rest := (σ.rest ++ ')' :: after).tail }) = _
    rw [left, List.cons_append, List.tail_cons]
    rfl
  obtain plain | ⟨-, comment⟩ := Scan.skipped_closed { σ with rest } after
  · have next : (Scan.closed { σ with rest } after).skipped.rest = ')' :: after := by
      rw [plain, Scan.rest_closed, nothing, List.nil_append]
    cases (boundarySide?_of_next taken next).symm.trans h
  · rw [comment] at taken
    have le := (skipBlank_suffix true after).length_le
    cases next : skipBlank true after with
    | nil =>
      rw [boundarySide?_eq, attempt, bind_of_some taken, bind_of_none (peek_eq_none next)] at h
      cases h
    | cons c behind =>
      rw [boundarySide?_of_next taken next] at h
      split at h
      · have left := (Shrinks.suffix _ _ _ h).length_le
        simp only [Scan.rest_closed, List.length_append, List.length_cons] at left
        omega
      · cases h

theorem wordBoundary_braced (braced : σ.Braced) : wordBoundary σ = none := by
  unfold wordBoundary
  rw [bind_of_some rfl, if_pos braced.1, bind_of_none (boundarySide?_braced braced)]

theorem grow_braced (left : σ.rest = '\\' :: 'b' :: rest)
    (braced : Scan.Braced { σ with rest }) (current : Branches) : grow current '\\' σ = none := by
  have read : primitive σ = none := by
    rw [primitive_of_escape left, escape_of_b rfl, wordBoundary_braced braced]
  exact bind_of_none read

theorem decimal_nil (h : σ.rest = []) : decimal σ = none := by
  have blanks : skipBlanks σ = some ((), σ) := by
    change some ((), { σ with rest := σ.rest.dropWhile isBlank }) = _
    rw [h, List.dropWhile_nil, ← h]
  have digits : takeAll Char.isDigit σ = some ([], σ) := takeWhileSkip_nil _ _ h
  unfold decimal
  rw [bind_of_some blanks, bind_of_some digits, bind_of_some blanks, bind_of_some (skip_eq σ)]
  rfl

theorem counted_braced (braced : σ.Braced) (branches : Branches) : counted branches σ = none := by
  have taken : bumpSkip σ = some ((), Scan.skipped { σ with rest := σ.rest.tail }) := rfl
  have read : counts σ = none := by
    unfold counts
    rw [bind_of_some taken, bind_of_none (decimal_nil braced.2)]
  exact bind_of_none read

theorem patternRest_braced (braced : σ.Braced) (fuel : Nat) (current : Branches)
    (outer : List OpenGroup) : patternRest fuel current outer σ = none := by
  cases fuel with
  | zero => rfl
  | succ fuel =>
    obtain ⟨rest, left⟩ := braced.exists_rest
    have solid : isBlank '{' = false := isBlank_eq_false (by decide) (by decide)
    have same : σ.skipped = σ := skipped_of_solid left solid (by decide)
    rw [patternRest_grow_bind (same.symm ▸ left) (by decide), same]
    have read : grow current '{' σ = none := bind_of_none (counted_braced braced current)
    exact bind_of_none read

theorem grow_braced_closed (left : σ.rest = '\\' :: 'b' :: rest)
    (braced : Scan.Braced { σ with rest }) {branches : Branches} {opened : List OpenGroup}
    (h : grow current '\\' (σ.closed after) = some ((branches, opened), τ.closed after)) :
    τ.Braced := by
  obtain ⟨item, υ, read, h⟩ := bind_eq_some_iff.mp h
  obtain ⟨-, rfl⟩ := pure_eq_some_iff.mp h
  rw [primitive_of_escape (Scan.rest_closed_of_cons left after)] at read
  obtain ⟨side, -, same | sided⟩ := escape_boundary rfl read
  · have same : τ = { σ with rest } := @Scan.closed_inj _ _ after same
    rwa [same]
  · exact absurd sided (boundarySide?_braced_closed braced)

/-! ### A pattern inside a group -/

theorem skipped_closed_of_nil (h : σ.rest = []) : (σ.closed after).skipped = σ.closed after :=
  skipped_of_solid (Scan.rest_closed_of_nil h after) isBlank_paren (by decide)

/-- Inside any groups around it, the reader of a pattern gets from one place to another one, where
the groups that it was in are closed. -/
def Passes (fuel : Nat) (current : Branches) (inner : List OpenGroup) (σ : Scan) (left : Nat)
    (last : Branches) (υ : Scan) : Prop :=
  ∀ more outer, patternRest (fuel + more) current (inner ++ outer) σ
    = patternRest (left + more) last outer υ

variable {inner : List OpenGroup} {group : OpenGroup}

section Passes

variable {last : Branches} {left : Nat} {υ : Scan}

theorem Passes.skip (h : σ.skipped = τ.skipped) :
    Passes (fuel + 1) current [] σ (fuel + 1) current τ := by
  intro more outer
  rw [Nat.add_right_comm, patternRest_skipped, h, ← patternRest_skipped, List.nil_append]

theorem Passes.close (next : σ.skipped.rest = ')' :: rest)
    (h : Passes fuel (group.around.add (.group group.kind current.toTree)) inner
      { σ.skipped with rest, verbose := group.verbose } left last υ) :
    Passes (fuel + 1) current (group :: inner) σ left last υ := by
  intro more outer
  rw [Nat.add_right_comm, List.cons_append, patternRest_close next]
  exact h more outer

theorem Passes.grow {branches : Branches} {opened : List OpenGroup}
    (next : σ.skipped.rest = c :: rest) (other : c ≠ ')')
    (grown : Scanner.grow current c σ.skipped = some ((branches, opened), τ))
    (h : Passes fuel branches (opened ++ inner) τ left last υ) :
    Passes (fuel + 1) current inner σ left last υ := by
  intro more outer
  rw [Nat.add_right_comm, patternRest_grow next other grown, ← List.append_assoc]
  exact h more outer

end Passes

/-- With a parenthesis behind what is read alone, the reader comes to it with the same pattern,
unless a comment at the end takes in the parenthesis. -/
def Continues (after : List Char) (fuel : Nat) (current : Branches) (inner : List OpenGroup)
    (σ : Scan) (tree : Tree) : Prop :=
  ∃ left last υ, 0 < left ∧ tree = Branches.toTree last ∧ Scan.rest υ = [] ∧
    (Passes fuel current inner (σ.closed after) left last (υ.closed after) ∨
      '#' ∈ σ.rest ∧ Passes fuel current inner (σ.closed after) left last υ)

theorem skipped_closed_of_cons (next : σ.skipped.rest = c :: rest) (after : List Char) :
    (σ.closed after).skipped = σ.skipped.closed after := by
  refine (σ.skipped_closed after).resolve_right fun comment => ?_
  rw [next] at comment
  cases comment.1.2

theorem rest_skipped_closed (next : σ.skipped.rest = c :: rest) (after : List Char) :
    (σ.closed after).skipped.rest = c :: (rest ++ ')' :: after) := by
  rw [skipped_closed_of_cons next, Scan.rest_closed_of_cons next]

section Continues

variable {tree : Tree}

theorem Continues.of_nil (lines : '\n' ∉ after) (next : σ.skipped.rest = []) :
    Continues after (fuel + 1) current [] σ current.toTree := by
  refine ⟨fuel + 1, current, σ.skipped, Nat.succ_pos fuel, rfl, next, ?_⟩
  obtain plain | ⟨⟨mark, -⟩, comment⟩ := σ.skipped_closed after
  · refine .inl (.skip ?_)
    rw [plain, skipped_closed_of_nil next]
  · refine .inr ⟨mark, .skip ?_⟩
    rw [comment, skipBlank_comment lines, ← next, Scan.with_skipped, skipped_skipped]

theorem Continues.close (next : σ.skipped.rest = ')' :: rest)
    (h : Continues after fuel (group.around.add (.group group.kind current.toTree)) inner
      { σ.skipped with rest, verbose := group.verbose } tree) :
    Continues after (fuel + 1) current (group :: inner) σ tree := by
  obtain ⟨left, last, υ, pos, tree_eq, done, runs⟩ := h
  have next' := rest_skipped_closed next after
  have same : Scan.closed { σ.skipped with rest, verbose := group.verbose } after
      = { (σ.closed after).skipped with
        rest := rest ++ ')' :: after, verbose := group.verbose } := by
    rw [skipped_closed_of_cons next]
    rfl
  rw [same] at runs
  refine ⟨left, last, υ, pos, tree_eq, done, ?_⟩
  refine runs.imp (·.close next') fun ⟨mark, run⟩ => ⟨?_, run.close next'⟩
  exact (Shrinks.suffix σ _ _ (skip_eq σ)).mem (next ▸ List.mem_cons_of_mem _ mark)

theorem Continues.grow {branches : Branches} {opened : List OpenGroup} {υ : Scan}
    (next : σ.skipped.rest = c :: rest) (other : c ≠ ')')
    (grown : Scanner.grow current c σ.skipped = some ((branches, opened), υ))
    (kept : Scanner.grow current c (σ.skipped.closed after)
      = some ((branches, opened), υ.closed after))
    (h : Continues after fuel branches (opened ++ inner) υ tree) :
    Continues after (fuel + 1) current inner σ tree := by
  obtain ⟨left, last, υ', pos, tree_eq, done, runs⟩ := h
  have next' := rest_skipped_closed next after
  rw [← skipped_closed_of_cons next] at kept
  refine ⟨left, last, υ', pos, tree_eq, done, ?_⟩
  refine runs.imp (·.grow next' other kept) fun ⟨mark, run⟩ =>
    ⟨?_, run.grow next' other kept⟩
  exact (Shrinks.suffix σ _ _ (skip_eq σ)).mem ((Shrinks.suffix _ _ _ grown).mem mark)

/-- A comment that takes in the parenthesis is at the end, so nothing is read behind it. -/
theorem Continues.comment {branches : Branches} {opened : List OpenGroup} {υ : Scan}
    (next : σ.skipped.rest = c :: rest) (other : c ≠ ')') (mark : '#' ∈ σ.skipped.rest)
    (done : υ.rest = [])
    (kept : Scanner.grow current c (σ.skipped.closed after) = some ((branches, opened), υ))
    (h : patternRest fuel branches (opened ++ inner) υ = some (tree, τ)) :
    Continues after (fuel + 1) current inner σ tree := by
  have next' := rest_skipped_closed next after
  rw [← skipped_closed_of_cons next] at kept
  cases fuel with
  | zero => cases h
  | succ count =>
    rw [patternRest_nil (skipped_of_nil done)] at h
    split at h
    · next none =>
      cases h
      refine ⟨count + 1, branches, υ, Nat.succ_pos count, rfl, done, .inr ⟨?_, ?_⟩⟩
      · exact (Shrinks.suffix σ _ _ (skip_eq σ)).mem mark
      · refine Passes.grow next' other kept ?_
        rw [List.isEmpty_iff.mp none]
        exact .skip rfl
    · cases h

end Continues

/-- What is read alone is read in the same way with a parenthesis behind it, up to there, unless a
comment at the end takes in the parenthesis. -/
theorem patternRest_forth (lines : '\n' ∉ after) {tree : Tree}
    (h : patternRest fuel current inner σ = some (tree, τ)) :
    Continues after fuel current inner σ tree := by
  induction fuel generalizing current inner σ with
  | zero => cases h
  | succ fuel ih =>
    cases next : σ.skipped.rest with
    | nil =>
      rw [patternRest_nil next] at h
      cases inner with
      | cons group inner => cases h
      | nil =>
        cases h
        exact .of_nil lines next
    | cons c rest =>
      by_cases closes : c = ')'
      · subst closes
        cases inner with
        | nil =>
          rw [patternRest_unopened next] at h
          cases h
        | cons group inner =>
          rw [patternRest_close next] at h
          exact .close next (ih h)
      · obtain ⟨branches, opened, υ, grown⟩ := grow_of_patternRest next closes h
        rw [patternRest_grow next closes grown] at h
        have unbraced : ∀ rest, σ.skipped.rest = '\\' :: 'b' :: rest →
            ¬Scan.Braced { σ.skipped with rest } := by
          intro rest' same braced
          rw [next] at same
          obtain ⟨rfl, rfl⟩ := List.cons.inj same
          cases (grow_braced next braced current).symm.trans grown
        obtain kept | ⟨⟨mark, done⟩, kept⟩ :=
          (Steady.grow next current unbraced).forth lines _ υ (Nat.zero_le _) grown
        · exact .grow next closes grown kept (ih h)
        · exact .comment next closes mark done kept h

/-- The reader of a pattern finds something, with any limit above what is left. -/
def Reads (current : Branches) (inner : List OpenGroup) (σ : Scan) : Prop :=
  ∃ found, ∀ count, σ.rest.length < count → patternRest count current inner σ = some found

section Reads

theorem Reads.of_succ {found : Tree × Scan}
    (h : ∀ count, σ.rest.length ≤ count → patternRest (count + 1) current inner σ = some found) :
    Reads current inner σ := by
  refine ⟨found, fun count lt => ?_⟩
  obtain ⟨count, rfl⟩ := Nat.exists_eq_succ_of_ne_zero (Nat.ne_zero_of_lt lt)
  exact h count (Nat.le_of_lt_succ lt)

theorem Reads.of_nil (next : σ.skipped.rest = []) : Reads current [] σ :=
  .of_succ fun _ _ => patternRest_nil next

theorem Reads.close (next : σ.skipped.rest = ')' :: rest)
    (h : Reads (group.around.add (.group group.kind current.toTree)) inner
      { σ.skipped with rest, verbose := group.verbose }) :
    Reads current (group :: inner) σ := by
  obtain ⟨found, reads⟩ := h
  refine .of_succ fun count le => (patternRest_close next).trans (reads count ?_)
  have shorter := (Shrinks.suffix σ _ _ (skip_eq σ)).length_le
  rw [next, List.length_cons] at shorter
  exact (Nat.lt_of_succ_le shorter).trans_le le

theorem Reads.grow {branches : Branches} {opened : List OpenGroup}
    (next : σ.skipped.rest = c :: rest) (other : c ≠ ')')
    (grown : Scanner.grow current c σ.skipped = some ((branches, opened), τ))
    (h : Reads branches (opened ++ inner) τ) : Reads current inner σ := by
  obtain ⟨found, reads⟩ := h
  refine .of_succ fun count le => (patternRest_grow next other grown).trans (reads count ?_)
  have shorter := (Shrinks.suffix σ _ _ (skip_eq σ)).length_le
  have spent := spendsAt_grow next current _ _ grown
  omega

theorem Reads.not_braced (h : Reads current inner σ) : ¬σ.Braced := by
  intro braced
  obtain ⟨found, reads⟩ := h
  cases (patternRest_braced braced _ _ _).symm.trans (reads _ (Nat.lt_succ_self _))

end Reads

/-- What is left behind blanks is left before them too. -/
theorem exists_front (ends : ')' :: after <:+ σ.skipped.rest) :
    ∃ front, σ = Scan.closed front after ∧ σ.skipped = (Scan.skipped front).closed after := by
  obtain ⟨front, rfl⟩ := Scan.exists_closed (ends.trans (Shrinks.suffix σ _ _ (skip_eq σ)))
  obtain ⟨υ, skipped_eq⟩ := Scan.exists_closed ends
  have read : skip (front.closed after) = some ((), υ.closed after) := by
    rw [skip_eq, skipped_eq]
  have steady : Steady after 0 skip front := Steady.skip
  have read := steady.back () υ (Nat.zero_le _) read
  rw [skip_eq] at read
  cases read
  exact ⟨front, rfl, skipped_eq⟩

/-- Where a group is closed before the parenthesis that closes another one, it is closed alone. -/
theorem exists_reads_close {behind : Scan} (next : σ.skipped.rest = ')' :: rest)
    (same : { σ.skipped with rest, verbose := group.verbose } = behind.closed after)
    (reads : Reads (group.around.add (.group group.kind current.toTree)) inner behind) :
    ∃ front, σ = Scan.closed front after ∧ Reads current (group :: inner) front := by
  have rest_eq : rest = behind.rest ++ ')' :: after := congrArg Scan.rest same
  have ends : ')' :: after <:+ σ.skipped.rest := by
    rw [next, rest_eq]
    exact (List.suffix_append _ _).trans (List.suffix_cons _ _)
  obtain ⟨front, rfl, skipped⟩ := exists_front ends
  have next' : front.skipped.rest = ')' :: behind.rest := by
    rw [skipped, Scan.rest_closed, rest_eq, ← List.cons_append] at next
    exact List.append_cancel_right next
  have behind_eq :
      { front.skipped with rest := behind.rest, verbose := group.verbose } = behind := by
    refine @Scan.closed_inj _ _ after (Eq.trans ?_ same)
    rw [skipped, rest_eq]
    rfl
  exact ⟨front, rfl, .close next' (behind_eq ▸ reads)⟩

/-- What is taken before the parenthesis that closes a group is taken alone. -/
theorem exists_reads_grow {behind : Scan} {branches : Branches} {opened : List OpenGroup}
    (next : σ.skipped.rest = c :: rest) (other : c ≠ ')')
    (grown : Scanner.grow current c σ.skipped = some ((branches, opened), behind.closed after))
    (reads : Reads branches (opened ++ inner) behind) :
    ∃ front, σ = Scan.closed front after ∧ Reads current inner front := by
  have within := Shrinks.suffix _ _ _ grown
  have spent := spendsAt_grow next current _ _ grown
  obtain ⟨front, rfl, skipped⟩ := exists_front ((List.suffix_append _ _).trans within)
  rw [skipped] at grown next spent
  simp only [Scan.rest_closed, List.length_append] at spent
  obtain ⟨d, text, next'⟩ := List.exists_cons_of_length_pos
    (Nat.zero_lt_of_lt (Nat.lt_of_add_lt_add_right spent))
  obtain rfl : c = d := by
    rw [Scan.rest_closed_of_cons next'] at next
    exact (List.cons.inj next).1.symm
  have unbraced : ∀ rest, front.skipped.rest = '\\' :: 'b' :: rest →
      ¬Scan.Braced { front.skipped with rest } := by
    intro rest' same braced
    rw [next'] at same
    obtain ⟨rfl, rfl⟩ := List.cons.inj same
    exact reads.not_braced (grow_braced_closed next' braced grown)
  have read := (Steady.grow next' current unbraced).back _ behind (Nat.zero_le _) grown
  exact ⟨front, rfl, .grow next' other read reads⟩

/-- What is read inside a group is read alone up to the parenthesis that closes the group. -/
theorem patternRest_back {tree : Tree}
    (h : patternRest fuel current (inner ++ [group]) σ = some (tree, τ)) :
    ∃ after front, σ = Scan.closed front after ∧ Reads current inner front := by
  induction fuel generalizing current inner σ with
  | zero => cases h
  | succ fuel ih =>
    cases next : σ.skipped.rest with
    | nil =>
      rw [patternRest_nil next] at h
      split at h
      · next none => simp at none
      · cases h
    | cons c rest =>
      by_cases closes : c = ')'
      · subst closes
        cases inner with
        | nil =>
          obtain ⟨front, rfl, skipped⟩ := @exists_front σ rest (by rw [next])
          refine ⟨rest, front, rfl, .of_nil ?_⟩
          rw [skipped, Scan.rest_closed] at next
          simpa using next
        | cons first inner =>
          rw [List.cons_append, patternRest_close next] at h
          obtain ⟨after, behind, same, reads⟩ := ih h
          exact ⟨after, exists_reads_close next same reads⟩
      · obtain ⟨branches, opened, υ, grown⟩ := grow_of_patternRest next closes h
        rw [patternRest_grow next closes grown, ← List.append_assoc] at h
        obtain ⟨after, behind, rfl, reads⟩ := ih h
        exact ⟨after, exists_reads_grow next closes grown reads⟩

end Scanner

end MethodTrace.Pattern
