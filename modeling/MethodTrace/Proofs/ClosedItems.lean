import MethodTrace.Proofs.ClosedReaders

/-!
Steady readers of the items of a pattern.

Escapes, openings of groups, classes and repetitions are read in the same way with a closing
parenthesis behind the text. A word boundary with an opening brace behind it is not, if there is
nothing in the brace but blanks: the braces may be a repetition then, but no repetition can be read
from there either.
-/

namespace MethodTrace.Pattern

set_option synthInstance.maxSize 5000
set_option synthInstance.maxHeartbeats 200000

variable {α : Type}

/-- An opening brace with nothing but blanks behind it. -/
def Scan.Braced (σ : Scan) : Prop :=
  σ.rest.head? = some '{' ∧ (Scan.skipped { σ with rest := σ.rest.tail }).rest = []

theorem Scan.Braced.exists_rest {σ : Scan} (braced : σ.Braced) :
    ∃ rest, σ.rest = '{' :: rest := by
  have head := braced.1
  cases left : σ.rest with
  | nil =>
    rw [left] at head
    cases head
  | cons c rest =>
    rw [left] at head
    exact ⟨rest, by rw [Option.some.inj head]⟩

namespace Scanner

variable {m n : Scanner α} {σ τ : Scan} {c : Char} {rest after : List Char} {least : Nat}

namespace Steady

/-! ### Word boundaries and escapes -/

theorem sideOf (name : List Char) : Steady after least (sideOf name) σ := by
  obtain unnamed | ⟨side, named⟩ := sideOf_cases name
  · rw [unnamed]
    exact .failure
  · rw [named]
    exact .pure _

theorem boundaryName : Steady after least boundaryName σ := by
  unfold Scanner.boundaryName
  dsimp only
  refine (takeAll fun _ => by decide).bind fun name σ _ =>
    .peek_bind (fun c rest left => ?_) fun _ _ _ => .failure
  exact .ite (fun _ => .failure) fun _ => (bump left).bind fun _ _ _ => sideOf name

/-- The braces behind a word boundary, where something stands in them. -/
theorem boundarySide? (left : σ.rest = '{' :: rest) (h : ¬σ.Braced) :
    Steady after least boundarySide? σ := by
  have filled : (Scan.skipped { σ with rest }).rest ≠ [] := by
    intro nothing
    exact h ⟨by rw [left]; rfl, by rw [left]; exact nothing⟩
  obtain ⟨c, text, next⟩ := List.exists_cons_of_ne_nil filled
  have taken : Scanner.bumpSkip σ = some ((), Scan.skipped { σ with rest }) := by
    change some ((), Scan.skipped { σ with rest := σ.rest.tail }) = _
    rw [left, List.tail_cons]
  have taken' : Scanner.bumpSkip (σ.closed after)
      = some ((), (Scan.skipped { σ with rest }).closed after) := by
    change some ((), Scan.skipped { σ with rest := (σ.rest ++ ')' :: after).tail }) = _
    obtain plain | ⟨nothing, -⟩ := Scan.skipped_closed { σ with rest } after
    · rw [left, List.cons_append, List.tail_cons, ← plain]
      rfl
    · exact absurd nothing.2 filled
  have read := boundarySide?_of_next taken next
  have read' := boundarySide?_of_next taken' (Scan.rest_closed_of_cons next after)
  cases named : (c.isAlpha || c == '-') with
  | false =>
    rw [named, if_neg Bool.false_ne_true] at read read'
    exact of_eq read read'
  | true =>
    rw [named, if_pos rfl] at read read'
    have steady : Steady after least (Scanner.bumpSkip >>= fun _ => Scanner.boundaryName) σ :=
      (bumpSkip left).bind fun _ _ _ => boundaryName
    refine steady.congr (read.trans ?_) (read'.trans ?_)
    · rw [bind_of_some taken]
    · rw [bind_of_some taken']

theorem wordBoundary (h : ¬σ.Braced) : Steady after least wordBoundary σ := by
  unfold Scanner.wordBoundary
  cases left : σ.rest with
  | nil =>
    have read : Scanner.peek? σ = some (none, σ) := by
      change some (σ.rest.head?, σ) = _
      rw [left, List.head?_nil]
    have read' : Scanner.peek? (σ.closed after) = some (some ')', σ.closed after) := by
      change some ((σ.rest ++ ')' :: after).head?, σ.closed after) = _
      rw [left, List.nil_append, List.head?_cons]
    have plain : Steady after least (pure (Primitive.assertion .wordBoundary)) σ := .pure _
    exact plain.congr (bind_of_some read) (bind_of_some read')
  | cons c rest =>
    refine (peek? left).bind fun next τ read => ?_
    obtain ⟨rfl, rfl⟩ : some c = next ∧ σ = τ := by
      have same := Option.some.inj read
      rw [left, List.head?_cons] at same
      exact Prod.mk.inj same
    refine .ite (fun brace => ?_) fun _ => .pure _
    rw [Option.some.inj brace] at left
    exact (boundarySide? left h).bind fun _ _ _ => .pure _

/-- What stands behind a backslash. -/
theorem escape (h : ∀ rest, σ.rest = 'b' :: rest → ¬Scan.Braced { σ with rest }) :
    Steady after least escape σ := by
  unfold Scanner.escape
  refine @peek_bind _ _ _ _ _ (fun c => ?_) (fun c rest left => ?_) fun _ τ left => ?_
  · refine .ite inferInstance (.ite inferInstance (.bind inferInstance fun _ => ?_))
    split <;> infer_instance
  · dsimp only
    refine .ite (fun _ => hexLiteral.bind fun _ _ _ => .pure _) fun _ =>
      .ite (fun _ => propertyClass) fun _ => ?_
    refine @bind _ _ _ _ _ _ _ _ (fun _ => ?_) (bump left) fun _ τ taken => ?_
    · split <;> infer_instance
    · have taken := eq_of_bump left taken
      split
      all_goals first
        | exact .pure _
        | exact .ite (fun _ => .pure _) fun _ => .failure
        | exact taken ▸ wordBoundary (h rest left)
  · -- the parenthesis itself may be escaped
    dsimp only
    refine .ite (fun named => absurd named (by decide)) fun _ => ?_
    refine .ite (fun named => absurd named (by decide)) fun _ => ?_
    refine @SpendsAt.bind_left _ _ _ _ _ (.bump left) fun _ => ?_
    split <;> infer_instance

/-- A character that stands for itself or for a class, or an assertion. -/
theorem primitive (h : ∀ rest, σ.rest = '\\' :: 'b' :: rest → ¬Scan.Braced { σ with rest }) :
    Steady after least primitive σ := by
  unfold Scanner.primitive
  refine @peek_bind _ _ _ _ _ (fun c => .bind inferInstance fun _ => ?_) (fun c rest left => ?_)
    fun _ τ left => ?_
  · split <;> infer_instance
  · refine @bind _ _ _ _ _ _ _ _ (fun _ => ?_) (bump left) fun _ τ taken => ?_
    · split <;> infer_instance
    · have taken := eq_of_bump left taken
      subst taken
      split
      · refine escape fun rest' next => h rest' (left.trans ?_)
        rw [← next]
      all_goals exact .pure _
  · refine @SpendsAt.bind_left _ _ _ _ _ (.bump left) fun _ => ?_
    split <;> infer_instance

theorem classPrimitive (h : ∀ rest, σ.rest ≠ '\\' :: 'b' :: rest) :
    Steady after least classPrimitive σ := by
  unfold Scanner.classPrimitive
  refine .peek_bind (fun c rest left => ?_) fun _ τ left => (SpendsAt.bump left).bind_left
  refine (bump left).bind fun _ τ taken => .ite (fun backslash => ?_) fun _ => .pure _
  have taken := eq_of_bump left taken
  subst taken
  refine escape fun rest' next => absurd (left.trans ?_) (h rest')
  rw [backslash, ← next]

/-! ### Groups -/

theorem flagsFrom_append {text : List Char} {negated : Bool} {found given : FlagList}
    (filled : rest ≠ []) :
    flagsFrom negated found (text ++ ')' :: after) = some (given, rest ++ ')' :: after) ↔
      flagsFrom negated found text = some (given, rest) := by
  induction text generalizing negated found with
  | nil =>
    have read : flagsFrom negated found (')' :: after) = some (found, ')' :: after) := by
      rw [flagsFrom_cons]
      exact if_pos (.inr rfl)
    rw [List.nil_append, read]
    simpa [flagsFrom] using fun _ => filled
  | cons c text ih =>
    rw [List.cons_append, flagsFrom_cons, flagsFrom_cons]
    split
    · rw [← List.cons_append]
      simp only [Option.some.injEq, Prod.mk.injEq, List.append_cancel_right_eq]
    split
    · cases text with
      | nil => simp
      | cons next text =>
        rw [List.cons_append, List.head?_cons, List.head?_cons, Option.bind_some,
          Option.bind_some, ← List.cons_append]
        split
        · exact iff_of_false nofun nofun
        · exact ih
    · cases flagOfLetter? c with
      | none => exact iff_of_false nofun nofun
      | some flag =>
        rw [Option.bind_some, Option.bind_some]
        split
        · exact iff_of_false nofun nofun
        · exact ih

theorem flags : Steady after 1 flags σ where
  back given τ left h := by
    obtain ⟨read, same⟩ := flags_eq_some_iff.mp h
    have filled := List.ne_nil_of_length_pos left
    exact flags_eq_some_iff.mpr
      ⟨(flagsFrom_append filled).mp read, @Scan.closed_inj _ _ after same⟩
  forth _ given τ left h := by
    obtain ⟨read, same⟩ := flags_eq_some_iff.mp h
    have filled := List.ne_nil_of_length_pos left
    refine .inl (flags_eq_some_iff.mpr ⟨(flagsFrom_append filled).mpr read, ?_⟩)
    rw [← same]
    rfl

theorem groupName : Steady after least groupName σ := by
  by_cases ends : '>' ∈ σ.rest
  · obtain ⟨name, rest, spelled, fresh⟩ := List.eq_append_cons_of_mem ends
    have spelled' : (σ.closed after).rest = name ++ '>' :: (rest ++ ')' :: after) := by
      rw [Scan.rest_closed, spelled, List.append_assoc, List.cons_append]
    constructor
    · intro u τ _ h
      obtain ⟨named, same⟩ := (groupName_spelled spelled' fresh).mp h
      exact (groupName_spelled spelled fresh).mpr ⟨named, @Scan.closed_inj _ _ after same⟩
    · intro _ u τ _ h
      obtain ⟨named, same⟩ := (groupName_spelled spelled fresh).mp h
      refine .inl ((groupName_spelled spelled' fresh).mpr ⟨named, ?_⟩)
      rw [← same]
      rfl
  · have all : ∀ c ∈ σ.rest, (c != '>') = true := fun c hc =>
      bne_iff_ne.mpr (ne_of_mem_of_not_mem hc ends)
    constructor
    · -- the name goes past the parenthesis
      intro u τ _ h
      obtain ⟨-, same⟩ := (groupName_eq_some_iff rfl).mp h
      have left := congrArg (fun s => s.rest.length) same
      rw [Scan.rest_closed, List.takeWhile_append_of_pos all,
        List.takeWhile_cons_of_pos (by decide)] at left
      simp only [List.length_drop, List.length_append, List.length_cons, Scan.rest_closed] at left
      omega
    · intro _ u τ _ h
      have whole := List.takeWhile_eq_self_iff.mpr all
      obtain ⟨⟨-, longer, -⟩, -⟩ := (groupName_eq_some_iff whole).mp h
      exact absurd rfl longer

theorem forIn_refuse (texts : List String) (h : ∀ text ∈ texts, ')' ∉ text.toList) :
    Steady after least (forIn texts () refuse) σ := by
  have same : (texts.any fun text => text.toList.isPrefixOf (σ.closed after).rest)
      = texts.any fun text => text.toList.isPrefixOf σ.rest := by
    rw [Bool.eq_iff_iff, List.any_eq_true, List.any_eq_true]
    refine exists_congr fun text => and_congr_right fun mem => ?_
    rw [σ.isPrefixOf_closed (h text mem)]
  have read := Scanner.forIn_refuse texts σ
  have read' := Scanner.forIn_refuse texts (σ.closed after)
  rw [same] at read'
  split at read
  · rename_i found
    exact of_none read (read'.trans (if_pos found))
  · rename_i other
    exact of_eq read (read'.trans (if_neg other))

/-- What an opening parenthesis begins. -/
theorem opening (left : σ.rest = c :: rest) : Steady after least opening σ := by
  unfold Scanner.opening
  dsimp only
  refine (bump left).bind fun _ _ _ => skip.bind fun _ _ _ => ?_
  refine (forIn_refuse _ (by decide)).bind fun _ _ _ => ?_
  refine (take? (by decide)).bind fun _ _ _ => (take? (by decide)).bind fun _ _ _ => ?_
  refine .ite (fun _ => groupName.bind fun _ _ _ => .pure _) fun _ => ?_
  refine (take? (by decide)).bind fun _ _ _ => .ite (fun _ => ?_) fun _ => .pure _
  refine mono (bind_spends flags (fun found σ _ => ?_) ?_) (Nat.zero_le least)
  · refine .peek_bind (fun c rest left => ?_) fun _ τ left => (SpendsAt.bump left).bind_left
    refine (bump left).bind fun _ _ _ => .ite (fun _ => ?_) fun _ => .pure _
    exact .ite (fun _ => .failure) fun _ => .pure _
  · exact fun found τ => .peek_bind fun c rest left => (SpendsAt.bump left).bind_left

/-! ### Classes -/

/-- The opening of a class. -/
theorem openClass (left : σ.rest = c :: rest) : Steady after 1 openClass σ := by
  unfold Scanner.openClass
  dsimp only
  have body (negated : Bool) (τ : Scan) : Steady after 1 (do
      let hyphens ← Scanner.takeAll (· == '-')
      let c ← peek
      if hyphens.isEmpty && c == ']' then
        Scanner.bumpSkip
        let _ ← peek
        pure (OpenClass.mk negated none [ClassTree.literal ⟨']', false⟩])
      else
        pure (OpenClass.mk negated none (hyphens.map fun c => ClassTree.literal ⟨c, false⟩)) :
          Scanner OpenClass) τ := by
    refine (takeAll (by simp)).bind fun _ _ _ => .peek_bind (fun c rest left => ?_) (by simp)
    refine .ite (fun _ => (bumpSkip left).bind fun _ _ _ => ?_) fun _ => .pure _
    exact .peek_bind (fun _ _ _ => .pure _) (by simp)
  refine (bumpSkip left).bind fun _ τ _ => .peek_bind (fun sign rest left => ?_) (by simp)
  exact .ite (fun _ => (bumpSkip left).bind fun _ τ _ => body _ τ) fun _ => body _ _

theorem asciiClass? : Steady after least asciiClass? σ := by
  obtain nothing | ⟨negated, name, rest, entry, spelled, found⟩ := asciiClass?_cases σ
  · obtain nothing' | ⟨negated, name, rest, entry, spelled, found⟩ :=
      asciiClass?_cases (σ.closed after)
    · exact of_eq nothing nothing'
    · -- what is spelled with the parenthesis behind it is spelled before that
      obtain ⟨-, plain, -⟩ := plain_of_found found
      have fresh : ')' ∉ asciiMark negated name := by
        cases negated <;> simp [asciiMark, plain]
      have front : asciiMark negated name <+: σ.rest :=
        (prefix_append_paren fresh).mp ⟨rest, spelled.symm⟩
      obtain ⟨rest, spelled⟩ := front
      cases nothing.symm.trans (asciiClass?_mark found spelled.symm)
  · refine of_eq (asciiClass?_mark found spelled) (asciiClass?_mark found ?_)
    rw [Scan.rest_closed, spelled, List.append_assoc]

theorem itemOf (item : Primitive) : Steady after least (itemOf item) σ := by
  unfold Scanner.itemOf
  split
  all_goals first | exact .pure _ | exact .failure

theorem rangeEnd (item : Primitive) : Steady after least (rangeEnd item) σ := by
  unfold Scanner.rangeEnd
  split
  · exact .pure _
  · exact .failure

theorem dropMark_append (text after : List Char) :
    dropMark (text ++ ')' :: after) = dropMark text ++ ')' :: after := by
  unfold dropMark
  rw [dropWhile_isBlank_append]
  cases text.dropWhile isBlank with
  | nil => rfl
  | cons c rest =>
    by_cases mark : c = '#'
    · subst mark
      exact dropWhile_isBlank_append rest after
    · simp [mark]

/-- The character that a range would end with is told in the same way. -/
theorem pastBlank_closed (left : σ.rest = c :: rest) :
    (σ.closed after).pastBlank = σ.pastBlank ∨
      σ.pastBlank.all (fun next => next ≠ ']' ∧ next ≠ '-') ∧
        (σ.closed after).pastBlank = some ')' := by
  unfold Scan.pastBlank
  rw [Scan.rest_closed_of_cons left, left, Scan.verbose_closed, List.tail_cons, List.tail_cons,
    dropMark_append]
  cases σ.verbose with
  | false =>
    cases rest with
    | nil => exact .inr ⟨rfl, rfl⟩
    | cons d rest => exact .inl rfl
  | true =>
    cases marked : dropMark rest with
    | nil =>
      refine .inr ⟨?_, rfl⟩
      cases rest with
      | nil => rfl
      | cons d rest =>
        change Option.all _ (some d) = true
        rw [Option.all_some, decide_eq_true_eq]
        constructor
        · rintro rfl
          rw [dropMark_of_solid (isBlank_eq_false (by decide) (by decide)) (by decide)] at marked
          cases marked
        · rintro rfl
          rw [dropMark_of_solid (isBlank_eq_false (by decide) (by decide)) (by decide)] at marked
          cases marked
    | cons d rest => exact .inl rfl

theorem rangeBehind (first : Primitive) : Steady after 1 (rangeBehind first) σ := by
  by_cases boundary : ∃ rest, σ.rest = '\\' :: 'b' :: rest
  · obtain ⟨rest, left⟩ := boundary
    exact of_none (rangeBehind_boundary left first)
      (rangeBehind_boundary (Scan.rest_closed_of_cons left after) first)
  · unfold Scanner.rangeBehind
    dsimp only
    refine (classPrimitive fun rest left => boundary ⟨rest, left⟩).bind fun final σ _ => ?_
    refine (rangeEnd first).bind fun _ _ _ => (rangeEnd final).bind fun _ _ _ => ?_
    exact .ite (fun _ => .failure) fun _ => .pure _

/-- An item of a class or a range. -/
theorem classItem : Steady after 1 classItem σ := by
  by_cases boundary : ∃ rest, σ.rest = '\\' :: 'b' :: rest
  · obtain ⟨rest, left⟩ := boundary
    exact of_none (classItem_boundary left)
      (classItem_boundary (Scan.rest_closed_of_cons left after))
  rw [classItem_eq]
  refine (classPrimitive fun rest left => boundary ⟨rest, left⟩).bind fun first σ _ => ?_
  refine skip.bind fun _ σ _ => .peek_bind (fun c rest left => ?_) (by simp)
  have branch (p : Prop) [Decidable p] : Steady after 1 (if p then Scanner.itemOf first else do
      Scanner.bumpSkip
      Scanner.rangeBehind first) σ :=
    .ite (fun _ => itemOf first) fun _ => (bumpSkip left).bind fun _ _ _ => rangeBehind first
  have read := peekPastBlank?_eq σ
  have read' := peekPastBlank?_eq (σ.closed after)
  obtain same | ⟨other, paren⟩ := @pastBlank_closed σ c rest after left
  · rw [same] at read'
    exact (branch _).congr (bind_of_some read) (bind_of_some read')
  · rw [paren] at read'
    refine (branch (c ≠ '-')).congr ((bind_of_some read).trans ?_) ((bind_of_some read').trans ?_)
    · have bracket : σ.pastBlank ≠ some ']' := fun h => by simp [h] at other
      have hyphen : σ.pastBlank ≠ some '-' := fun h => by simp [h] at other
      simp only [bracket, hyphen, or_false]
    · have bracket : some ')' ≠ some ']' := by decide
      have hyphen : some ')' ≠ some '-' := by decide
      simp only [bracket, hyphen, or_false]

/-- Two equal characters are told in the same way. -/
theorem paired (left : σ.rest = c :: rest) (other : c ≠ ')')
    (hm : ∀ rest', σ.rest = c :: c :: rest' → Steady after least m σ)
    (hn : Steady after least n σ) :
    Steady after least (do if (← Scanner.peekSecond?) = some c then m else n) σ := by
  have read (τ : Scan) : (do if (← Scanner.peekSecond?) = some c then m else n) τ
      = (if τ.rest[1]? = some c then m else n) τ := bind_of_some rfl
  have next : (σ.closed after).rest[1]? = (rest ++ ')' :: after).head? := by
    rw [Scan.rest_closed_of_cons left, List.getElem?_cons_succ, List.head?_eq_getElem?]
  have next' : σ.rest[1]? = rest.head? := by
    rw [left, List.getElem?_cons_succ, List.head?_eq_getElem?]
  cases rest with
  | nil =>
    refine hn.congr ?_ ?_
    · rw [read, next']
      rfl
    · rw [read, next, List.nil_append, List.head?_cons, if_neg]
      exact fun same => other (Option.some.inj same).symm
  | cons d rest =>
    have steady : Steady after least (if some d = some c then m else n) σ := by
      refine .ite (fun same => hm rest ?_) fun _ => hn
      rw [left, Option.some.inj same]
    refine steady.congr ?_ ?_
    · rw [read, next', List.head?_cons]
    · rw [read, next, List.cons_append, List.head?_cons]

theorem classStep {behind : OpenClass → List OpenClass → Scanner Tree}
    (h : ∀ current outer σ, Steady after 0 (behind current outer) σ)
    [∀ current outer, Shrinks (behind current outer)]
    (spends : ∀ current outer σ, SpendsAt (behind current outer) σ)
    (current : OpenClass) (outer : List OpenClass) (left : σ.rest = c :: rest) :
    Steady after 0 (classStep behind current outer c) σ := by
  have item (τ : Scan) : Steady after 0 (do behind (current.add (← Scanner.classItem)) outer) τ :=
    bind_spends classItem (fun _ τ _ => h _ _ τ) fun _ τ => spends _ _ τ
  unfold Scanner.classStep
  refine .ite (fun _ => ?_) fun _ => .ite (fun _ => ?_) fun _ => ?_
  · refine @bind _ _ _ _ _ _ _ _ (fun item => ?_) asciiClass? fun item τ read => ?_
    · split <;> infer_instance
    · obtain ⟨rfl, rfl⟩ | ⟨found, -⟩ := asciiClass?_spends read
      · exact bind_spends (openClass left) (fun _ τ _ => h _ _ τ) fun _ τ => spends _ _ τ
      · cases item with
        | none => cases found
        | some item => exact h _ _ τ
  · cases outer with
    | nil => exact (bump left).bind fun _ _ _ => .pure _
    | cons parent outer => exact (bump left).bind fun _ τ _ => h _ _ τ
  · cases operation : operationOf? c with
    | none => exact item σ
    | some kind =>
      refine paired left (by rintro rfl; cases operation) (fun rest' next => ?_) (item σ)
      refine (bump next).bind fun _ τ bumped => ?_
      rw [← eq_of_bump next bumped]
      exact (bump rfl).bind fun _ τ _ => h _ _ τ

theorem classRest (fuel : Nat) (current : OpenClass) (outer : List OpenClass) :
    Steady after 0 (classRest fuel current outer) σ := by
  induction fuel generalizing current outer σ with
  | zero => exact .failure
  | succ fuel ih =>
    rw [classRest_succ]
    refine skip.bind fun _ σ _ => .peek_bind (fun c rest left => ?_) fun _ τ left => ?_
    · exact classStep (fun _ _ _ => ih _ _) (spendsAt_classRest fuel) current outer left
    · exact spendsAt_classStep (spendsAt_classRest fuel) left

/-- A class in brackets. -/
theorem brackets (left : σ.rest = c :: rest) : Steady after 0 brackets σ := by
  unfold Scanner.brackets
  refine @bind_spends _ _ _ _ _ _ _ (fun _ => shrinks_get_bind fun _ => inferInstance)
    (openClass left) (fun first τ _ => ?_) fun first τ => ?_
  · refine (classRest ((τ.closed after).rest.length + 1) first []).congr ?_ rfl
    refine classRest_fuel (Nat.lt_succ_self _) ?_
    simp
  · exact spendsAt_classRest (τ.rest.length + 1) first [] τ

/-! ### Repetitions -/

theorem repeatLast (branches : Branches) (few : Nat) (most : Option Nat) :
    Steady after least (repeatLast branches few most) σ := by
  unfold Scanner.repeatLast
  split
  · exact .ite (fun _ => .failure) fun _ => (take? (by decide)).bind fun _ _ _ => .pure _
  · exact .failure

theorem counts (left : σ.rest = c :: rest) : Steady after 1 counts σ := by
  unfold Scanner.counts
  refine (bumpSkip left).bind fun _ _ _ => decimal.bind fun few _ _ => ?_
  refine .peek_bind (fun c rest left => .ite (fun _ => ?_) fun _ => .pure _) (by simp)
  refine (bumpSkip left).bind fun _ _ _ => .peek_bind (fun c rest left => ?_) (by simp)
  refine .ite (fun _ => .pure _) fun _ => decimal.bind fun most _ _ => ?_
  exact .ite (fun _ => .failure) fun _ => .pure _

/-- A repetition in braces. -/
theorem counted (branches : Branches) (left : σ.rest = c :: rest) :
    Steady after 0 (counted branches) σ := by
  unfold Scanner.counted
  refine bind_spends (counts left) (fun found σ _ => ?_) fun _ σ => ?_
  · refine .peek_bind (fun c rest left => ?_) fun _ _ _ => .failure
    refine .ite (fun _ => .failure) fun _ => ?_
    exact (bumpSkip left).bind fun _ _ _ => repeatLast _ _ _
  · refine .peek_bind fun c rest left => .ite (fun _ => .failure) fun _ => ?_
    exact (SpendsAt.bumpSkip left).bind_left

end Steady

end Scanner

end MethodTrace.Pattern
