import Mathlib
import MethodTrace.Pattern.Parser
import MethodTrace.Proofs.DescriptorSpellings

/-!
What readers of patterns take.

A reader takes characters from the front of what is left and leaves the rest. So what is left
behind it is an end of what was left before it, and behind a reader that takes a character it is
shorter. Classes in brackets and runs of characters are read with a limit on the number of steps,
and any limit that is not below what is left gives the same result.
-/

namespace MethodTrace.Unicode

theorem whitespace_eq : whitespace = ⟨[(9, 13), (32, 32), (133, 133), (160, 160), (5760, 5760),
    (8192, 8202), (8232, 8233), (8239, 8239), (8287, 8287), (12288, 12288)]⟩ := by
  have found : (properties.find? fun set => set.names.contains "whitespace")
      = some ⟨["whitespace", "wspace", "space"],
        "9 5 12 1 64 1 1a 1 15df 1 97f b 1d 2 5 1 2f 1 fa0 1"⟩ := rfl
  have set : NamedSet.toCharSet ⟨["whitespace", "wspace", "space"],
      "9 5 12 1 64 1 1a 1 15df 1 97f b 1d 2 5 1 2f 1 fa0 1"⟩
      = ⟨[(9, 13), (32, 32), (133, 133), (160, 160), (5760, 5760), (8192, 8202), (8232, 8233),
        (8239, 8239), (8287, 8287), (12288, 12288)]⟩ := by decide +kernel
  simp only [whitespace, NamedSet.unionOf, NamedSet.find?, found, Option.map_some,
    Option.getD_some, set, List.foldl]
  cbv

end MethodTrace.Unicode

namespace MethodTrace.Pattern

variable {α β : Type}

/-! ### Blanks -/

/-- Printed ASCII characters are no blanks. -/
theorem isBlank_eq_false {c : Char} (above : 32 < c.toNat) (below : c.toNat < 133) :
    isBlank c = false := by
  rw [isBlank, Unicode.whitespace_eq]
  simp only [CharSet.contains, CharSet.containsNat, List.any_cons, List.any_nil, Bool.or_false,
    Bool.or_eq_false_iff, Bool.and_eq_false_iff, decide_eq_false_iff_not]
  omega

theorem skipBlank_suffix (inComment : Bool) (text : List Char) :
    skipBlank inComment text <:+ text := by
  induction text generalizing inComment with
  | nil => simp [skipBlank]
  | cons c rest ih =>
    rw [skipBlank]
    split
    · exact (ih _).trans (List.suffix_cons c rest)
    split
    · exact (ih _).trans (List.suffix_cons c rest)
    split
    · exact (ih _).trans (List.suffix_cons c rest)
    · exact List.suffix_rfl

theorem skipBlank_comment {text : List Char} (h : '\n' ∉ text) : skipBlank true text = [] := by
  induction text with
  | nil => rfl
  | cons c rest ih =>
    rw [List.mem_cons, not_or] at h
    have line : (c != '\n') = true := bne_iff_ne.mpr (Ne.symm h.1)
    rw [skipBlank, if_pos rfl, line, ih h.2]

theorem skipBlank_skipBlank (text : List Char) (inComment : Bool) :
    skipBlank false (skipBlank inComment text) = skipBlank inComment text := by
  induction text generalizing inComment with
  | nil => rfl
  | cons c rest ih =>
    rw [skipBlank]
    split
    · exact ih _
    split
    · exact ih _
    split
    · exact ih _
    · rename_i solid mark
      simp [skipBlank, solid, mark]

/-- What is left where blanks are skipped if they are to be. -/
def Scan.skipped (σ : Scan) : Scan :=
  if σ.verbose then { σ with rest := skipBlank false σ.rest } else σ

@[simp] theorem Scan.with_skipped (σ : Scan) : { σ with rest := σ.skipped.rest } = σ.skipped := by
  unfold Scan.skipped
  split <;> rfl

namespace Scanner

/-! ### Readers one after another -/

variable {m n : Scanner α} {f : α → Scanner β} {σ τ : Scan} {c : Char} {rest : List Char}

theorem bind_eq_some_iff {b : β} {υ : Scan} :
    (m >>= f) σ = some (b, υ) ↔ ∃ a τ, m σ = some (a, τ) ∧ f a τ = some (b, υ) := by
  change (m σ >>= fun p => f p.1 p.2) = some (b, υ) ↔ _
  simp [Option.bind_eq_some_iff]

theorem bind_of_some {a : α} (h : m σ = some (a, τ)) : (m >>= f) σ = f a τ := by
  change (m σ >>= fun p => f p.1 p.2) = _
  rw [h]
  rfl

theorem bind_of_none (h : m σ = none) : (m >>= f) σ = none := by
  change (m σ >>= fun p => f p.1 p.2) = _
  rw [h]
  rfl

theorem pure_eq_some_iff {a b : α} :
    (pure a : Scanner α) σ = some (b, τ) ↔ a = b ∧ σ = τ := by
  change some (a, σ) = some (b, τ) ↔ _
  simp

theorem failure_eq : (failure : Scanner α) σ = none := rfl

theorem bind_congr_at {g : α → Scanner β}
    (h : ∀ a τ, m σ = some (a, τ) → f a τ = g a τ) : (m >>= f) σ = (m >>= g) σ := by
  cases read : m σ with
  | none => rw [bind_of_none read, bind_of_none read]
  | some found => rw [bind_of_some read, bind_of_some read, h _ _ read]

theorem modify_eq_some_iff {g : Scan → Scan} {u : Unit} :
    (modify g : Scanner Unit) σ = some (u, τ) ↔ g σ = τ := by
  change some ((), g σ) = some (u, τ) ↔ _
  simp

theorem get_bind_eq (g : Scan → Scanner β) : (get >>= g) σ = g σ σ := rfl

theorem peek_eq (h : σ.rest = c :: rest) : peek σ = some (c, σ) := by
  rw [peek, get_bind_eq, h]
  rfl

theorem peek_eq_none (h : σ.rest = []) : peek σ = none := by
  rw [peek, get_bind_eq, h]
  rfl

theorem peek_eq_some_iff :
    peek σ = some (c, τ) ↔ σ = τ ∧ ∃ rest, σ.rest = c :: rest := by
  cases left : σ.rest with
  | nil => simp [peek_eq_none left]
  | cons d rest =>
    rw [peek_eq left, Option.some_inj, Prod.mk.injEq, and_comm]
    simp [eq_comm]

theorem bump_eq (left : σ.rest = c :: rest) :
    bump σ = some ((), { σ with rest }) := by
  change some ((), { σ with rest := σ.rest.tail }) = _
  rw [left, List.tail_cons]

theorem eq_of_bump {u : Unit} (left : σ.rest = c :: rest)
    (taken : bump σ = some (u, τ)) : { σ with rest } = τ := by
  have same := modify_eq_some_iff.mp taken
  rwa [left, List.tail_cons] at same

theorem take?_eq (text : List Char) (σ : Scan) :
    take? text σ = if text.isPrefixOf σ.rest
      then some (true, { σ with rest := σ.rest.drop text.length }) else some (false, σ) := by
  change (if text.isPrefixOf σ.rest
      then (do set { σ with rest := σ.rest.drop text.length }; return true : Scanner Bool)
      else return false) σ = _
  split <;> rfl

theorem eq_of_attempt_none {reader : Scanner (Option α)}
    (h : attempt reader σ = some (none, τ)) : τ = σ := by
  unfold attempt at h
  split at h
  · cases h
  · cases h
    rfl
  · cases h

/-! ### What is left -/

set_option synthInstance.maxSize 5000
set_option synthInstance.maxHeartbeats 200000

/-- A reader that leaves an end of what it finds. -/
class Shrinks (m : Scanner α) : Prop where
  suffix : ∀ σ a τ, m σ = some (a, τ) → τ.rest <:+ σ.rest

theorem Shrinks.bind (hm : Shrinks m) (hf : ∀ a, Shrinks (f a)) : Shrinks (m >>= f) where
  suffix σ b υ h := by
    obtain ⟨a, τ, first, second⟩ := bind_eq_some_iff.mp h
    exact ((hf a).suffix τ b υ second).trans (hm.suffix σ a τ first)

instance [Shrinks m] [∀ a, Shrinks (f a)] : Shrinks (m >>= f) :=
  Shrinks.bind inferInstance inferInstance

instance (a : α) : Shrinks (pure a : Scanner α) where
  suffix σ b τ h := by
    rw [(pure_eq_some_iff.mp h).2]

instance : Shrinks (failure : Scanner α) where
  suffix _ _ _ h := nomatch h

theorem Shrinks.ite {p : Prop} {_ : Decidable p} (hm : Shrinks m) (hn : Shrinks n) :
    Shrinks (if p then m else n) := by
  split
  · exact hm
  · exact hn

instance {p : Prop} {_ : Decidable p} [Shrinks m] [Shrinks n] : Shrinks (if p then m else n) :=
  Shrinks.ite inferInstance inferInstance

theorem shrinks_modify {g : Scan → Scan} (h : ∀ σ, (g σ).rest <:+ σ.rest) :
    Shrinks (modify g : Scanner Unit) where
  suffix σ _ τ taken := by
    rw [← modify_eq_some_iff.mp taken]
    exact h σ

theorem shrinks_get_bind {g : Scan → Scanner β} (h : ∀ σ, Shrinks (g σ)) :
    Shrinks (get >>= g) where
  suffix σ := (h σ).suffix σ

instance : Shrinks peek? := shrinks_get_bind fun _ => inferInstance

instance : Shrinks peek :=
  shrinks_get_bind fun _ => by
    split <;> infer_instance

instance : Shrinks skip :=
  shrinks_modify fun σ => by
    split
    · exact skipBlank_suffix false σ.rest
    · exact List.suffix_rfl

instance : Shrinks bump :=
  shrinks_modify fun _ => List.tail_suffix _

instance : Shrinks bumpSkip :=
  inferInstanceAs (Shrinks (bump >>= fun _ => skip))

instance (text : List Char) : Shrinks (take? text) where
  suffix σ b τ h := by
    rw [take?_eq] at h
    split at h
    · cases h
      exact List.drop_suffix _ _
    · cases h
      exact List.suffix_rfl

instance (reader : Scanner (Option α)) [Shrinks reader] : Shrinks (attempt reader) where
  suffix σ a τ h := by
    rw [attempt] at h
    split at h
    · rename_i read
      cases h
      exact Shrinks.suffix _ _ _ read
    · cases h
      exact List.suffix_rfl
    · cases h

instance (verbose : Bool) : Shrinks (setVerbose verbose) :=
  shrinks_modify fun _ => List.suffix_rfl

/-! ### Readers that take a character -/

/-- A reader takes a character if it succeeds. -/
def SpendsAt (m : Scanner α) (σ : Scan) : Prop :=
  ∀ a τ, m σ = some (a, τ) → τ.rest.length < σ.rest.length

theorem SpendsAt.bind_left (hm : SpendsAt m σ) [∀ a, Shrinks (f a)] : SpendsAt (m >>= f) σ := by
  intro b υ h
  obtain ⟨a, τ, first, second⟩ := bind_eq_some_iff.mp h
  exact (Shrinks.suffix τ b υ second).length_le.trans_lt (hm a τ first)

theorem spendsAt_get_bind {g : Scan → Scanner β} :
    SpendsAt (get >>= g) σ ↔ SpendsAt (g σ) σ := Iff.rfl

theorem SpendsAt.bind_right [Shrinks m] (hf : ∀ a τ, m σ = some (a, τ) → SpendsAt (f a) τ) :
    SpendsAt (m >>= f) σ := by
  intro b υ h
  obtain ⟨a, τ, first, second⟩ := bind_eq_some_iff.mp h
  exact (hf a τ first b υ second).trans_le (Shrinks.suffix σ a τ first).length_le

theorem SpendsAt.peek_bind {f : Char → Scanner β}
    (hf : ∀ c rest, σ.rest = c :: rest → SpendsAt (f c) σ) : SpendsAt (peek >>= f) σ := by
  cases left : σ.rest with
  | nil =>
    intro b τ h
    cases (bind_of_none (peek_eq_none left)).symm.trans h
  | cons c rest =>
    intro b τ h
    rw [bind_of_some (peek_eq left)] at h
    exact hf c rest left b τ h

theorem SpendsAt.failure : SpendsAt (failure : Scanner α) σ :=
  fun _ _ h => nomatch h

theorem SpendsAt.ite {p : Prop} {_ : Decidable p} (hm : p → SpendsAt m σ)
    (hn : ¬p → SpendsAt n σ) : SpendsAt (if p then m else n) σ := by
  split
  · exact hm ‹_›
  · exact hn ‹_›

theorem SpendsAt.bump (h : σ.rest = c :: rest) : SpendsAt bump σ := by
  intro u τ taken
  cases modify_eq_some_iff.mp taken
  simp [h]

theorem SpendsAt.bumpSkip (h : σ.rest = c :: rest) : SpendsAt bumpSkip σ :=
  (SpendsAt.bump h).bind_left

/-! ### Blanks and numbers -/

theorem skip_eq (σ : Scan) : skip σ = some ((), σ.skipped) := rfl

theorem skipped_skipped (σ : Scan) : σ.skipped.skipped = σ.skipped := by
  obtain ⟨text, verbose, names⟩ := σ
  cases verbose with
  | false => rfl
  | true => simp only [Scan.skipped, ↓reduceIte, skipBlank_skipBlank]

theorem skipped_of_nil (h : σ.rest = []) : σ.skipped.rest = [] := by
  unfold Scan.skipped
  split
  · rw [h]
    rfl
  · exact h

theorem skipped_of_solid (left : σ.rest = c :: rest)
    (solid : isBlank c = false) (h : c ≠ '#') : σ.skipped = σ := by
  unfold Scan.skipped
  split
  · obtain ⟨text, verbose, names⟩ := σ
    subst left
    simp [skipBlank, solid, h]
  · rfl

theorem takeWhileSkip_nil (test : Char → Bool) (fuel : Nat) (h : σ.rest = []) :
    takeWhileSkip test fuel σ = some ([], σ) := by
  cases fuel with
  | zero => rfl
  | succ fuel =>
    rw [takeWhileSkip, get_bind_eq, h]
    rfl

theorem takeWhileSkip_cons (test : Char → Bool) (fuel : Nat) (h : σ.rest = c :: rest) :
    takeWhileSkip test (fuel + 1) σ
      = (if test c then do
          bumpSkip
          return c :: (← takeWhileSkip test fuel)
        else return []) σ := by
  rw [takeWhileSkip, get_bind_eq, h]

/-- A reader of characters that pass a test can be given more steps than there are characters. -/
theorem takeWhileSkip_fuel (test : Char → Bool) {few many : Nat} (σ : Scan)
    (h : σ.rest.length ≤ few) (le : few ≤ many) :
    takeWhileSkip test few σ = takeWhileSkip test many σ := by
  induction few generalizing many σ with
  | zero =>
    have nothing := List.length_eq_zero_iff.mp (Nat.le_zero.mp h)
    rw [takeWhileSkip_nil test _ nothing, takeWhileSkip_nil test _ nothing]
  | succ few ih =>
    cases left : σ.rest with
    | nil => rw [takeWhileSkip_nil test _ left, takeWhileSkip_nil test _ left]
    | cons c rest =>
      obtain ⟨many, rfl⟩ := Nat.exists_eq_succ_of_ne_zero (by omega : many ≠ 0)
      rw [takeWhileSkip_cons test _ left, takeWhileSkip_cons test _ left]
      split
      · refine bind_congr_at fun _ τ taken => ?_
        have lt := SpendsAt.bumpSkip left _ τ taken
        exact congrArg (· >>= _) (ih τ (by omega) (by omega))
      · rfl

instance (test : Char → Bool) (fuel : Nat) : Shrinks (takeWhileSkip test fuel) := by
  induction fuel with
  | zero => exact inferInstanceAs (Shrinks (pure []))
  | succ fuel ih =>
    refine shrinks_get_bind fun _ => ?_
    split <;> infer_instance

instance (test : Char → Bool) : Shrinks (takeAll test) :=
  shrinks_get_bind fun _ => inferInstance

instance : Shrinks skipBlanks :=
  shrinks_modify fun _ => List.dropWhile_suffix _

instance : Shrinks decimal := by
  unfold decimal
  infer_instance

instance (n : Nat) : Shrinks (charOfNat n) := by
  unfold charOfNat
  infer_instance

instance (count : Nat) : Shrinks (hexDigits count) := by
  induction count with
  | zero => exact inferInstanceAs (Shrinks (pure []))
  | succ count ih =>
    rw [hexDigits]
    infer_instance

instance (digits : List Char) : Shrinks (charOfDigits digits) := by
  unfold charOfDigits
  split <;> infer_instance

instance : Shrinks hexLiteral := by
  unfold hexLiteral
  dsimp only
  infer_instance

instance : Shrinks propertyClass := by
  have property (negated : Bool) (name : List Char) : Shrinks
      (match queryOfName (String.ofList name) with
        | (query, inverted) => pure (.property query (negated != inverted)) : Scanner Primitive) :=
    inferInstanceAs (Shrinks (pure _))
  unfold propertyClass
  dsimp only
  infer_instance

/-! ### Word boundaries and escapes -/

/-- The side of a word that a name stands for. -/
def sideOf (name : List Char) : Scanner (Option Assertion) := do
  match String.ofList name with
  | "start" => return some .wordStart
  | "end" => return some .wordEnd
  | "start-half" => return some .wordStartHalf
  | "end-half" => return some .wordEndHalf
  | _ => failure

theorem sideOf_cases (name : List Char) :
    sideOf name = failure ∨ ∃ side, sideOf name = pure (some side) := by
  unfold sideOf
  split
  · exact .inr ⟨_, rfl⟩
  · exact .inr ⟨_, rfl⟩
  · exact .inr ⟨_, rfl⟩
  · exact .inr ⟨_, rfl⟩
  · exact .inl rfl

instance (name : List Char) : Shrinks (sideOf name) := by
  obtain unnamed | ⟨side, named⟩ := sideOf_cases name
  · rw [unnamed]
    infer_instance
  · rw [named]
    infer_instance

/-- Reads the name of a side of a word, and the brace behind it. -/
def boundaryName : Scanner (Option Assertion) := do
  let name ← takeAll fun c => c.isAlpha || c == '-'
  if (← peek) ≠ '}' then failure
  bump
  sideOf name

instance : Shrinks boundaryName := by
  unfold boundaryName
  dsimp only
  infer_instance

theorem boundaryName_ne_none (σ τ : Scan) : boundaryName σ ≠ some (none, τ) := by
  intro h
  obtain ⟨name, τ₁, -, h⟩ := bind_eq_some_iff.mp h
  obtain ⟨c, τ₂, -, h⟩ := bind_eq_some_iff.mp h
  dsimp only at h
  split at h
  · cases h
  · obtain ⟨u, τ₃, -, h⟩ := bind_eq_some_iff.mp h
    obtain unnamed | ⟨side, named⟩ := sideOf_cases name
    · rw [unnamed] at h
      cases h
    · rw [named] at h
      cases h

theorem boundarySide?_eq : boundarySide? = attempt (do
    bumpSkip
    let c ← peek
    if !(c.isAlpha || c == '-') then pure none else boundaryName) := rfl

instance : Shrinks boundarySide? := by
  rw [boundarySide?_eq]
  infer_instance

theorem boundarySide?_of_next (taken : bumpSkip σ = some ((), τ)) (next : τ.rest = c :: rest) :
    boundarySide? σ = if c.isAlpha || c == '-' then boundaryName τ else some (none, σ) := by
  have read : (do
      bumpSkip
      let c ← peek
      if !(c.isAlpha || c == '-') then pure none else boundaryName : Scanner (Option Assertion)) σ
      = (if !(c.isAlpha || c == '-') then pure none else boundaryName) τ := by
    rw [bind_of_some taken, bind_of_some (peek_eq next)]
  rw [boundarySide?_eq, attempt, read]
  cases c.isAlpha || c == '-' with
  | false => rfl
  | true =>
    simp only [Bool.not_true, Bool.false_eq_true, ↓reduceIte]
    split
    · exact Eq.symm ‹_›
    · exact absurd ‹_› (boundaryName_ne_none τ _)
    · exact Eq.symm ‹_›

/-- Reads a word boundary behind its letter. -/
def wordBoundary : Scanner Primitive := do
  if (← peek?) = some '{' then
    return .assertion ((← boundarySide?).getD .wordBoundary)
  else return .assertion .wordBoundary

instance : Shrinks escape := by
  unfold escape
  refine .bind inferInstance fun c => ?_
  dsimp only
  split
  · infer_instance
  split
  · infer_instance
  refine .bind inferInstance fun _ => ?_
  split <;> infer_instance

instance : Shrinks primitive := by
  unfold primitive
  refine .bind inferInstance fun c => .bind inferInstance fun _ => ?_
  split <;> infer_instance

theorem escape_of_b (left : σ.rest = 'b' :: rest) :
    escape σ = wordBoundary { σ with rest } := by
  unfold escape
  rw [bind_of_some (peek_eq left)]
  exact bind_of_some (bump_eq left)

theorem primitive_of_escape (left : σ.rest = '\\' :: rest) :
    primitive σ = escape { σ with rest } := by
  unfold primitive
  rw [bind_of_some (peek_eq left)]
  exact bind_of_some (bump_eq left)

theorem escape_boundary {item : Primitive}
    (left : σ.rest = 'b' :: rest) (h : escape σ = some (item, τ)) :
    ∃ assertion, item = .assertion assertion ∧ (τ = { σ with rest } ∨
      boundarySide? { σ with rest } = some (some assertion, τ)) := by
  rw [escape_of_b left, wordBoundary, bind_of_some rfl] at h
  split at h
  · obtain ⟨side, υ, found, h⟩ := bind_eq_some_iff.mp h
    obtain ⟨rfl, rfl⟩ := pure_eq_some_iff.mp h
    refine ⟨_, rfl, ?_⟩
    cases side with
    | none => exact .inl (eq_of_attempt_none found)
    | some side => exact .inr found
  · obtain ⟨rfl, rfl⟩ := pure_eq_some_iff.mp h
    exact ⟨_, rfl, .inl rfl⟩

theorem spendsAt_primitive (σ : Scan) : SpendsAt primitive σ := by
  unfold primitive
  refine .peek_bind fun c rest left => @SpendsAt.bind_left _ _ _ _ _ (.bump left) fun _ => ?_
  split <;> infer_instance

/-! ### Groups -/

theorem flagsFrom_cons (negated : Bool) (found : FlagList) (c : Char) (text : List Char) :
    flagsFrom negated found (c :: text) =
      if c = ':' ∨ c = ')' then some (found, c :: text)
      else if c = '-' then text.head?.bind fun next =>
        if negated || next == ':' || next == ')' then none else flagsFrom true found text
      else (flagOfLetter? c).bind fun flag =>
        if found.any (·.1 == flag) then none
        else flagsFrom negated (found ++ [(flag, !negated)]) text := by
  cases text <;> rfl

theorem flagsFrom_suffix {negated : Bool} {found given : FlagList} {text rest : List Char}
    (h : flagsFrom negated found text = some (given, rest)) : rest <:+ text := by
  induction text generalizing negated found with
  | nil => cases h
  | cons c text ih =>
    rw [flagsFrom_cons] at h
    split at h
    · cases h
      exact List.suffix_rfl
    split at h
    all_goals
      obtain ⟨next, -, h⟩ := Option.bind_eq_some_iff.mp h
      split at h
      · cases h
      · exact (ih h).trans (List.suffix_cons _ _)

theorem flags_eq (σ : Scan) :
    flags σ = (flagsFrom false [] σ.rest).map fun (found, rest) => (found, { σ with rest }) := by
  rw [flags, get_bind_eq]
  cases flagsFrom false [] σ.rest <;> rfl

theorem flags_eq_some_iff {given : FlagList} : flags σ = some (given, τ) ↔
    flagsFrom false [] σ.rest = some (given, τ.rest) ∧ { σ with rest := τ.rest } = τ := by
  rw [flags_eq, Option.map_eq_some_iff]
  constructor
  · rintro ⟨⟨given, rest⟩, read, same⟩
    cases same
    exact ⟨read, rfl⟩
  · rintro ⟨read, same⟩
    exact ⟨_, read, congrArg (Prod.mk given) same⟩

instance : Shrinks flags where
  suffix σ found τ h := by
    rw [flags_eq] at h
    obtain ⟨⟨given, rest⟩, read, same⟩ := Option.map_eq_some_iff.mp h
    cases same
    exact flagsFrom_suffix read

/-- Whether a text may be the name of a group. -/
def isGroupName : List Char → Bool
  | [] => false
  | c :: rest => isNameChar true c && rest.all (isNameChar false)

theorem groupName_eq_some_iff {u : Unit} {name : List Char}
    (hn : σ.rest.takeWhile (· != '>') = name) : groupName σ = some (u, τ) ↔
      (isGroupName name ∧ σ.rest.length ≠ name.length ∧ name ∉ σ.names) ∧
        { σ with rest := σ.rest.drop (name.length + 1), names := name :: σ.names } = τ := by
  subst hn
  change (if !isGroupName (σ.rest.takeWhile (· != '>'))
        || σ.rest.length == (σ.rest.takeWhile (· != '>')).length
        || σ.names.contains (σ.rest.takeWhile (· != '>'))
    then failure
    else set { σ with
      rest := σ.rest.drop ((σ.rest.takeWhile (· != '>')).length + 1)
      names := σ.rest.takeWhile (· != '>') :: σ.names } : Scanner Unit) σ = some (u, τ) ↔ _
  have set_iff (υ : Scan) : (set υ : Scanner Unit) σ = some (u, τ) ↔ υ = τ := by
    change some ((), υ) = some (u, τ) ↔ _
    simp
  split
  · rename_i unfit
    simp only [Bool.or_eq_true, Bool.not_eq_true', beq_iff_eq, List.contains_iff_mem] at unfit
    simp only [failure_eq, reduceCtorEq, false_iff]
    rintro ⟨⟨formed, ends, fresh⟩, -⟩
    obtain (unformed | same) | used := unfit
    · exact absurd formed (by rw [unformed]; decide)
    · exact ends same
    · exact fresh used
  · rename_i fit
    simp only [Bool.or_eq_true, Bool.not_eq_true', beq_iff_eq, List.contains_iff_mem, not_or,
      Bool.not_eq_false] at fit
    rw [set_iff, and_iff_right ⟨fit.1.1, fit.1.2, fit.2⟩]

instance : Shrinks groupName where
  suffix σ u τ h := by
    rw [← ((groupName_eq_some_iff rfl).mp h).2]
    exact List.drop_suffix _ _

theorem groupName_spelled {u : Unit} {name : List Char}
    (spelled : σ.rest = name ++ '>' :: rest) (h : '>' ∉ name) : groupName σ = some (u, τ) ↔
      (isGroupName name ∧ name ∉ σ.names) ∧ { σ with rest, names := name :: σ.names } = τ := by
  have name_eq : σ.rest.takeWhile (· != '>') = name := by
    rw [spelled, takeWhile_ne_append h]
  have longer : σ.rest.length ≠ name.length := by
    rw [spelled, List.length_append, List.length_cons]
    omega
  have behind : σ.rest.drop (name.length + 1) = rest := by
    rw [spelled, ← List.drop_drop, List.drop_left, List.drop_one, List.tail_cons]
  rw [groupName_eq_some_iff name_eq, behind, and_iff_right longer]

/-- Fails if a text comes next; a step of a loop. -/
abbrev refuse (text : String) (_ : Unit) : Scanner (ForInStep Unit) := do
  if ← take? text.toList then failure
  return .yield ()

theorem refuse_eq (text : String) (σ : Scan) : refuse text () σ
    = if text.toList.isPrefixOf σ.rest then none else some (.yield (), σ) := by
  have taken := take?_eq text.toList σ
  rw [refuse]
  split at taken
  · rename_i next
    rw [bind_of_some taken, if_pos next]
    rfl
  · rename_i other
    rw [bind_of_some taken, if_neg other]
    rfl

/-- A loop that fails on any of some texts. -/
theorem forIn_refuse (texts : List String) (σ : Scan) : forIn texts () refuse σ
    = if texts.any (·.toList.isPrefixOf σ.rest) then none else some ((), σ) := by
  induction texts with
  | nil => rfl
  | cons text texts ih =>
    have first := refuse_eq text σ
    rw [List.forIn_cons, List.any_cons]
    cases next : text.toList.isPrefixOf σ.rest with
    | true =>
      rw [next, if_pos rfl] at first
      exact bind_of_none first
    | false =>
      rw [next, if_neg Bool.false_ne_true] at first
      exact (bind_of_some first).trans ih

instance (texts : List String) : Shrinks (forIn texts () refuse) where
  suffix σ u τ h := by
    rw [forIn_refuse] at h
    split at h
    · cases h
    · cases h
      exact List.suffix_rfl

instance : Shrinks opening := by
  unfold opening
  dsimp only
  infer_instance

theorem spendsAt_opening (left : σ.rest = c :: rest) : SpendsAt opening σ := by
  unfold opening
  dsimp only
  exact (SpendsAt.bump left).bind_left

/-! ### Repetitions -/

instance (branches : Branches) (least : Nat) (most : Option Nat) :
    Shrinks (repeatLast branches least most) := by
  unfold repeatLast
  split <;> infer_instance

instance : Shrinks counts := by
  unfold counts
  infer_instance

instance (branches : Branches) : Shrinks (counted branches) := by
  unfold counted
  refine .bind inferInstance fun counts => ?_
  split
  infer_instance

theorem spendsAt_counted (branches : Branches) (σ : Scan) : SpendsAt (counted branches) σ := by
  unfold counted
  refine .bind_right fun found σ _ => .peek_bind fun c rest left => ?_
  exact .ite (fun _ => .failure) fun _ => (SpendsAt.bumpSkip left).bind_left

end Scanner

end MethodTrace.Pattern
