import MethodTrace.Proofs.BracketReaders

/-!
Readers that do not see what stands behind the end of a group.

A text is closed when a closing parenthesis and some more text are put behind it. A reader is steady
if it does the same with the text and with the closed text, as long as it leaves enough of the text.
There is one exception: where blanks are skipped, a comment at the end of the text goes on up to the
end of the line, so it takes in the parenthesis too.
-/

namespace MethodTrace.Pattern

set_option synthInstance.maxSize 5000
set_option synthInstance.maxHeartbeats 200000

variable {α β : Type}

/-! ### Closed texts -/

theorem isBlank_paren : isBlank ')' = false :=
  isBlank_eq_false (by decide) (by decide)

/-- Blanks are skipped the same way in a closed text, unless a comment is still open. -/
theorem skipBlank_append (inComment : Bool) (text : List Char) :
    (∀ after, skipBlank inComment (text ++ ')' :: after)
        = skipBlank inComment text ++ ')' :: after) ∨
      ((inComment ∨ '#' ∈ text) ∧ skipBlank inComment text = []) ∧
        ∀ after, skipBlank inComment (text ++ ')' :: after) = skipBlank true after := by
  induction text generalizing inComment with
  | nil =>
    cases inComment with
    | true => exact .inr ⟨⟨.inl rfl, rfl⟩, fun after => by simp [skipBlank]⟩
    | false => exact .inl fun after => by simp [skipBlank, isBlank_paren]
  | cons c rest ih =>
    simp only [List.cons_append, skipBlank]
    split
    · rename_i open_
      exact (ih _).imp_right fun ended => ⟨⟨.inl open_, ended.1.2⟩, ended.2⟩
    split
    · refine (ih _).imp_right fun ended => ⟨⟨.inr ?_, ended.1.2⟩, ended.2⟩
      exact List.mem_cons_of_mem c (ended.1.1.resolve_left Bool.false_ne_true)
    split
    · rename_i mark
      exact (ih _).imp_right fun ended => ⟨⟨.inr (mark ▸ List.mem_cons_self), ended.1.2⟩, ended.2⟩
    · exact .inl fun _ => rfl

theorem dropWhile_isBlank_append (text after : List Char) :
    (text ++ ')' :: after).dropWhile isBlank = text.dropWhile isBlank ++ ')' :: after := by
  rw [List.dropWhile_append]
  split
  · rename_i all
    rw [List.isEmpty_iff.mp all, List.dropWhile_cons_of_neg (by simp [isBlank_paren]),
      List.nil_append]
  · rfl

theorem prefix_append_paren {text front after : List Char} (h : ')' ∉ text) :
    text <+: front ++ ')' :: after ↔ text <+: front := by
  refine ⟨fun cut => ?_, fun cut => cut.trans (List.prefix_append _ _)⟩
  obtain inside | ⟨behind, rfl⟩ :=
    List.prefix_or_prefix_of_prefix cut (List.prefix_append front (')' :: after))
  · exact inside
  · rw [List.prefix_append_right_inj] at cut
    cases behind with
    | nil => rw [List.append_nil]
    | cons c behind =>
      have first := (List.cons_prefix_cons.mp cut).1
      exact absurd (by simp [first]) h

/-- A closing parenthesis and a text behind what is left. -/
def Scan.closed (σ : Scan) (after : List Char) : Scan :=
  { σ with rest := σ.rest ++ ')' :: after }

@[simp] theorem Scan.rest_closed (σ : Scan) (after : List Char) :
    (σ.closed after).rest = σ.rest ++ ')' :: after := rfl
@[simp] theorem Scan.verbose_closed (σ : Scan) (after : List Char) :
    (σ.closed after).verbose = σ.verbose := rfl

theorem Scan.rest_closed_of_nil {σ : Scan} (h : σ.rest = []) (after : List Char) :
    (σ.closed after).rest = ')' :: after := by
  rw [rest_closed, h, List.nil_append]

theorem Scan.rest_closed_of_cons {σ : Scan} {c : Char} {rest : List Char} (h : σ.rest = c :: rest)
    (after : List Char) : (σ.closed after).rest = c :: (rest ++ ')' :: after) := by
  rw [rest_closed, h, List.cons_append]

theorem Scan.isPrefixOf_closed {text : List Char} (h : ')' ∉ text) (σ : Scan) (after : List Char) :
    text.isPrefixOf (σ.closed after).rest = text.isPrefixOf σ.rest := by
  rw [Bool.eq_iff_iff, List.isPrefixOf_iff_prefix, List.isPrefixOf_iff_prefix]
  exact prefix_append_paren h

theorem Scan.exists_closed {after : List Char} {σ : Scan} (h : ')' :: after <:+ σ.rest) :
    ∃ τ : Scan, σ = τ.closed after := by
  obtain ⟨front, front_eq⟩ := h
  exact ⟨{ σ with rest := front }, by rw [Scan.closed, front_eq]⟩

theorem Scan.closed_inj {σ τ : Scan} {after : List Char} (h : σ.closed after = τ.closed after) :
    σ = τ := by
  obtain ⟨rest, verbose, names⟩ := σ
  obtain ⟨rest', verbose', names'⟩ := τ
  simpa [Scan.closed] using h

theorem Scan.skipped_closed (σ : Scan) (after : List Char) :
    (σ.closed after).skipped = σ.skipped.closed after ∨
      ('#' ∈ σ.rest ∧ σ.skipped.rest = []) ∧
        (σ.closed after).skipped = { σ with rest := skipBlank true after } := by
  obtain ⟨text, verbose, names⟩ := σ
  cases verbose with
  | false => exact .inl rfl
  | true =>
    obtain plain | ⟨⟨mark, done⟩, comment⟩ := skipBlank_append false text
    · left
      simp only [Scan.skipped, Scan.closed, ↓reduceIte, plain]
    · right
      refine ⟨⟨mark.resolve_left Bool.false_ne_true, done⟩, ?_⟩
      simp only [Scan.skipped, Scan.closed, ↓reduceIte, comment]

namespace Scanner

/-- A reader does the same with a text and with the closed text, as long as some characters are left
of the text, and up to a comment at its end. -/
structure Steady (after : List Char) (least : Nat) (m : Scanner α) (σ : Scan) : Prop where
  /-- What the reader takes from the closed text it takes from the text. -/
  back : ∀ a τ, least ≤ τ.rest.length → m (σ.closed after) = some (a, τ.closed after) →
    m σ = some (a, τ)
  /-- What the reader takes from the text it takes from the closed text, unless a comment at the end
  of the text takes in all that is behind it. -/
  forth : '\n' ∉ after → ∀ a τ, least ≤ τ.rest.length → m σ = some (a, τ) →
    m (σ.closed after) = some (a, τ.closed after) ∨
      ('#' ∈ σ.rest ∧ τ.rest = []) ∧ m (σ.closed after) = some (a, τ)

variable {m n : Scanner α} {f : α → Scanner β} {σ τ : Scan} {c : Char} {rest after : List Char}
variable {least more : Nat}

namespace Steady

/-! ### One reader after another -/

theorem mono (h : Steady after least m σ) (le : least ≤ more) : Steady after more m σ where
  back a τ left := h.back a τ (le.trans left)
  forth lines a τ left := h.forth lines a τ (le.trans left)

/-- The rule for two readers one after the other: the second one may need more to be left than the
first one, if it takes as much. -/
theorem bind_of [Shrinks m] [∀ a, Shrinks (f a)] (hm : Steady after least m σ)
    (hf : ∀ a τ, m σ = some (a, τ) → Steady after more (f a) τ)
    (spends : ∀ a τ b υ, f a τ = some (b, υ) → υ.rest.length + least ≤ τ.rest.length + more) :
    Steady after more (m >>= f) σ where
  back b υ enough h := by
    obtain ⟨a, τ', first, second⟩ := bind_eq_some_iff.mp h
    obtain ⟨τ, rfl⟩ := Scan.exists_closed
      ((List.suffix_append _ _).trans (Shrinks.suffix τ' b _ second))
    have left := spends a _ b _ second
    simp only [Scan.rest_closed, List.length_append] at left
    have first := hm.back a τ (by omega) first
    exact bind_eq_some_iff.mpr ⟨a, τ, first, (hf a τ first).back b υ enough second⟩
  forth lines b υ enough h := by
    obtain ⟨a, τ, first, second⟩ := bind_eq_some_iff.mp h
    have left := spends a τ b υ second
    obtain kept | ⟨done, kept⟩ := hm.forth lines a τ (by omega) first
    · obtain kept' | ⟨⟨mark, done⟩, kept'⟩ := (hf a τ first).forth lines b υ enough second
      · exact .inl (bind_eq_some_iff.mpr ⟨a, _, kept, kept'⟩)
      · have mark' := (Shrinks.suffix σ a τ first).mem mark
        exact .inr ⟨⟨mark', done⟩, bind_eq_some_iff.mpr ⟨a, _, kept, kept'⟩⟩
    · refine .inr ⟨⟨done.1, ?_⟩, bind_eq_some_iff.mpr ⟨a, _, kept, second⟩⟩
      have behind := Shrinks.suffix τ b υ second
      rw [done.2] at behind
      exact List.suffix_nil.mp behind

theorem bind [Shrinks m] [∀ a, Shrinks (f a)] (hm : Steady after least m σ)
    (hf : ∀ a τ, m σ = some (a, τ) → Steady after least (f a) τ) :
    Steady after least (m >>= f) σ :=
  hm.bind_of hf fun _ τ b υ h => Nat.add_le_add_right (Shrinks.suffix τ b υ h).length_le least

/-- Where the second reader takes a character, the first may leave none before the parenthesis. -/
theorem bind_spends [Shrinks m] [∀ a, Shrinks (f a)] (hm : Steady after 1 m σ)
    (hf : ∀ a τ, m σ = some (a, τ) → Steady after 0 (f a) τ)
    (spends : ∀ a τ, SpendsAt (f a) τ) : Steady after 0 (m >>= f) σ :=
  hm.bind_of hf fun a τ b υ h => spends a τ b υ h

/-- A reader that acts the same way on what is left with the parenthesis behind it. -/
theorem of_eq {a : α} {τ : Scan} (h : m σ = some (a, τ))
    (h' : m (σ.closed after) = some (a, τ.closed after)) : Steady after least m σ where
  back b υ _ found := by
    obtain ⟨rfl, same⟩ := Prod.mk.inj (Option.some.inj (h'.symm.trans found))
    rw [h, Scan.closed_inj same]
  forth _ b υ _ found := by
    cases found.symm.trans h
    exact .inl h'

theorem of_none (h : m σ = none) (h' : m (σ.closed after) = none) : Steady after least m σ where
  back _ _ _ found := nomatch h'.symm.trans found
  forth _ _ _ _ found := nomatch h.symm.trans found

theorem congr {m' : Scanner α} (h : Steady after least m' σ) (eq : m σ = m' σ)
    (eq' : m (σ.closed after) = m' (σ.closed after)) : Steady after least m σ where
  back a τ enough found := eq.trans (h.back a τ enough (eq'.symm.trans found))
  forth lines a τ enough found := by
    rw [eq']
    exact h.forth lines a τ enough (eq.symm.trans found)

protected theorem pure (a : α) : Steady after least (pure a) σ :=
  of_eq rfl rfl

protected theorem failure : Steady after least (failure : Scanner α) σ :=
  of_none rfl rfl

theorem ite {p : Prop} {_ : Decidable p} (hm : p → Steady after least m σ)
    (hn : ¬p → Steady after least n σ) : Steady after least (if p then m else n) σ := by
  split
  · exact hm ‹_›
  · exact hn ‹_›

theorem bump (h : σ.rest = c :: rest) : Steady after least bump σ := by
  refine of_eq rfl ?_
  change some ((), _) = some ((), _)
  simp [Scan.closed, h]

theorem peek? (h : σ.rest = c :: rest) : Steady after least peek? σ := by
  refine of_eq rfl ?_
  change some (_, _) = some (_, _)
  simp [Scan.closed, h]

/-- A reader that looks at the next character. If nothing is left, it may come upon the parenthesis
and succeed there, but then it leaves less than that. -/
theorem peek_bind {f : Char → Scanner β} [∀ c, Shrinks (f c)]
    (hf : ∀ c rest, σ.rest = c :: rest → Steady after least (f c) σ)
    (spends : least = 0 → ∀ τ : Scan, τ.rest = ')' :: after → SpendsAt (f ')') τ) :
    Steady after least (peek >>= f) σ := by
  cases left : σ.rest with
  | nil =>
    have closed := Scan.rest_closed_of_nil left after
    constructor
    · intro b τ enough h
      exfalso
      rw [bind_of_some (peek_eq closed)] at h
      have le := (Shrinks.suffix _ b _ h).length_le
      simp only [Scan.rest_closed, left, List.length_append, List.nil_append] at le
      have zero : least = 0 := by omega
      have lt := spends zero _ closed b _ h
      simp only [Scan.rest_closed, left, List.length_append, List.nil_append] at lt
      omega
    · intro lines b τ enough h
      rw [bind_of_none (peek_eq_none left)] at h
      cases h
  | cons c rest =>
    have closed := Scan.rest_closed_of_cons left after
    exact (hf c rest left).congr (bind_of_some (peek_eq left)) (bind_of_some (peek_eq closed))

theorem take? {text : List Char} (h : ')' ∉ text) : Steady after least (take? text) σ := by
  have same := σ.isPrefixOf_closed h after
  cases taken : text.isPrefixOf σ.rest with
  | false =>
    exact of_eq ((take?_eq text σ).trans (by rw [taken]; rfl))
      ((take?_eq text _).trans (by rw [same, taken]; rfl))
  | true =>
    have le := (List.isPrefixOf_iff_prefix.mp taken).length_le
    refine of_eq ((take?_eq text σ).trans (if_pos taken))
      ((take?_eq text _).trans ((if_pos (same.trans taken)).trans ?_))
    rw [Scan.rest_closed, List.drop_append_of_le_length le]
    rfl

/-! ### Blanks and numbers -/

theorem setVerbose (verbose : Bool) : Steady after least (setVerbose verbose) σ :=
  of_eq rfl rfl

theorem skipBlanks : Steady after least skipBlanks σ := by
  refine of_eq rfl ?_
  change some ((), _) = some ((), _)
  simp only [Scan.closed, dropWhile_isBlank_append]

theorem skip : Steady after least skip σ where
  back _ τ _ h := by
    rw [skip_eq] at h ⊢
    have same := congrArg Prod.snd (Option.some.inj h)
    obtain plain | ⟨-, comment⟩ := σ.skipped_closed after
    · rw [Scan.closed_inj (plain.symm.trans same)]
    · -- a comment that goes on takes in the parenthesis
      have left := congrArg (fun s => s.rest.length) (comment.symm.trans same)
      have le := (skipBlank_suffix true after).length_le
      simp only [Scan.rest_closed, List.length_append, List.length_cons] at left
      omega
  forth lines _ τ _ h := by
    rw [skip_eq] at h ⊢
    cases h
    obtain plain | ⟨ended, comment⟩ := σ.skipped_closed after
    · exact .inl (by rw [plain])
    · refine .inr ⟨ended, ?_⟩
      rw [comment, skipBlank_comment lines, ← ended.2, Scan.with_skipped]

theorem bumpSkip (h : σ.rest = c :: rest) : Steady after least bumpSkip σ :=
  (bump h).bind fun _ _ _ => skip

theorem takeWhileSkip {test : Char → Bool} (h : least = 0 → test ')' = false) (fuel : Nat) :
    Steady after least (takeWhileSkip test fuel) σ := by
  induction fuel generalizing σ with
  | zero => exact .pure []
  | succ fuel ih =>
    cases left : σ.rest with
    | nil =>
      have nothing := takeWhileSkip_nil test (fuel + 1) left
      have closed := Scan.rest_closed_of_nil left after
      cases stops : test ')' with
      | false =>
        refine of_eq nothing ?_
        rw [takeWhileSkip_cons test fuel closed, stops]
        rfl
      | true =>
        -- nothing is left before the parenthesis, and behind it less than that
        have pos : 0 < least := Nat.pos_of_ne_zero fun zero => by simp [h zero] at stops
        constructor
        · intro b τ enough found
          have le := (Shrinks.suffix _ b _ found).length_le
          simp only [Scan.rest_closed, left, List.length_append, List.nil_append] at le
          omega
        · intro _ b τ enough found
          cases nothing.symm.trans found
          rw [left, List.length_nil] at enough
          omega
    | cons c rest =>
      have closed := Scan.rest_closed_of_cons left after
      have steady : Steady after least (if test c then do
          Scanner.bumpSkip
          return c :: (← Scanner.takeWhileSkip test fuel)
        else return []) σ :=
        .ite (fun _ => (bumpSkip left).bind fun _ _ _ => ih.bind fun _ _ _ => .pure _)
          fun _ => .pure _
      exact steady.congr (takeWhileSkip_cons test fuel left) (takeWhileSkip_cons test fuel closed)

theorem takeAll {test : Char → Bool} (h : least = 0 → test ')' = false) :
    Steady after least (takeAll test) σ := by
  refine (takeWhileSkip h (σ.closed after).rest.length).congr ?_ rfl
  refine takeWhileSkip_fuel test σ le_rfl ?_
  simp

theorem decimal : Steady after least decimal σ := by
  unfold Scanner.decimal
  refine skipBlanks.bind fun _ _ _ => (takeAll fun _ => by decide).bind fun digits _ _ => ?_
  refine skipBlanks.bind fun _ _ _ => skip.bind fun _ _ _ => ?_
  exact .ite (fun _ => .failure) fun _ => .pure _

theorem charOfNat (number : Nat) : Steady after least (charOfNat number) σ := by
  unfold Scanner.charOfNat
  exact .ite (fun _ => .pure _) fun _ => .failure

theorem charOfDigits (digits : List Char) : Steady after least (charOfDigits digits) σ := by
  unfold Scanner.charOfDigits
  split
  · exact charOfNat _
  · exact .failure

theorem isHexDigit_paren : isHexDigit ')' = false := by decide

theorem spendsAt_hexDigits (count : Nat) (h : σ.rest = ')' :: rest) :
    SpendsAt (hexDigits (count + 1)) σ := by
  rw [Scanner.hexDigits]
  refine .peek_bind fun c rest' left => ?_
  cases h.symm.trans left
  exact .failure

theorem hexDigits (count : Nat) : Steady after least (hexDigits count) σ := by
  induction count generalizing σ with
  | zero => exact .pure []
  | succ count ih =>
    rw [Scanner.hexDigits]
    refine .peek_bind (fun c rest left => ?_) fun _ τ left => ?_
    · refine .ite (fun _ => .failure) fun _ => (bumpSkip left).bind fun _ _ _ => ?_
      exact ih.bind fun _ _ _ => .pure _
    · exact .failure

theorem hexLiteral : Steady after least hexLiteral σ := by
  unfold Scanner.hexLiteral
  dsimp only
  refine .peek_bind (fun letter rest left => ?_) fun _ τ left => (SpendsAt.bumpSkip left).bind_left
  refine (bumpSkip left).bind fun _ σ _ => .peek_bind (fun c rest left => ?_) fun _ τ left => ?_
  · refine .ite (fun _ => ?_) fun _ => ?_
    · refine (bumpSkip left).bind fun _ _ _ => ?_
      refine (takeAll fun _ => isHexDigit_paren).bind fun digits σ _ => ?_
      refine .peek_bind (fun c rest left => ?_) fun _ τ _ => .failure
      refine .ite (fun _ => .failure) fun _ => (bumpSkip left).bind fun _ _ _ => ?_
      exact (charOfDigits _).bind fun _ _ _ => .pure _
    · exact (hexDigits _).bind fun _ _ _ => (charOfDigits _).bind fun _ _ _ => .pure _
  · refine SpendsAt.bind_left ?_
    split_ifs
    · exact spendsAt_hexDigits 1 left
    · exact spendsAt_hexDigits 3 left
    · exact spendsAt_hexDigits 7 left

theorem propertyClass : Steady after least propertyClass σ := by
  unfold Scanner.propertyClass
  dsimp only
  refine .peek_bind (fun letter rest left => ?_) fun _ τ left => (SpendsAt.bumpSkip left).bind_left
  refine (bumpSkip left).bind fun _ σ _ => ?_
  refine .peek_bind (fun c rest left => ?_) fun _ τ left => (SpendsAt.bumpSkip left).bind_left
  refine .ite (fun _ => ?_) fun _ => .ite (fun _ => .failure) fun _ => ?_
  · refine (bumpSkip left).bind fun _ _ _ => ?_
    refine mono (bind_spends (takeAll (by simp)) (fun name σ _ => ?_) ?_) (Nat.zero_le least)
    · refine .peek_bind (fun c rest left => ?_) fun _ τ left => (SpendsAt.bump left).bind_left
      exact (bump left).bind fun _ _ _ => .pure _
    · exact fun name τ => .peek_bind fun c rest left => (SpendsAt.bump left).bind_left
  · exact (bumpSkip left).bind fun _ _ _ => .pure _

end Steady

end Scanner

end MethodTrace.Pattern
