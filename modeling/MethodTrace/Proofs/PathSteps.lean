import MethodTrace.Proofs.LooseFiles

/-!
Paths as steps: the parents of paths and the paths through which they lead.
-/

namespace MethodTrace

namespace Path

variable {path up : String} {body front : List String} {step : String}

/-- The steps of a path. -/
def steps (path : String) : List String :=
  (segments path.toList).filter (!isBlank ·)

/-- Pieces from which a path can be made so that it has the same pieces. -/
structure Pieces.Formed (pieces : Pieces) : Prop where
  slash_not_mem : ∀ segment ∈ pieces.body, '/' ∉ segment.toList
  lead : pieces.lead = "/" ∨ pieces.lead = "." ∧ (∀ segment ∈ pieces.body.head?, segment = "") ∨
    pieces.lead = "" ∧ (pieces.body = [""] ∨ pieces.body.head? ≠ some "")

theorem Pieces.Formed.of_front {lead : String} (h : Formed ⟨lead, body⟩) (hp : front <+: body) :
    Formed ⟨lead, front⟩ := by
  refine ⟨fun segment hs => h.slash_not_mem segment (hp.subset hs), ?_⟩
  cases front with
  | nil => simpa using h.lead.imp_right (Or.imp And.left And.left)
  | cons first front =>
    obtain ⟨rest, rfl⟩ := hp
    rcases h.lead with hl | ⟨hl, hf⟩ | ⟨hl, hf⟩
    · exact .inl hl
    · exact .inr (.inl ⟨hl, hf⟩)
    · refine .inr (.inr ⟨hl, ?_⟩)
      rcases hf with hf | hf
      · left
        simp only [List.cons_append, List.cons.injEq, List.append_eq_nil_iff] at hf
        simp [hf]
      · exact .inr hf

theorem intercalate_segments (text : List Char) :
    "/".intercalate (segments text) = String.ofList text := by
  apply String.toList_injective
  rw [String.toList_intercalate, segments, List.map_map]
  simp only [Function.comp_def, String.toList_ofList, List.map_id']
  exact List.intercalate_splitOn '/'

/-- A path is made of its pieces. -/
theorem toPath_pieces (path : String) : (pieces path).toPath = path := by
  have join := intercalate_segments
  unfold pieces
  split
  next rest h =>
    apply String.toList_injective
    simp [Pieces.toPath, join, h]
  next h =>
    apply String.toList_injective
    simp [Pieces.toPath, h]
  next rest h =>
    apply String.toList_injective
    simp [Pieces.toPath, join, h]
  next => simp [Pieces.toPath, join]

theorem formed_pieces (path : String) : (pieces path).Formed := by
  have plain (text : List Char) : ∀ segment ∈ segments text, '/' ∉ segment.toList :=
    fun _ => not_mem_of_mem_segments
  unfold pieces
  split
  next rest h => exact ⟨plain _, .inl rfl⟩
  next h => exact ⟨by simp, .inr (.inl ⟨rfl, by simp⟩)⟩
  next rest h =>
    refine ⟨plain _, .inr (.inl ⟨rfl, ?_⟩)⟩
    have cut : segments ('/' :: rest) = [""] ++ segments rest := segments_append_slash [] rest
    simp [cut]
  next hs _ _ =>
    refine ⟨plain _, .inr (.inr ⟨rfl, ?_⟩)⟩
    cases ht : path.toList with
    | nil => exact .inl rfl
    | cons c text =>
      right
      have hc : c ≠ '/' := by
        rintro rfl
        exact hs text ht
      obtain ⟨first, rest, cut⟩ := List.exists_cons_of_ne_nil (List.splitOnP_ne_nil (· == '/') text)
      rw [segments, List.splitOn_eq_splitOnP, List.splitOnP_cons_eq_if_modifyHead, cut]
      simp [hc]

theorem isBlank_iff : isBlank step = true ↔ step = "" ∨ step = "." := by
  simp [isBlank]

/-- What is made of some pieces is cut into them, beside pieces that name nothing. -/
theorem segments_toPath {pieces : Pieces} (h : pieces.Formed) :
    ∃ front rest, segments pieces.toPath.toList = front ++ rest ∧
      (∀ segment ∈ front, isBlank segment = true) ∧
      (rest = pieces.body ∨ pieces.body = "" :: rest) := by
  obtain ⟨lead, body⟩ := pieces
  have cut (text : List Char) : segments ('/' :: text) = "" :: segments text :=
    segments_append_slash [] text
  have joined {first : String} {rest : List String}
      (hs : ∀ segment ∈ first :: rest, '/' ∉ segment.toList) :
      segments ("/".intercalate (first :: rest)).toList = first :: rest :=
    segments_intercalate (by simp) hs
  rcases h.lead with hl | ⟨hl, hf⟩ | ⟨hl, _⟩
  · dsimp only at hl
    subst hl
    have text : (Pieces.toPath ⟨"/", body⟩).toList = '/' :: ("/".intercalate body).toList := by
      simp [Pieces.toPath]
    rw [text, cut]
    cases body with
    | nil => exact ⟨["", ""], [], by decide, by decide, .inl rfl⟩
    | cons first rest =>
      exact ⟨[""], first :: rest, by rw [joined h.slash_not_mem]; rfl, by decide, .inl rfl⟩
  · dsimp only at hl hf
    subst hl
    cases body with
    | nil => exact ⟨["."], [], by decide, by decide, .inl rfl⟩
    | cons first rest =>
      have hfirst : first = "" := hf first (by simp)
      subst hfirst
      refine ⟨["."], rest, ?_, by decide, .inr rfl⟩
      cases rest with
      | nil => decide
      | cons second rest =>
        have text : (Pieces.toPath ⟨".", "" :: second :: rest⟩).toList
            = ['.'] ++ '/' :: ("/".intercalate (second :: rest)).toList := by
          simp [Pieces.toPath, String.intercalate_cons_cons]
        have dot : segments ['.'] = ["."] := by decide
        rw [text, segments_append_slash, dot,
          joined fun segment hs => h.slash_not_mem segment (List.mem_cons_of_mem _ hs)]
  · dsimp only at hl
    subst hl
    have text : Pieces.toPath ⟨"", body⟩ = "/".intercalate body := by simp [Pieces.toPath]
    rw [text]
    cases body with
    | nil => exact ⟨[""], [], by decide, by decide, .inl rfl⟩
    | cons first rest =>
      exact ⟨[], first :: rest, joined h.slash_not_mem, by simp, .inl rfl⟩

/-- The steps of a path that is made of some pieces are those of the pieces. -/
theorem steps_toPath {pieces : Pieces} (h : pieces.Formed) :
    steps pieces.toPath = pieces.body.filter (!isBlank ·) := by
  obtain ⟨front, rest, cut, blank, hr⟩ := segments_toPath h
  have none : front.filter (!isBlank ·) = [] := by simpa using blank
  rw [steps, cut, List.filter_append, none, List.nil_append]
  rcases hr with hr | hr
  · rw [hr]
  · rw [hr]
    exact (List.filter_cons_of_neg (by decide)).symm

theorem isAbsolute_toPath {pieces : Pieces} (h : pieces.Formed) :
    isAbsolute pieces.toPath = (pieces.lead == "/") := by
  obtain ⟨lead, body⟩ := pieces
  rcases h.lead with hl | ⟨hl, hf⟩ | ⟨hl, hf⟩
  · dsimp only at hl
    subst hl
    rw [Bool.eq_iff_iff, isAbsolute_iff]
    simp [Pieces.toPath]
  · dsimp only at hl
    subst hl
    rw [Bool.eq_iff_iff, isAbsolute_iff]
    simp [Pieces.toPath]
  · dsimp only at hl hf
    subst hl
    have text : Pieces.toPath ⟨"", body⟩ = "/".intercalate body := by simp [Pieces.toPath]
    have absolute : isAbsolute ("/".intercalate body) = false := by
      rcases hf with rfl | hf
      · exact isAbsolute_eq_false (by simp)
      · cases body with
        | nil => exact isAbsolute_eq_false (by simp)
        | cons first rest =>
          have hn : first.toList ≠ [] := fun he => hf (by simp [String.toList_eq_nil_iff.mp he])
          obtain ⟨c, chars, hc⟩ := List.exists_cons_of_ne_nil hn
          have hs := h.slash_not_mem first (by simp)
          rw [Bool.eq_false_iff, ne_eq, isAbsolute_iff]
          cases rest with
          | nil =>
            intro hp
            rw [String.intercalate_singleton] at hp
            exact hs (hp.subset (by simp))
          | cons second rest =>
            intro hp
            simp [String.intercalate_cons_cons, hc] at hp
            simp [hc, ← hp] at hs
    rw [text, absolute]
    rfl

theorem steps_eq (path : String) : steps path = (pieces path).body.filter (!isBlank ·) := by
  rw [← steps_toPath (formed_pieces path), toPath_pieces]

theorem isAbsolute_eq (path : String) : isAbsolute path = ((pieces path).lead == "/") := by
  rw [← isAbsolute_toPath (formed_pieces path), toPath_pieces]

theorem filter_trimRight (body : List String) :
    (trimRight body).filter (!isBlank ·) = body.filter (!isBlank ·) := by
  change (body.rdropWhile isBlank).filter _ = _
  induction body using List.reverseRecOn with
  | nil => rfl
  | append_singleton body last ih =>
    cases hb : isBlank last with
    | true => rw [List.rdropWhile_concat_pos _ _ _ hb, ih]; simp [hb]
    | false => rw [List.rdropWhile_concat_neg _ _ _ (by simp [hb])]

/-- Slashes at the end of a path do not count. -/
theorem filter_rdropWhile (body : List String) :
    (body.rdropWhile (· == "")).filter (!isBlank ·) = body.filter (!isBlank ·) := by
  induction body using List.reverseRecOn with
  | nil => rfl
  | append_singleton body last ih =>
    by_cases hl : last = ""
    · subst hl
      rw [List.rdropWhile_concat_pos _ _ _ (by simp), ih]
      simp [isBlank]
    · rw [List.rdropWhile_concat_neg _ _ _ (by simpa using hl)]

/-- A path that ends with a step, or has no steps at all. -/
def Trimmed (path : String) : Prop :=
  steps path = [] ∨ ∃ front last, segments path.toList = front ++ [last] ∧ isBlank last = false

theorem isBlank_of_trimRight {last : String} (h : trimRight body = front ++ [last]) :
    isBlank last = false := by
  have := List.rdropWhile_last_not isBlank body (by change trimRight body ≠ []; simp [h])
  change ¬ isBlank ((trimRight body).getLast _) = true at this
  simpa [h] using this

theorem trimmed_toPath {lead : String} (h : Pieces.Formed ⟨lead, trimRight body⟩) :
    Trimmed (Pieces.toPath ⟨lead, trimRight body⟩) := by
  rcases List.eq_nil_or_concat' (trimRight body) with hn | ⟨front, last, hl⟩
  · left
    rw [steps_toPath h]
    simp [hn]
  · right
    have named := isBlank_of_trimRight hl
    obtain ⟨blanks, rest, cut, _, hr⟩ := segments_toPath h
    dsimp only at hr
    rw [hl] at hr
    rcases hr with rfl | hr
    · exact ⟨blanks ++ front, last, by rw [cut, List.append_assoc], named⟩
    · cases front with
      | nil =>
        cases hr
        exact absurd named (by decide)
      | cons first front =>
        rw [List.cons_append, List.cons.injEq] at hr
        exact ⟨blanks ++ front, last, by rw [cut, ← hr.2, List.append_assoc], named⟩

/-- A path that starts with a part of another one. -/
theorem prefix_toPath {lead : String} (h : front <+: body) :
    (Pieces.toPath ⟨lead, front⟩).toList <+: (Pieces.toPath ⟨lead, body⟩).toList := by
  simp only [Pieces.toPath, String.toList_append]
  refine List.prefix_append_right_inj _ |>.mpr ?_
  obtain ⟨rest, rfl⟩ := h
  induction front with
  | nil => simp
  | cons first front ih =>
    cases front with
    | nil =>
      cases rest with
      | nil => simp
      | cons second rest =>
        simp [String.intercalate_cons_cons]
    | cons second front =>
      simp only [List.cons_append, String.intercalate_cons_cons, String.toList_append] at ih ⊢
      exact List.prefix_append_right_inj _ |>.mpr ih

/-- The parent of a path leads along its steps except the last one. -/
theorem parent?_eq_some (h : parent? path = some up) :
    steps up = (steps path).dropLast ∧ isAbsolute up = isAbsolute path ∧
      up.toList <+: path.toList ∧ up ≠ path ∧ Trimmed up := by
  have formed := formed_pieces path
  have whole := toPath_pieces path
  rw [steps_eq path, isAbsolute_eq path]
  unfold parent? at h
  generalize pieces path = made at *
  obtain ⟨lead, body⟩ := made
  dsimp only at h whole ⊢
  split at h
  next hb =>
    have none : body.filter (!isBlank ·) = [] := by
      rw [← filter_trimRight, hb]
      rfl
    split at h
    next hl =>
      cases h
      subst hl
      refine ⟨by rw [none]; decide, by decide, by simp, ?_, .inl (by decide)⟩
      rintro rfl
      simpa [Pieces.toPath] using congrArg String.toList whole
    next => cases h
  next named =>
    cases h
    obtain ⟨front, last, hl⟩ := (List.eq_nil_or_concat' (trimRight body)).resolve_left named
    have last_named := isBlank_of_trimRight hl
    have first : front ++ [last] <+: body := hl ▸ List.rdropWhile_prefix isBlank body
    have second : trimRight front <+: body :=
      (List.rdropWhile_prefix isBlank front).trans ((List.prefix_append _ _).trans first)
    have shorter := formed.of_front second
    have all : body.filter (!isBlank ·) = front.filter (!isBlank ·) ++ [last] := by
      rw [← filter_trimRight, hl]
      simp [last_named]
    rw [hl, List.dropLast_concat, all, List.dropLast_concat]
    have steps_up := (steps_toPath shorter).trans (filter_trimRight front)
    refine ⟨steps_up, isAbsolute_toPath shorter, whole ▸ prefix_toPath second, ?_,
      trimmed_toPath shorter⟩
    intro he
    rw [he, ← whole, steps_toPath formed, all] at steps_up
    simp at steps_up

theorem parent?_eq_none (h : parent? path = none) : steps path = [] := by
  rw [steps_eq path]
  unfold parent? at h
  dsimp only at h
  split at h
  next hb =>
    rw [← filter_trimRight, hb]
    rfl
  next => cases h

/-- The last step of a path that leads to a name. -/
theorem fileName?_eq_some {name : String} (h : fileName? path = some name) :
    steps path = (steps path).dropLast ++ [name] ∧ name ≠ ".." := by
  unfold fileName? at h
  obtain ⟨last, hl, h⟩ := Option.bind_eq_some_iff.mp h
  split at h
  · cases h
  next hup =>
    cases h
    refine ⟨?_, hup⟩
    obtain ⟨front, hf⟩ := List.getLast?_eq_some_iff.mp hl
    have all : steps path = front.filter (!isBlank ·) ++ [name] := by
      rw [steps_eq, ← filter_trimRight, hf]
      simp [isBlank_of_trimRight hf]
    rw [all, List.dropLast_concat]

theorem length_lt_of_parent? (h : parent? path = some up) : up.length < path.length := by
  obtain ⟨_, _, hp, hne, _⟩ := parent?_eq_some h
  rw [← String.length_toList, ← String.length_toList]
  refine lt_of_le_of_ne hp.length_le fun he => hne ?_
  exact String.toList_injective (hp.eq_of_length he)

/-- A path leads through what its parent leads through, and then to its own end. -/
theorem ancestors_eq (h : path ≠ "") :
    ancestors path = ((parent? path).map ancestors).getD [] ++ [path] := by
  -- parents are shorter, so that more fuel than there are characters is not needed
  have enough (fuel : Nat) : ∀ path : String, path.length ≤ fuel →
      ancestors.upward fuel path = ancestors.upward path.length path := by
    induction fuel using Nat.strong_induction_on with
    | _ fuel ih =>
      intro path hl
      cases fuel with
      | zero => rw [Nat.le_zero.mp hl]
      | succ fuel =>
        cases hn : path.length with
        | zero =>
          have : path = "" := by simpa using hn
          simp [ancestors.upward, this]
        | succ length =>
          unfold ancestors.upward
          cases hp : parent? path with
          | none => rfl
          | some up =>
            have shorter := length_lt_of_parent? hp
            simp only [Option.map_some, Option.getD_some]
            rw [ih fuel (by omega) up (by omega), ih length (by omega) up (by omega)]
  obtain ⟨length, hn⟩ : ∃ length, path.length = length + 1 :=
    Nat.exists_eq_succ_of_ne_zero (by simpa using h)
  unfold ancestors
  rw [hn, ancestors.upward, if_neg h, List.reverse_cons]
  cases hp : parent? path with
  | none => rfl
  | some up =>
    have shorter := length_lt_of_parent? hp
    simp only [Option.map_some, Option.getD_some]
    rw [enough length up (by omega)]

/-- A path that is followed from another one has the steps of both. -/
theorem steps_join {base : String} (h : isAbsolute path = false) :
    steps (join base path) = steps base ++ steps path := by
  have none : steps "" = [] := by decide
  simp only [join, h, Bool.false_or]
  split
  next hb =>
    simp only [decide_eq_true_eq] at hb
    rw [hb, none, List.nil_append]
  next =>
    split
    next he =>
      obtain ⟨front, rfl⟩ := endsWith_slash_iff.mp he
      have whole : segments (front ++ "/" ++ path).toList
          = segments front.toList ++ segments path.toList := by
        rw [String.toList_append, String.toList_append, List.append_assoc]
        exact segments_append_slash _ _
      have base : segments (front ++ "/").toList = segments front.toList ++ [""] := by
        rw [String.toList_append]
        exact segments_append_slash _ _
      have blank : [""].filter (!isBlank ·) = [] := by decide
      rw [steps, whole, steps, base, steps, List.filter_append, List.filter_append, blank,
        List.append_nil]
    next =>
      have whole : segments (base ++ "/" ++ path).toList
          = segments base.toList ++ segments path.toList := by
        rw [String.toList_append, String.toList_append, List.append_assoc]
        exact segments_append_slash _ _
      rw [steps, whole, List.filter_append, steps, steps]

/-- Paths begin at the same place if one goes on from the other one. -/
theorem lead_join {base : String} (hb : base ≠ "") (h : isAbsolute path = false) :
    (pieces (join base path)).lead = (pieces base).lead := by
  obtain ⟨tail, ht, hs⟩ : ∃ tail, (join base path).toList = base.toList ++ tail ∧
      (base = "." → ∃ rest, tail = '/' :: rest) := by
    have plain : ".".endsWith "/" = false := by cbv
    simp only [join, h, Bool.false_or, decide_eq_true_eq, if_neg hb]
    split
    next he =>
      refine ⟨path.toList, by simp, ?_⟩
      rintro rfl
      simp [plain] at he
    next => exact ⟨'/' :: path.toList, by simp, fun _ => ⟨_, rfl⟩⟩
  obtain ⟨c, chars, hc⟩ := List.exists_cons_of_ne_nil fun he => hb (String.toList_eq_nil_iff.mp he)
  unfold pieces
  rw [ht, hc]
  -- a dot alone is told apart from one before a slash by the next character
  by_cases slash : c = '/'
  · subst slash
    rfl
  · by_cases dot : c = '.'
    · subst dot
      cases chars with
      | nil =>
        obtain ⟨rest, rfl⟩ := hs (String.toList_injective hc)
        rfl
      | cons d chars =>
        by_cases hd : d = '/'
        · subst hd
          rfl
        · simp [hd]
    · simp [slash, dot]

theorem isAbsolute_join {base : String} (h : isAbsolute path = false) :
    isAbsolute (join base path) = isAbsolute base := by
  by_cases hb : base = ""
  · subst hb
    have relative : isAbsolute "" = false := isAbsolute_eq_false (by simp)
    simp [join, h, relative]
  · rw [isAbsolute_eq, lead_join hb h, ← isAbsolute_eq]

theorem components_eq (path : String) : components path
    = (if (pieces path).lead = "" then [] else [(pieces path).lead]) ++ steps path := by
  rw [steps_eq, components]
  split
  · simp
  · simp

theorem isBlank_of_mem_steps {step : String} (h : step ∈ steps path) :
    isBlank step = false ∧ '/' ∉ step.toList := by
  obtain ⟨hm, hb⟩ := List.mem_filter.mp h
  exact ⟨by simpa using hb, not_mem_of_mem_segments hm⟩

theorem filter_trimLeft (body : List String) :
    (trimLeft body).filter (!isBlank ·) = body.filter (!isBlank ·) := by
  induction body with
  | nil => rfl
  | cons first body ih =>
    unfold trimLeft at ih ⊢
    cases hb : isBlank first with
    | true => rw [List.dropWhile_cons_of_pos hb, ih]; simp [hb]
    | false => rw [List.dropWhile_cons_of_neg (by simp [hb])]

theorem isBlank_of_trimLeft {first : String} {rest : List String}
    (h : trimLeft body = first :: rest) : isBlank first = false := by
  have hn : body.dropWhile isBlank ≠ [] := by
    change trimLeft body ≠ []
    simp [h]
  have := List.head_dropWhile_not isBlank hn
  change isBlank ((trimLeft body).head _) = false at this
  simpa [h] using this

theorem filter_dropNames (count : Nat) (body : List String) :
    (dropNames count body).filter (!isBlank ·) = (body.filter (!isBlank ·)).drop count := by
  induction count generalizing body with
  | zero => rfl
  | succ count ih =>
    rw [dropNames, ih, ← filter_trimLeft body]
    cases ht : trimLeft body with
    | nil => simp
    | cons first rest => simp [isBlank_of_trimLeft ht]

theorem dropNames_suffix (count : Nat) (body : List String) : dropNames count body <:+ body := by
  induction count generalizing body with
  | zero => exact List.suffix_rfl
  | succ count ih =>
    exact (ih _).trans ((List.tail_suffix _).trans (List.dropWhile_suffix _))

/-- The path of the pieces behind the first few names of another one. -/
def behind (path : String) (count : Nat) : String :=
  Pieces.toPath ⟨"", trimRight (trimLeft (dropNames count (pieces path).body))⟩

theorem formed_behind (path : String) (count : Nat) :
    Pieces.Formed ⟨"", trimRight (trimLeft (dropNames count (pieces path).body))⟩ := by
  have formed : Pieces.Formed ⟨"", trimLeft (dropNames count (pieces path).body)⟩ := by
    refine ⟨fun segment hs => (formed_pieces path).slash_not_mem segment ?_,
      .inr (.inr ⟨rfl, .inr ?_⟩)⟩
    · exact (dropNames_suffix _ _).subset ((List.dropWhile_suffix _).subset hs)
    · intro hh
      obtain ⟨rest, hr⟩ := List.head?_eq_some_iff.mp hh
      exact absurd (isBlank_of_trimLeft hr) (by decide)
  exact formed.of_front (List.rdropWhile_prefix isBlank _)

/-- Pieces behind the first few names make a path of the steps behind as many. -/
theorem steps_behind (path : String) (count : Nat) :
    steps (behind path count) = (steps path).drop count := by
  rw [behind, steps_toPath (formed_behind path count), filter_trimRight, filter_trimLeft,
    filter_dropNames, steps_eq path]

theorem isAbsolute_behind (path : String) (count : Nat) :
    isAbsolute (behind path count) = false := by
  rw [behind, isAbsolute_toPath (formed_behind path count)]
  rfl

/-- The pieces behind a few names begin with a step. -/
theorem prefix_behind {count : Nat} (h : step ∈ (steps (behind path count)).head?) :
    step.toList <+: (behind path count).toList := by
  rw [behind, steps_toPath (formed_behind path count)] at h
  have front := List.rdropWhile_prefix isBlank (trimLeft (dropNames count (pieces path).body))
  change trimRight _ <+: _ at front
  unfold behind
  generalize trimRight (trimLeft (dropNames count (pieces path).body)) = body at h front
  cases body with
  | nil => cases h
  | cons first rest =>
    obtain ⟨others, ho⟩ := front
    have named : isBlank first = false := isBlank_of_trimLeft ho.symm
    have same : first = step := by simpa [named] using h
    subst same
    cases rest with
    | nil => simp [Pieces.toPath]
    | cons second rest => simp [Pieces.toPath, String.intercalate_cons_cons]

/-- Where a path begins is told apart from the names behind. -/
theorem lead_not_mem_steps {base : String} (h : (pieces base).lead ≠ "") :
    (pieces base).lead ∉ steps path := by
  intro hm
  obtain ⟨named, plain⟩ := isBlank_of_mem_steps hm
  rcases (formed_pieces base).lead with hl | ⟨hl, _⟩ | ⟨hl, _⟩
  · exact plain (by simp [hl])
  · rw [hl] at named
    exact absurd named (by decide)
  · exact h hl

/-- A path begins with another one if it begins at the same place and with the same steps. -/
theorem prefix_steps {base : String} (hb : components base ≠ [])
    (h : components base <+: components path) :
    (pieces base).lead = (pieces path).lead ∧ steps base <+: steps path := by
  rw [components_eq] at hb
  rw [components_eq, components_eq] at h
  by_cases hl : (pieces path).lead = ""
  · have same : (pieces base).lead = "" := by
      by_contra hn
      rw [if_neg hn, if_pos hl] at h
      exact lead_not_mem_steps hn (h.subset (by simp))
    simp only [hl, same, if_true, List.nil_append] at h ⊢
    exact ⟨trivial, h⟩
  · have same : (pieces base).lead = (pieces path).lead := by
      by_cases hn : (pieces base).lead = ""
      · rw [if_pos hn, List.nil_append] at hb
        rw [if_pos hn, if_neg hl, List.nil_append] at h
        obtain ⟨first, others, hs⟩ := List.exists_cons_of_ne_nil hb
        rw [hs, List.singleton_append, List.cons_prefix_cons] at h
        have mem : (pieces path).lead ∈ steps base := by
          rw [hs, h.1]
          exact List.mem_cons_self
        exact absurd mem (lead_not_mem_steps hl)
      · rw [if_neg hn, if_neg hl, List.singleton_append, List.singleton_append,
          List.cons_prefix_cons] at h
        exact h.1
    rw [same, if_neg hl, List.singleton_append, List.singleton_append, List.cons_prefix_cons] at h
    exact ⟨same, h.2⟩

/-- A path that begins with another one loses the steps of that. -/
theorem stripPrefix?_eq_behind {base : String} (hb : components base ≠ [])
    (h : components base <+: components path) :
    stripPrefix? path base = some (behind path (steps base).length) := by
  obtain ⟨same, -⟩ := prefix_steps hb h
  have count : (if (pieces path).lead = "" then (components base).length
      else (components base).length - 1) = (steps base).length := by
    rw [components_eq, same]
    split
    next => rfl
    next => rw [List.singleton_append, List.length_cons, Nat.add_sub_cancel]
  unfold stripPrefix?
  dsimp only
  split
  next none => exact absurd none hb
  next => rw [if_pos (List.isPrefixOf_iff_prefix.mpr h), count, behind]

theorem stripPrefix?_eq_none_of_not {base : String} (h : ¬components base <+: components path) :
    stripPrefix? path base = none := by
  unfold stripPrefix?
  dsimp only
  split
  next none => exact absurd (none ▸ List.nil_prefix) h
  next => rw [if_neg (List.isPrefixOf_iff_prefix.not.mpr h)]

/-- The rest of a path behind another one leads on from there. -/
theorem stripPrefix?_eq_some {base rest : String} (h : stripPrefix? path base = some rest) :
    (steps base = [] ∧ isAbsolute base = false) ∨
      (isAbsolute path = isAbsolute base ∧ steps path = steps base ++ steps rest) := by
  by_cases hc : components base = []
  · left
    rw [components_eq] at hc
    obtain ⟨hl, hs⟩ := List.append_eq_nil_iff.mp hc
    refine ⟨hs, ?_⟩
    rw [isAbsolute_eq]
    by_cases he : (pieces base).lead = ""
    · simp [he]
    · simp [he] at hl
  · right
    by_cases hp : components base <+: components path
    · rw [stripPrefix?_eq_behind hc hp] at h
      obtain rfl := Option.some.inj h
      obtain ⟨same, front⟩ := prefix_steps hc hp
      rw [isAbsolute_eq, isAbsolute_eq, same, steps_behind]
      exact ⟨rfl, List.prefix_append_drop front⟩
    · rw [stripPrefix?_eq_none_of_not hp] at h
      cases h

theorem stripPrefix?_eq_none {base : String} (h : stripPrefix? path base = none) :
    components base ≠ [] ∧ ¬components base <+: components path := by
  unfold stripPrefix? at h
  dsimp only at h
  split at h
  next => cases h
  next hc =>
    refine ⟨hc, ?_⟩
    split at h
    next => cases h
    next hp => rwa [List.isPrefixOf_iff_prefix] at hp

/-- A relative path that is followed name by name from another one has its first steps. -/
theorem prefix_components_foldl_join {names : List String} {root : String} (hr : root ≠ "")
    (h : isAbsolute (names.foldl join root) = false) :
    names.foldl join root ≠ "" ∧ components root <+: components (names.foldl join root) := by
  induction names using List.reverseRecOn with
  | nil => exact ⟨hr, List.prefix_rfl⟩
  | append_singleton names name ih =>
    rw [List.foldl_concat] at h ⊢
    have relative : isAbsolute name = false := by
      rw [Bool.eq_false_iff]
      intro ha
      simp [join, ha] at h
    have same (hn : names.foldl join root ≠ "") :=
      lead_join hn relative
    have base : isAbsolute (names.foldl join root) = false := by
      rwa [isAbsolute_join relative] at h
    obtain ⟨hn, hp⟩ := ih base
    refine ⟨?_, ?_⟩
    · intro he
      have := congrArg String.toList he
      simp only [join, relative, Bool.false_or, decide_eq_true_eq, if_neg hn] at this
      split at this
      · simp [hn] at this
      · simp at this
    · rw [components_eq (join _ _), same hn, steps_join relative, ← List.append_assoc,
        ← components_eq]
      exact hp.trans (List.prefix_append _ _)

/-- A step behind a path is its last segment. -/
theorem segments_join_of_isStep (base : String) (h : Identity.IsStep step) :
    ∃ front, segments (join base step).toList = front ++ [step] := by
  have relative := isAbsolute_eq_false h.slash_not_mem
  have alone : segments step.toList = [step] := by
    rw [segments_of_not_mem h.slash_not_mem, String.ofList_toList]
  simp only [join, relative, Bool.false_or]
  split
  next => exact ⟨[], alone⟩
  next =>
    split
    next he =>
      obtain ⟨front, rfl⟩ := endsWith_slash_iff.mp he
      refine ⟨segments front.toList, ?_⟩
      rw [String.toList_append, String.toList_append, List.append_assoc, ← alone]
      exact segments_append_slash _ _
    next =>
      refine ⟨segments base.toList, ?_⟩
      rw [String.toList_append, String.toList_append, List.append_assoc, ← alone]
      exact segments_append_slash _ _

/-- The steps of an identity lead on from a path one by one. -/
theorem foldl_join_of_isStep {names : List String} (h : ∀ name ∈ names, Identity.IsStep name)
    (root : String) : isAbsolute (names.foldl join root) = isAbsolute root ∧
      steps (names.foldl join root) = steps root ++ names := by
  induction names generalizing root with
  | nil => exact ⟨rfl, by simp⟩
  | cons name names ih =>
    have step := h name (by simp)
    have relative := isAbsolute_eq_false step.slash_not_mem
    have alone : steps name = [name] := by
      rw [steps, segments_of_not_mem step.slash_not_mem, String.ofList_toList]
      simp [isBlank, step.ne_empty, step.ne_dot]
    obtain ⟨ha, hs⟩ := ih (fun other ho => h other (by simp [ho])) (join root name)
    refine ⟨?_, ?_⟩
    · rw [List.foldl_cons, ha]
      exact isAbsolute_join relative
    · rw [List.foldl_cons, hs, steps_join relative, alone, List.append_assoc,
        List.singleton_append]

end Path

namespace Place

variable {place : Place} {path up : String} {steps : List String}

/-- The place at which a path begins. -/
def origin (path : String) : Place :=
  if Path.isAbsolute path then ["/"] else []

theorem isTop_origin (path : String) : (origin path).isTop = true := by
  unfold origin
  split
  · rfl
  · rfl

theorem after_of_isBlank {step : String} (h : Path.isBlank step = true) :
    place.after step = place := by
  rw [after, if_pos h]

theorem foldl_after_filter (steps : List String) (place : Place) :
    (steps.filter (!Path.isBlank ·)).foldl after place = steps.foldl after place := by
  induction steps generalizing place with
  | nil => rfl
  | cons step steps ih =>
    cases hb : Path.isBlank step with
    | true => rw [List.filter_cons_of_neg (by simp [hb]), ih, List.foldl_cons, after_of_isBlank hb]
    | false => rw [List.filter_cons_of_pos (by simp [hb]), List.foldl_cons, List.foldl_cons, ih]

theorem named_eq (path : String) : named path = (Path.steps path).foldl after (origin path) :=
  (foldl_after_filter _ _).symm

/-- Steps lead through the places to which the first of them lead. -/
theorem mem_scanl_after_iff {segments : List String} {start : Place} :
    place ∈ segments.scanl after start ↔
      ∃ front, front <+: segments.filter (!Path.isBlank ·) ∧ place = front.foldl after start := by
  induction segments generalizing start with
  | nil => simp
  | cons segment segments ih =>
    rw [List.scanl_cons, List.mem_cons, ih]
    cases hb : Path.isBlank segment with
    | true =>
      rw [List.filter_cons_of_neg (by simp [hb]), after_of_isBlank hb]
      constructor
      · rintro (rfl | h)
        · exact ⟨[], by simp, rfl⟩
        · exact h
      · exact .inr
    | false =>
      rw [List.filter_cons_of_pos (by simp [hb])]
      constructor
      · rintro (rfl | ⟨front, hp, rfl⟩)
        · exact ⟨[], by simp, rfl⟩
        · exact ⟨segment :: front, by simpa using hp, rfl⟩
      · rintro ⟨front, hp, rfl⟩
        cases front with
        | nil => exact .inl rfl
        | cons first front =>
          rw [List.cons_prefix_cons] at hp
          obtain ⟨rfl, hp⟩ := hp
          exact .inr ⟨front, hp, rfl⟩

theorem isTop_of_concat {step : String} (h : (place ++ [step]).isTop = true) :
    place.isTop = true := by
  simp only [isTop, Bool.or_eq_true, beq_iff_eq, List.all_append, Bool.and_eq_true] at h ⊢
  rcases h with ⟨up, _⟩ | root
  · exact .inl up
  · left
    have : place = [] := by
      cases place with
      | nil => rfl
      | cons first rest => simp at root
    simp [this]

/-- Steps lead through what holds the places to which they lead. -/
theorem mem_scanl_after_of_concat {steps : List String} {start : Place} {step : String}
    (top : start.isTop = true) (h : place ++ [step] ∈ steps.scanl after start) :
    place ∈ steps.scanl after start ∨ place.isTop = true := by
  induction steps using List.reverseRecOn generalizing place step with
  | nil =>
    rw [List.scanl_nil, List.mem_singleton] at h
    exact .inr (isTop_of_concat (h ▸ top))
  | append_singleton steps last ih =>
    have whole : (steps ++ [last]).scanl after start
        = steps.scanl after start ++ [(steps.foldl after start).after last] := by
      rw [List.scanl_append]
      rfl
    rw [whole, List.mem_append, List.mem_singleton] at h
    rw [whole, List.mem_append]
    rcases h with h | h
    · exact (ih h).imp_left .inl
    · have here : steps.foldl after start ∈ steps.scanl after start :=
        List.mem_of_getLast? List.getLast?_scanl
      generalize steps.foldl after start = before at h here
      unfold after at h
      split at h
      next => exact (ih (h ▸ here)).imp_left .inl
      next =>
        split at h
        next =>
          unfold up at h
          split at h
          next hr => exact (ih (h ▸ here)).imp_left .inl
          next =>
            split at h
            next ht =>
              obtain ⟨rfl, _⟩ := List.append_inj' h rfl
              exact .inr ht
            next ht =>
              obtain ⟨front, name, rfl⟩ := (List.eq_nil_or_concat' before).resolve_left (by
                rintro rfl
                exact ht rfl)
              rw [List.dropLast_concat] at h
              subst h
              rcases ih here with hm | ht
              · exact (ih hm).imp_left .inl
              · exact .inr (isTop_of_concat ht)
        next =>
          obtain ⟨rfl, _⟩ := List.append_inj' h rfl
          exact .inl (.inl here)

theorem mem_trail_iff : place ∈ trail path ↔
    ∃ front, front <+: Path.steps path ∧ place = front.foldl after (origin path) :=
  mem_scanl_after_iff

theorem named_mem_trail (path : String) : named path ∈ trail path :=
  mem_trail_iff.mpr ⟨_, List.prefix_rfl, named_eq path⟩

/-- Steps behind a path that do not lead upwards stay below it. -/
theorem below_of_mem_trail {root : String} {rest : List String}
    (ha : Path.isAbsolute path = Path.isAbsolute root)
    (hs : Path.steps path = Path.steps root ++ rest) (hup : ".." ∉ rest)
    (h : place ∈ trail path) : place ∈ trail root ∨ named root <+: place := by
  have start : origin path = origin root := by
    unfold origin
    rw [ha]
  obtain ⟨front, hf, rfl⟩ := mem_trail_iff.mp h
  rw [hs] at hf
  rw [start]
  rcases List.prefix_or_prefix_of_prefix hf (List.prefix_append _ _) with hr | ⟨behind, rfl⟩
  · exact .inl (mem_trail_iff.mpr ⟨front, hr, rfl⟩)
  · right
    rw [List.foldl_append, ← named_eq]
    exact prefix_foldl_after fun hm => hup (((List.prefix_append_right_inj _).mp hf).subset hm)

theorem named_eq_nil (hs : Path.steps path = []) (ha : Path.isAbsolute path = false) :
    named path = [] := by
  rw [named_eq, hs, origin, ha]
  rfl

theorem origin_of_parent? (h : Path.parent? path = some up) : origin up = origin path := by
  unfold origin
  rw [(Path.parent?_eq_some h).2.1]

theorem mem_trail_of_parent? (h : Path.parent? path = some up) (hp : place ∈ trail up) :
    place ∈ trail path := by
  obtain ⟨front, hf, rfl⟩ := mem_trail_iff.mp hp
  rw [(Path.parent?_eq_some h).1] at hf
  rw [origin_of_parent? h]
  exact mem_trail_iff.mpr ⟨front, hf.trans (List.dropLast_prefix _), rfl⟩

/-- The paths through which a path leads name places through which it leads. -/
theorem named_mem_trail_of_ancestors {above : String} (h : above ∈ Path.ancestors path) :
    named above ∈ trail path := by
  induction hn : path.length using Nat.strong_induction_on generalizing path with
  | _ length ih =>
    by_cases he : path = ""
    · subst he
      simp [Path.ancestors, Path.ancestors.upward] at h
    · rw [Path.ancestors_eq he, List.mem_append, List.mem_singleton] at h
      rcases h with h | rfl
      · cases hp : Path.parent? path with
        | none =>
          rw [hp] at h
          simp at h
        | some up =>
          rw [hp] at h
          have shorter := Path.length_lt_of_parent? hp
          exact mem_trail_of_parent? hp (ih up.length (by omega) h rfl)
      · exact named_mem_trail _

end Place

end MethodTrace
