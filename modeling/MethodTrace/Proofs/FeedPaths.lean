import MethodTrace.Proofs.CanonicalIdentities
import MethodTrace.Proofs.LooseUnits

/-!
The two ways in which a change feed names a file: from its input directory, or with the directory in
front.

Which one is meant is decided by the steps with which the path begins. A path that begins with the
steps of its directory is taken for the second way even if it is of the first.
-/

namespace MethodTrace

namespace Path

variable {root path step : String}

theorem lead_eq_dot_iff :
    (pieces path).lead = "." ↔ path = "." ∨ ['.', '/'] <+: path.toList := by
  unfold pieces
  split
  next rest h =>
    have other : path ≠ "." := by
      rintro rfl
      simp at h
    simp [h, other]
  next h =>
    have same : path = "." := String.toList_injective h
    simp [same]
  next rest h => simp [h]
  next dot slash =>
    constructor
    · intro h
      exact absurd (show "" = "." from h) (by decide)
    · rintro (rfl | ⟨rest, h⟩)
      · exact absurd rfl dot
      · exact absurd h.symm (slash rest)

/-- What stands behind the beginning of a path does not begin with a dot of its own, as that would
be where the path begins. -/
theorem head?_body_ne_dot (lead : (pieces path).lead = "") :
    (pieces path).body.head? ≠ some "." := by
  intro dot
  obtain ⟨rest, body⟩ := List.head?_eq_some_iff.mp dot
  have whole := toPath_pieces path
  rw [Pieces.toPath, lead, body, String.empty_append] at whole
  have front : (pieces path).lead = "." := by
    rw [lead_eq_dot_iff]
    cases rest with
    | nil => exact .inl (by simpa using whole.symm)
    | cons second rest =>
      right
      rw [← whole, String.intercalate_cons_cons]
      simp
  rw [lead] at front
  exact absurd front (by decide)

theorem components_eq_nil_iff : components path = [] ↔ path = "" := by
  constructor
  · intro h
    rw [components_eq, steps_eq] at h
    obtain ⟨begins, named⟩ := List.append_eq_nil_iff.mp h
    have lead : (pieces path).lead = "" := by
      by_contra hn
      simp [hn] at begins
    have whole := toPath_pieces path
    rw [Pieces.toPath, lead, String.empty_append] at whole
    have head : (pieces path).body = [""] ∨ (pieces path).body.head? ≠ some "" := by
      simpa [lead] using (formed_pieces path).lead
    have dot := head?_body_ne_dot lead
    cases hb : (pieces path).body with
    | nil => simpa [hb] using whole.symm
    | cons first rest =>
      rw [hb] at whole named head dot
      have blank : isBlank first = true := by
        by_contra hn
        simp [hn] at named
      rcases isBlank_iff.mp blank with rfl | rfl
      · have alone : rest = [] := by simpa using head
        simpa [alone] using whole.symm
      · exact absurd rfl dot
  · rintro rfl
    decide

/-- A path that is made of pieces begins where they do, unless they have a dot in front that would
be where it begins. -/
theorem lead_toPath {parts : Pieces} (formed : parts.Formed)
    (dot : parts.lead = "" → parts.body.head? ≠ some ".") :
    (pieces parts.toPath).lead = parts.lead := by
  obtain ⟨lead, body⟩ := parts
  have start := isAbsolute_toPath formed
  rw [isAbsolute_eq] at start
  rcases formed.lead with hl | ⟨hl, hf⟩ | ⟨hl, -⟩
  · dsimp only at hl
    subst hl
    simpa using start
  · dsimp only at hl hf
    subst hl
    rw [lead_eq_dot_iff]
    cases body with
    | nil => exact .inl (by decide)
    | cons first rest =>
      obtain rfl : first = "" := hf first rfl
      cases rest with
      | nil => exact .inl (by decide)
      | cons second rest => simp [Pieces.toPath, String.intercalate_cons_cons]
  · dsimp only at hl
    subst hl
    cases body with
    | nil => decide
    | cons first rest =>
      have cut : segments (Pieces.toPath ⟨"", first :: rest⟩).toList = first :: rest := by
        rw [Pieces.toPath, String.empty_append]
        exact segments_intercalate (by simp) formed.slash_not_mem
      have plain : first ≠ "." := by simpa using dot rfl
      rcases (formed_pieces (Pieces.toPath ⟨"", first :: rest⟩)).lead with h | ⟨h, -⟩ | ⟨h, -⟩
      · rw [h] at start
        cases start
      · -- a dot in front would be the first piece
        exfalso
        rcases lead_eq_dot_iff.mp h with whole | ⟨text, front⟩
        · rw [whole] at cut
          exact plain (List.cons.inj cut).1.symm
        · have apart : segments (['.', '/'] ++ text) = ["."] ++ segments text :=
            segments_append_slash ['.'] text
          rw [← front, apart] at cut
          exact plain (List.cons.inj cut).1.symm
      · exact h

/-- Without what names nothing at its end, a path begins where it has begun. -/
theorem lead_trimRight (path : String) :
    (pieces (Pieces.toPath ⟨(pieces path).lead, trimRight (pieces path).body⟩)).lead
      = (pieces path).lead := by
  have shorter := List.rdropWhile_prefix isBlank (pieces path).body
  change trimRight _ <+: _ at shorter
  apply lead_toPath ((formed_pieces path).of_front shorter)
  intro lead dot
  obtain ⟨rest, front⟩ := List.head?_eq_some_iff.mp dot
  dsimp only at lead front
  rw [front] at shorter
  obtain ⟨behind, body⟩ := shorter
  exact head?_body_ne_dot lead (by rw [← body]; rfl)

/-- What is left of a relative path behind nothing is the path without what names nothing at its
end. -/
theorem stripPrefix?_empty (relative : isAbsolute path = false) : ∃ rest,
    stripPrefix? path "" = some rest ∧ isAbsolute rest = false ∧
      components rest = components path ∧ steps rest = steps path ∧ rest.toList <+: path.toList := by
  have shorter := List.rdropWhile_prefix isBlank (pieces path).body
  change trimRight _ <+: _ at shorter
  have formed : Pieces.Formed ⟨(pieces path).lead, trimRight (pieces path).body⟩ :=
    (formed_pieces path).of_front shorter
  have front : (Pieces.toPath ⟨(pieces path).lead, trimRight (pieces path).body⟩).toList
      <+: (pieces path).toPath.toList := prefix_toPath shorter
  rw [toPath_pieces] at front
  have same : steps (Pieces.toPath ⟨(pieces path).lead, trimRight (pieces path).body⟩)
      = steps path := by
    rw [steps_toPath formed, filter_trimRight, ← steps_eq]
  refine ⟨_, rfl, ?_, ?_, same, front⟩
  · rw [isAbsolute_toPath formed, ← isAbsolute_eq, relative]
  · rw [components_eq, components_eq path, same, lead_trimRight]

/-- A path that begins with a backslash has a first step that does. -/
theorem exists_head?_steps (h : ['\\'] <+: path.toList) :
    ∃ step ∈ (steps path).head?, ['\\'] <+: step.toList := by
  obtain ⟨text, ht⟩ := h
  obtain ⟨first, rest, cut⟩ := List.exists_cons_of_ne_nil (List.splitOnP_ne_nil (· == '/') text)
  have whole : segments path.toList
      = String.ofList ('\\' :: first) :: rest.map String.ofList := by
    rw [← ht, segments, List.splitOn_eq_splitOnP, List.singleton_append,
      List.splitOnP_cons_eq_if_modifyHead, cut]
    simp
  have named : isBlank (String.ofList ('\\' :: first)) = false := by
    rw [Bool.eq_false_iff, ne_eq, isBlank_iff]
    rintro (he | he)
    · simpa using congrArg String.toList he
    · simpa using congrArg String.toList he
  refine ⟨String.ofList ('\\' :: first), ?_, by simp⟩
  rw [steps, whole, List.filter_cons_of_pos (by rw [named]; rfl)]
  rfl

/-- Paths that name the same steps lead to the same place. -/
theorem named_of_same {first second : String} (h : same first second = true) :
    Place.named first = Place.named second := by
  rw [same, beq_iff_eq] at h
  by_cases none : components first = []
  · have both : first = "" ∧ second = "" :=
      ⟨components_eq_nil_iff.mp none, components_eq_nil_iff.mp (h.symm.trans none)⟩
    rw [both.1, both.2]
  · have onward : components first <+: components second := by
      rw [h]
    have back : components second <+: components first := by
      rw [h]
    obtain ⟨lead, shorter⟩ := prefix_steps none onward
    obtain ⟨-, longer⟩ := prefix_steps (h ▸ none) back
    have steps := shorter.eq_of_length_le longer.length_le
    rw [Place.named_eq, Place.named_eq second, steps, Place.origin, Place.origin, isAbsolute_eq,
      isAbsolute_eq, lead]

end Path

namespace Identity

theorem segments_append_slash (first second : String) :
    segments (first ++ "/" ++ second) = segments first ++ segments second := by
  simp only [segments, pieces, String.toList_append, List.append_assoc]
  rw [show "/".toList = ['/'] from rfl, List.singleton_append,
    List.splitOnP_append_cons _ _ (by decide), List.map_append, List.filter_append]

theorem segments_intercalate_slash (names : List String) :
    segments ("/".intercalate names) = names.flatMap segments := by
  induction names with
  | nil => decide
  | cons first names ih =>
    cases names with
    | nil => simp
    | cons second names =>
      rw [String.intercalate_cons_cons, segments_append_slash, ih, ← List.flatMap_cons]

/-- What is left of a path for an identity is what is left of its steps. -/
theorem segments_eq_flatMap (path : String) :
    segments path = (Path.steps path).flatMap segments := by
  have whole := Path.intercalate_segments path.toList
  rw [String.ofList_toList] at whole
  have blank (names : List String) :
      names.flatMap segments = (names.filter (!Path.isBlank ·)).flatMap segments := by
    induction names with
    | nil => rfl
    | cons name names ih =>
      cases hb : Path.isBlank name with
      | true =>
        have none : segments name = [] := by
          rcases Path.isBlank_iff.mp hb with rfl | rfl
          · decide
          · decide
        rw [List.flatMap_cons, none, List.nil_append, ih, List.filter_cons_of_neg (by simp [hb])]
      | false =>
        rw [List.filter_cons_of_pos (by simp [hb]), List.flatMap_cons, List.flatMap_cons, ih]
  rw [Path.steps, ← blank, ← segments_intercalate_slash, whole]

theorem normalize?_congr {first second : String} (h : Path.steps first = Path.steps second) :
    normalize? first = normalize? second := by
  have same : segments first = segments second := by
    rw [segments_eq_flatMap, segments_eq_flatMap second, h]
  rw [normalize?, normalize?, same]

end Identity

namespace Detection

variable {directories : List String} {root path spelled identity found : String}
  {kind : ChangeKind} {index : Nat}

/-- A path that does not begin with the steps of its directory, so that it cannot be taken for one
with the directory in front. -/
def Unmistaken (root path : String) : Prop :=
  Path.steps root = [] ∨ ¬Path.components root <+: Path.components path

/-- A path of which the first step cannot be taken for the way from a root. -/
def Unrooted (path : String) : Prop :=
  ∀ step ∈ (Path.steps path).head?, ¬['\\'] <+: step.toList

theorem Unrooted.front (h : Unrooted path) : ¬['\\'] <+: path.toList := by
  intro backslash
  obtain ⟨step, hs, hb⟩ := Path.exists_head?_steps backslash
  exact h step hs hb

/-- The unit of a listed change, with its content at some path if that is to be written. -/
def listedUnit? (kind : ChangeKind) (identity : String) (index : Nat) (path : String) :
    Option BuildUnit :=
  match kind with
  | .unchanged => none
  | .removed => some ⟨identity, .directory index, .removed, .absent⟩
  | .added | .modified => some ⟨identity, .directory index, kind, .file path⟩

/-- A listed change leads to a unit of some identity from an input directory, with its content at
some path, however that is spelled. -/
def LeadsTo (directories : List String) (change : FileChange) (index : Nat)
    (identity path : String) : Prop :=
  ∃ spelled, Path.same spelled path = true ∧
    feedUnit? directories change = .ok (listedUnit? change.kind identity index spelled)

theorem feedUnit?_eq {change : FileChange}
    (hf : directories.zipIdx.find? (fun (root, _) => Path.same root change.root)
      = some (found, index)) (hi : identityOf change.relativePath = .ok identity) :
    feedUnit? directories change = .ok (listedUnit? change.kind identity index
      (Path.join found change.relativePath)) := by
  unfold feedUnit?
  rw [hf]
  dsimp only
  rw [hi]
  cases change.kind <;> rfl

/-- The directory of a change is among the input directories. -/
theorem exists_find? (h : root ∈ directories) : ∃ found index,
    directories.zipIdx.find? (fun (other, _) => Path.same other root) = some (found, index) ∧
      directories[index]? = some found ∧ Path.components found = Path.components root := by
  obtain ⟨i, hi⟩ := List.mem_iff_getElem?.mp h
  have there : (root, i) ∈ directories.zipIdx := List.mk_mem_zipIdx_iff_getElem?.mpr hi
  have some : (directories.zipIdx.find? fun (other, _) => Path.same other root).isSome := by
    rw [List.find?_isSome]
    exact ⟨(root, i), there, by simp [Path.same]⟩
  obtain ⟨⟨found, index⟩, hf⟩ := Option.isSome_iff_exists.mp some
  have same := List.find?_some hf
  dsimp only at same
  rw [Path.same, beq_iff_eq] at same
  exact ⟨found, index, hf, List.mk_mem_zipIdx_iff_getElem?.mp (List.mem_of_find?_eq_some hf), same⟩

theorem identityOf_of_steps (relative : Path.isAbsolute spelled = false)
    (steps : Path.steps spelled = Path.steps path) (front : ¬['\\'] <+: spelled.toList)
    (hi : Identity.normalize? path = some identity) : identityOf spelled = .ok identity := by
  have slash : spelled.startsWith "/" = false := relative
  have backslash : spelled.startsWith "\\" = false := by
    rw [Bool.eq_false_iff, ne_eq, String.startsWith_string_iff]
    exact front
  unfold identityOf
  rw [slash, backslash, Identity.normalize?_congr steps, hi]
  rfl

/-- Another spelling of a path from a directory, which is not taken for a path from a root. -/
structure Respells (root path spelled : String) : Prop where
  relative : Path.isAbsolute spelled = false
  steps : Path.steps spelled = Path.steps path
  front : ¬['\\'] <+: spelled.toList
  whole : root = "" → Path.components spelled = Path.components path

theorem Respells.same (h : Respells root path spelled) (relative : Path.isAbsolute path = false)
    (hc : Path.components found = Path.components root) :
    Path.same (Path.join found spelled) (Path.join root path) = true := by
  rw [Path.same, beq_iff_eq]
  by_cases ne : root = ""
  · have none : found = "" := by
      rw [ne] at hc
      exact Path.components_eq_nil_iff.mp hc
    have join (path : String) : Path.join "" path = path := by simp [Path.join]
    rw [ne, none, join, join, h.whole ne]
  · have some : found ≠ "" := by
      rintro rfl
      exact ne (Path.components_eq_nil_iff.mp (hc ▸ Path.components_eq_nil_iff.mpr rfl))
    rw [Path.components_join some h.relative, Path.components_join ne relative, hc, h.steps]

/-- The steps behind those of the directory are a spelling of the path. -/
theorem respells_behind (unrooted : Unrooted path) (ne : root ≠ "")
    (steps : (Path.steps spelled).drop (Path.steps root).length = Path.steps path) :
    Respells root path (Path.behind spelled (Path.steps root).length) := by
  have same : Path.steps (Path.behind spelled (Path.steps root).length) = Path.steps path := by
    rw [Path.steps_behind, steps]
  refine ⟨Path.isAbsolute_behind _ _, same, fun h => ?_, fun he => absurd he ne⟩
  obtain ⟨step, hs, hb⟩ := Path.exists_head?_steps h
  exact unrooted step (same ▸ hs) hb

/-- Nothing in front of a path leaves the path. -/
theorem respells_empty (unrooted : Unrooted path) (relative : Path.isAbsolute path = false) :
    Respells "" path (FileChange.relativePath ⟨"", path, kind⟩) := by
  obtain ⟨rest, hr, absolute, whole, steps, front⟩ := Path.stripPrefix?_empty relative
  unfold FileChange.relativePath
  dsimp only
  rw [hr]
  exact ⟨absolute, steps, fun h => unrooted.front (h.trans front), fun _ => whole⟩

theorem respells_path (unmistaken : Unmistaken root path) (unrooted : Unrooted path)
    (relative : Path.isAbsolute path = false) :
    Respells root path (FileChange.relativePath ⟨root, path, kind⟩) := by
  by_cases ne : root = ""
  · subst ne
    exact respells_empty unrooted relative
  · have hb : Path.components root ≠ [] := fun he => ne (Path.components_eq_nil_iff.mp he)
    unfold FileChange.relativePath
    dsimp only
    by_cases hp : Path.components root <+: Path.components path
    · rw [Path.stripPrefix?_eq_behind hb hp]
      have none : Path.steps root = [] := unmistaken.resolve_right (not_not.mpr hp)
      exact respells_behind unrooted ne (by rw [none]; rfl)
    · rw [Path.stripPrefix?_eq_none_of_not hp]
      exact ⟨relative, rfl, unrooted.front, fun _ => rfl⟩

theorem prefix_join (ne : root ≠ "") (relative : Path.isAbsolute path = false) :
    Path.components root <+: Path.components (Path.join root path) := by
  rw [Path.components_join ne relative]
  exact List.prefix_append _ _

theorem respells_join (unrooted : Unrooted path) (relative : Path.isAbsolute path = false) :
    Respells root path (FileChange.relativePath ⟨root, Path.join root path, kind⟩) := by
  by_cases ne : root = ""
  · subst ne
    have same : Path.join "" path = path := by simp [Path.join]
    rw [same]
    exact respells_empty unrooted relative
  · have hb : Path.components root ≠ [] := fun he => ne (Path.components_eq_nil_iff.mp he)
    unfold FileChange.relativePath
    dsimp only
    rw [Path.stripPrefix?_eq_behind hb (prefix_join ne relative)]
    apply respells_behind unrooted ne
    rw [Path.steps_join relative, List.drop_left]

/-- A change leads to the file of a path if what is left of its own path spells that path. -/
theorem leadsTo_of_respells
    (hf : directories.zipIdx.find? (fun (other, _) => Path.same other root) = some (found, index))
    (same : Path.components found = Path.components root)
    (relative : Path.isAbsolute path = false) (hi : Identity.normalize? path = some identity)
    (h : Respells root path (FileChange.relativePath ⟨root, spelled, kind⟩)) :
    LeadsTo directories ⟨root, spelled, kind⟩ index identity (Path.join root path) :=
  ⟨_, h.same relative same,
    feedUnit?_eq hf (identityOf_of_steps h.relative h.steps h.front hi)⟩

theorem front_of_identityOf (h : identityOf path = .ok identity) : ¬['\\'] <+: path.toList := by
  intro front
  have backslash : path.startsWith "\\" = true := String.startsWith_string_iff.mpr front
  unfold identityOf at h
  rw [backslash, Bool.or_true, if_pos rfl] at h
  cases h

/-- What is written for a listed change is read from its directory. -/
theorem LeadsTo.inv (h : LeadsTo directories ⟨root, spelled, kind⟩ index identity path)
    (write : kind.needsWrite = true) : ∃ found, Path.components found = Path.components root ∧
      identityOf (FileChange.relativePath ⟨root, spelled, kind⟩) = .ok identity ∧
      Path.same (Path.join found (FileChange.relativePath ⟨root, spelled, kind⟩)) path = true := by
  obtain ⟨written, same, h⟩ := h
  unfold feedUnit? at h
  split at h
  next => cases h
  next found i hf =>
    obtain ⟨name, hi, h⟩ := Except.bind_eq_ok_iff.mp h
    have there := List.find?_some hf
    dsimp only at there
    rw [Path.same, beq_iff_eq] at there
    refine ⟨found, there, ?_⟩
    cases kind with
    | unchanged => cases write
    | removed => cases write
    | added =>
      cases h
      exact ⟨hi, same⟩
    | modified =>
      cases h
      exact ⟨hi, same⟩

/-- A path that begins with the steps of its directory loses them, though they belong to the
file. -/
theorem unmistaken_of_leadsTo (ne : root ≠ "") (relative : Path.isAbsolute path = false)
    (write : kind.needsWrite = true)
    (h : LeadsTo directories ⟨root, path, kind⟩ index identity (Path.join root path)) :
    Unmistaken root path := by
  have hb : Path.components root ≠ [] := fun he => ne (Path.components_eq_nil_iff.mp he)
  by_contra mistaken
  obtain ⟨some, hp⟩ := not_or.mp mistaken
  rw [not_not] at hp
  obtain ⟨found, hc, -, same⟩ := h.inv write
  have hf : found ≠ "" := by
    rintro rfl
    exact hb (hc ▸ Path.components_eq_nil_iff.mpr rfl)
  have rest : FileChange.relativePath ⟨root, path, kind⟩
      = Path.behind path (Path.steps root).length := by
    rw [FileChange.relativePath, Path.stripPrefix?_eq_behind hb hp]
    rfl
  rw [rest, Path.same, beq_iff_eq, Path.components_join hf (Path.isAbsolute_behind _ _),
    Path.components_join ne relative, hc, List.append_cancel_left_eq, Path.steps_behind] at same
  have lengths := congrArg List.length same
  have front := (Path.prefix_steps hb hp).2.length_le
  have positive := List.length_pos_iff.mpr some
  rw [List.length_drop] at lengths
  omega

theorem unrooted_of_leadsTo (ne : root ≠ "") (relative : Path.isAbsolute path = false)
    (write : kind.needsWrite = true)
    (h : LeadsTo directories ⟨root, Path.join root path, kind⟩ index identity
      (Path.join root path)) : Unrooted path := by
  have hb : Path.components root ≠ [] := fun he => ne (Path.components_eq_nil_iff.mp he)
  intro step hs backslash
  obtain ⟨found, -, hi, -⟩ := h.inv write
  have rest : FileChange.relativePath ⟨root, Path.join root path, kind⟩
      = Path.behind (Path.join root path) (Path.steps root).length := by
    rw [FileChange.relativePath, Path.stripPrefix?_eq_behind hb (prefix_join ne relative)]
    rfl
  rw [rest] at hi
  have steps : Path.steps (Path.behind (Path.join root path) (Path.steps root).length)
      = Path.steps path := by
    rw [Path.steps_behind, Path.steps_join relative, List.drop_left]
  rw [← steps] at hs
  exact front_of_identityOf hi (backslash.trans (Path.prefix_behind hs))

/-- A file that is to be written can be named in both ways just when neither is mistaken. -/
theorem leadsTo_both_iff (listed : root ∈ directories) (ne : root ≠ "")
    (relative : Path.isAbsolute path = false) (hi : Identity.normalize? path = some identity)
    (write : kind.needsWrite = true) :
    (∃ index, ∀ spelled ∈ [path, Path.join root path],
      LeadsTo directories ⟨root, spelled, kind⟩ index identity (Path.join root path)) ↔
      Unmistaken root path ∧ Unrooted path := by
  constructor
  · rintro ⟨index, h⟩
    exact ⟨unmistaken_of_leadsTo ne relative write (h path (by simp)),
      unrooted_of_leadsTo ne relative write (h (Path.join root path) (by simp))⟩
  · rintro ⟨unmistaken, unrooted⟩
    obtain ⟨found, index, hf, -, same⟩ := exists_find? listed
    refine ⟨index, fun spelled hs => leadsTo_of_respells hf same relative hi ?_⟩
    rcases List.mem_pair.mp hs with rfl | rfl
    · exact respells_path unmistaken unrooted relative
    · exact respells_join unrooted relative

end Detection

end MethodTrace
