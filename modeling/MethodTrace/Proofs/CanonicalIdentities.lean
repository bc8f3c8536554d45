import MethodTrace.Proofs.StoreErrands

/-!
Identities as the canonical names of what raw texts lead to.

A text is cut at its separators and loses the pieces that name nothing. What is left decides
whether there is an identity, which one it is, and where the unit of that identity is stored.
-/

namespace MethodTrace

namespace Path

variable {base path : String} {names : List String}

/-- A path that goes on from another one names its steps after those of the other one. -/
theorem components_join (hb : base ≠ "") (h : isAbsolute path = false) :
    components (join base path) = components base ++ steps path := by
  rw [components_eq, lead_join hb h, steps_join h, ← List.append_assoc, ← components_eq]

theorem components_of_isStep {name : String} (h : Identity.IsStep name) :
    components name = [name] := by
  have alone : segments name.toList = [name] := by
    rw [segments_of_not_mem h.slash_not_mem, String.ofList_toList]
  have cut : pieces name = ⟨"", [name]⟩ := by
    unfold pieces
    split
    next rest hs => exact absurd (by simp [hs]) h.slash_not_mem
    next hs => exact absurd (String.toList_injective hs) h.ne_dot
    next rest hs => exact absurd (by simp [hs]) h.slash_not_mem
    next => rw [alone]
  have named : isBlank name = false := by simp [isBlank, h.ne_empty, h.ne_dot]
  simp [components, cut, named]

/-- The steps of an identity are named one by one behind the path from which they lead on. -/
theorem components_foldl_join (h : ∀ name ∈ names, Identity.IsStep name) (root : String) :
    components (names.foldl join root) = components root ++ names := by
  induction names generalizing root with
  | nil => simp
  | cons name names ih =>
    have step := h name (by simp)
    have relative := isAbsolute_eq_false step.slash_not_mem
    have first : components (join root name) = components root ++ [name] := by
      by_cases hr : root = ""
      · have none : components "" = [] := by decide
        subst hr
        simp [join, components_of_isStep step, none]
      · have alone : steps name = [name] := by
          rw [steps, segments_of_not_mem step.slash_not_mem, String.ofList_toList]
          simp [isBlank, step.ne_empty, step.ne_dot]
        rw [components_join hr relative, alone]
    rw [List.foldl_cons, ih (fun other ho => h other (by simp [ho])), first, List.append_assoc,
      List.singleton_append]

/-- A path that leads on from another one by at least one step, and never upwards, so that it leads
to a place strictly below. -/
structure IsBelow (path root : String) : Prop where
  named : ∃ names, names ≠ [] ∧ ".." ∉ names ∧ components path = components root ++ names
  place : ∃ names, names ≠ [] ∧ ".." ∉ names ∧ Place.named path = Place.named root ++ names

end Path

namespace Identity

variable {raw identity other : String} {found kept : List String}

/-- The pieces into which separators cut a text: there is one of them between any two, and none in
a piece. -/
inductive Cut : String → List String → Prop
  | whole {piece : String} (plain : '/' ∉ piece.toList ∧ '\\' ∉ piece.toList) : Cut piece [piece]
  | slash {piece rest : String} {others : List String}
    (plain : '/' ∉ piece.toList ∧ '\\' ∉ piece.toList) (cut : Cut rest others) :
    Cut (piece ++ "/" ++ rest) (piece :: others)
  | backslash {piece rest : String} {others : List String}
    (plain : '/' ∉ piece.toList ∧ '\\' ∉ piece.toList) (cut : Cut rest others) :
    Cut (piece ++ "\\" ++ rest) (piece :: others)

/-- What is left of a text when it has been cut and the pieces that name nothing are dropped. -/
def Keeps (raw : String) (kept : List String) : Prop :=
  ∃ found, Cut raw found ∧ kept = found.filter fun piece => piece ≠ "" ∧ piece ≠ "."

theorem isSeparator_eq_false_iff {text : String} :
    (∀ c ∈ text.toList, isSeparator c = false) ↔ '/' ∉ text.toList ∧ '\\' ∉ text.toList := by
  constructor
  · intro h
    refine ⟨fun hs => ?_, fun hs => ?_⟩
    · exact absurd (h _ hs) (by decide)
    · exact absurd (h _ hs) (by decide)
  · rintro ⟨slash, backslash⟩ c hc
    have first : c ≠ '/' := fun he => slash (he ▸ hc)
    have second : c ≠ '\\' := fun he => backslash (he ▸ hc)
    simp [isSeparator, first, second]

theorem pieces_of_whole {piece : String} (h : ∀ c ∈ piece.toList, isSeparator c = false) :
    pieces piece = [piece] := by
  simp [pieces, List.splitOnP_eq_singleton h]

/-- A text is cut at its first separator, and behind it like the rest. -/
theorem pieces_append {piece rest : String} {separator : Char}
    (h : ∀ c ∈ piece.toList, isSeparator c = false) (hs : isSeparator separator = true) :
    pieces (piece ++ String.singleton separator ++ rest) = piece :: pieces rest := by
  simp only [pieces, String.toList_append, String.toList_singleton, List.append_assoc,
    List.singleton_append]
  rw [List.splitOnP_append_cons _ _ hs, List.splitOnP_eq_singleton h]
  simp

theorem Cut.eq_pieces (h : Cut raw found) : found = pieces raw := by
  induction h with
  | whole plain => rw [pieces_of_whole (isSeparator_eq_false_iff.mpr plain)]
  | slash plain _ ih =>
    have hs : isSeparator '/' = true := by decide
    rw [ih]
    exact (pieces_append (isSeparator_eq_false_iff.mpr plain) hs).symm
  | backslash plain _ ih =>
    have hs : isSeparator '\\' = true := by decide
    rw [ih]
    exact (pieces_append (isSeparator_eq_false_iff.mpr plain) hs).symm

/-- A character that is no separator belongs to the first piece. -/
theorem Cut.exists_cons {c : Char} (h : Cut raw found) (hc : isSeparator c = false) :
    ∃ longer, Cut (String.singleton c ++ raw) longer := by
  have plain {piece : String} (hp : '/' ∉ piece.toList ∧ '\\' ∉ piece.toList) :
      '/' ∉ (String.singleton c ++ piece).toList ∧ '\\' ∉ (String.singleton c ++ piece).toList := by
    rw [← isSeparator_eq_false_iff] at hp ⊢
    simpa [hc] using hp
  cases h with
  | whole hp => exact ⟨_, .whole (plain hp)⟩
  | slash hp cut =>
    rw [← String.append_assoc, ← String.append_assoc]
    exact ⟨_, .slash (plain hp) cut⟩
  | backslash hp cut =>
    rw [← String.append_assoc, ← String.append_assoc]
    exact ⟨_, .backslash (plain hp) cut⟩

theorem exists_cut (raw : String) : ∃ found, Cut raw found := by
  have each : ∀ chars : List Char, ∃ found, Cut (String.ofList chars) found := by
    intro chars
    induction chars with
    | nil => exact ⟨_, .whole (by simp)⟩
    | cons c chars ih =>
      obtain ⟨found, cut⟩ := ih
      have front : String.ofList (c :: chars) = String.singleton c ++ String.ofList chars :=
        String.toList_injective (by simp)
      cases hc : isSeparator c with
      | false =>
        rw [front]
        exact cut.exists_cons hc
      | true =>
        have empty : '/' ∉ "".toList ∧ '\\' ∉ "".toList := by decide
        simp only [isSeparator, Bool.or_eq_true, beq_iff_eq] at hc
        rcases hc with rfl | rfl
        · have := Cut.slash empty cut
          rw [String.empty_append] at this
          exact ⟨_, front ▸ this⟩
        · have := Cut.backslash empty cut
          rw [String.empty_append] at this
          exact ⟨_, front ▸ this⟩
  have := each raw.toList
  rwa [String.ofList_toList] at this

/-- Every text is cut in exactly one way. -/
theorem cut_iff : Cut raw found ↔ found = pieces raw := by
  refine ⟨Cut.eq_pieces, ?_⟩
  rintro rfl
  obtain ⟨found, cut⟩ := exists_cut raw
  exact cut.eq_pieces ▸ cut

theorem keeps_iff : Keeps raw kept ↔ kept = segments raw := by
  have named (piece : String) :
      decide (piece ≠ "" ∧ piece ≠ ".") = (piece != "" && piece != ".") := by
    rw [Bool.eq_iff_iff]
    simp
  unfold Keeps segments
  simp only [cut_iff, exists_eq_left, named]

end Identity

namespace UnitStore

variable {store : UnitStore} {identity other : String}

theorem components_unitPath (normal : Identity.IsNormal identity) :
    Path.components (store.unitPath identity)
      = Path.components store.root ++ Identity.segments identity := by
  unfold unitPath Path.descend
  rw [normal.path_segments]
  exact Path.components_foldl_join (fun _ => normal.isStep) store.root

theorem isBelow_unitPath (normal : Identity.IsNormal identity) :
    Path.IsBelow (store.unitPath identity) store.root := by
  have up : ".." ∉ Identity.segments identity := fun hm => (normal.isStep hm).ne_up rfl
  exact ⟨⟨_, normal.segments_ne_nil, up, components_unitPath normal⟩,
    ⟨_, normal.segments_ne_nil, up, named_unitPath normal⟩⟩

theorem eq_of_same_unitPath (normal : Identity.IsNormal identity) (ho : Identity.IsNormal other)
    (h : Path.same (store.unitPath identity) (store.unitPath other) = true) : identity = other := by
  rw [Path.same, beq_iff_eq, components_unitPath normal, components_unitPath ho] at h
  exact normal.eq_of_segments ho (List.append_cancel_left h)

end UnitStore

namespace Identity

/-- A text has an identity exactly if something is left of it and nothing that is left leads
upwards. The identity is what is left, joined by slashes. It is its own identity and that of all
texts of which the same is left, and of no other ones. Units are stored strictly below their store,
and those of different identities under different paths that lead to different places. -/
theorem normalize?_canonical (raw : String) (store : UnitStore) : ∃ kept : List String,
    (∀ found, Keeps raw found ↔ found = kept) ∧
    (normalize? raw = none ↔ kept = [] ∨ ".." ∈ kept) ∧
    (∀ identity, normalize? raw = some identity ↔
      kept ≠ [] ∧ ".." ∉ kept ∧ identity = "/".intercalate kept) ∧
    (∀ identity, normalize? raw = some identity → IsNormal identity ∧
      ∀ other, normalize? other = some identity ↔ Keeps other kept) ∧
    ∀ identity, IsNormal identity → Path.IsBelow (store.unitPath identity) store.root ∧
      ∀ other, IsNormal other → identity ≠ other →
        Path.same (store.unitPath identity) (store.unitPath other) = false ∧
        Place.named (store.unitPath identity) ≠ Place.named (store.unitPath other) := by
  refine ⟨segments raw, fun _ => keeps_iff, ?_, ?_, ?_, ?_⟩
  · rw [Option.eq_none_iff_forall_ne_some]
    simp only [ne_eq, normalize?_eq_some_iff]
    constructor
    · intro none
      by_contra hn
      rw [not_or] at hn
      exact none _ ⟨hn.1, hn.2, rfl⟩
    · rintro (empty | up) _ ⟨some, down, _⟩
      · exact some empty
      · exact down up
  · intro identity
    rw [normalize?_eq_some_iff]
    exact and_congr_right fun _ => and_congr_right fun _ => eq_comm
  · intro identity h
    refine ⟨isNormal_of_normalize? h, fun other => ?_⟩
    obtain ⟨some, down, joined⟩ := normalize?_eq_some_iff.mp h
    rw [keeps_iff]
    constructor
    · intro ho
      obtain ⟨_, downward, same⟩ := normalize?_eq_some_iff.mp ho
      -- the segments of an identity are those of every text that has it
      have left := segments_intercalate fun _ hs => isStep_of_mem_segments hs down
      have right := segments_intercalate fun _ hs => isStep_of_mem_segments hs downward
      rw [joined] at left
      rw [same] at right
      exact left.symm.trans right
    · intro same
      exact normalize?_eq_some_iff.mpr (same ▸ ⟨some, down, joined⟩)
  · intro identity normal
    refine ⟨UnitStore.isBelow_unitPath normal, fun other ho ne => ⟨?_, fun place => ?_⟩⟩
    · rw [Bool.eq_false_iff]
      exact fun same => ne (UnitStore.eq_of_same_unitPath normal ho same)
    · exact ne (UnitStore.unitPath_injective normal ho place)

end Identity

end MethodTrace
