import MethodTrace.Path
import MethodTrace.Unit.Identity
import Mathlib

/-!
Identities in canonical spelling, and the steps of which they are made.
-/

namespace MethodTrace

/-- The pieces of a list that is cut hold nothing at which it is cut. -/
theorem forall_mem_splitOnP {α : Type} {p : α → Bool} {xs piece : List α}
    (h : piece ∈ xs.splitOnP p) : ∀ x ∈ piece, p x = false := by
  induction xs generalizing piece with
  | nil =>
    rw [List.splitOnP_nil, List.mem_singleton] at h
    subst h
    simp
  | cons x xs ih =>
    rw [List.splitOnP_cons_eq_if_modifyHead] at h
    obtain ⟨first, rest, hs⟩ := List.exists_cons_of_ne_nil (List.splitOnP_ne_nil p xs)
    rw [hs] at h ih
    split at h
    next =>
      rcases List.mem_cons.mp h with rfl | h
      · simp
      · exact ih h
    next hx =>
      rcases List.mem_cons.mp h with rfl | h
      · intro y hy
        rcases List.mem_cons.mp hy with rfl | hy
        · simpa using hx
        · exact ih (by simp) y hy
      · exact ih (by simp [h])

/-- A piece of a list that is cut at fewer places is a piece of the other cut as well, if it is not
cut there. -/
theorem mem_splitOnP_of_imp {α : Type} {p q : α → Bool} (h : ∀ x, p x = true → q x = true)
    {xs piece : List α} (hp : piece ∈ xs.splitOnP p) (hq : ∀ x ∈ piece, q x = false) :
    piece ∈ xs.splitOnP q := by
  -- the first piece grows with the list, so it is followed apart from the other ones
  have apart : ∀ xs : List α, ∃ first rest other others, xs.splitOnP p = first :: rest ∧
      xs.splitOnP q = other :: others ∧ ((∀ x ∈ first, q x = false) → other = first) ∧
      ∀ piece ∈ rest, (∀ x ∈ piece, q x = false) → piece ∈ others := by
    intro xs
    induction xs with
    | nil => exact ⟨[], [], [], [], by simp, by simp, fun _ => rfl, by simp⟩
    | cons x xs ih =>
      obtain ⟨first, rest, other, others, hs, ho, head, tail⟩ := ih
      rw [List.splitOnP_cons_eq_if_modifyHead, List.splitOnP_cons_eq_if_modifyHead, hs, ho]
      cases hx : q x with
      | true =>
        cases hpx : p x with
        | true =>
          refine ⟨[], first :: rest, [], other :: others, by simp, by simp, fun _ => rfl, ?_⟩
          intro piece hm hq
          rcases List.mem_cons.mp hm with rfl | hm
          · rw [head hq]
            exact List.mem_cons_self
          · exact List.mem_cons_of_mem _ (tail piece hm hq)
        | false =>
          refine ⟨x :: first, rest, [], other :: others, by simp, by simp, ?_, ?_⟩
          · intro hf
            simp [hx] at hf
          · exact fun piece hm hq => List.mem_cons_of_mem _ (tail piece hm hq)
      | false =>
        have hpx : p x = false := by
          rw [Bool.eq_false_iff]
          intro hpx
          simp [h x hpx] at hx
        refine ⟨x :: first, rest, x :: other, others, by simp [hpx], by simp, ?_, tail⟩
        intro hf
        rw [head fun y hy => hf y (by simp [hy])]
  obtain ⟨first, rest, other, others, hs, ho, head, tail⟩ := apart xs
  rw [hs] at hp
  rw [ho]
  rcases List.mem_cons.mp hp with rfl | hp
  · rw [head hq]
    exact List.mem_cons_self
  · exact List.mem_cons_of_mem _ (tail piece hp hq)

namespace Path

theorem isAbsolute_iff {path : String} : isAbsolute path = true ↔ ['/'] <+: path.toList := by
  simp [isAbsolute, String.startsWith_string_iff]

theorem isAbsolute_eq_false {path : String} (h : '/' ∉ path.toList) : isAbsolute path = false := by
  rw [Bool.eq_false_iff]
  intro ha
  exact h ((isAbsolute_iff.mp ha).subset (by simp))

theorem endsWith_slash_iff {path : String} :
    path.endsWith "/" = true ↔ ∃ base, path = base ++ "/" := by
  have slice : path.endsWith "/" = path.toSlice.endsWith "/" := rfl
  rw [slice, String.Slice.endsWith_string_iff, String.copy_toSlice]
  constructor
  · rintro ⟨base, h⟩
    refine ⟨String.ofList base, String.toList_injective ?_⟩
    simp [← h]
  · rintro ⟨base, rfl⟩
    simp

/-- The texts around a slash are cut apart from each other. -/
theorem segments_append_slash (first second : List Char) :
    segments (first ++ '/' :: second) = segments first ++ segments second := by
  simp [segments, List.splitOn_append_cons_self]

theorem segments_of_not_mem {text : List Char} (h : '/' ∉ text) :
    segments text = [String.ofList text] := by
  simp [segments, List.splitOn_eq_singleton h]

theorem not_mem_of_mem_segments {text : List Char} {segment : String}
    (h : segment ∈ segments text) : '/' ∉ segment.toList := by
  obtain ⟨piece, hp, rfl⟩ := List.mem_map.mp h
  rw [List.splitOn_eq_splitOnP] at hp
  rw [String.toList_ofList]
  intro hs
  have := forall_mem_splitOnP hp _ hs
  simp at this

/-- Names without slashes are the segments of the text that they make. -/
theorem segments_intercalate {names : List String} (h : names ≠ [])
    (hs : ∀ name ∈ names, '/' ∉ name.toList) :
    segments ("/".intercalate names).toList = names := by
  have split : (['/'].intercalate (names.map String.toList)).splitOn '/'
      = names.map String.toList := by
    apply List.splitOn_intercalate
    · intro piece hp
      obtain ⟨name, hn, rfl⟩ := List.mem_map.mp hp
      exact hs name hn
    · simpa using h
  rw [segments, String.toList_intercalate]
  change ((['/'].intercalate (names.map String.toList)).splitOn '/').map String.ofList = names
  rw [split, List.map_map]
  simp

end Path

namespace Identity

/-- A text that can be a step of an identity. -/
structure IsStep (text : String) : Prop where
  ne_empty : text ≠ ""
  ne_dot : text ≠ "."
  ne_up : text ≠ ".."
  whole : ∀ c ∈ text.toList, isSeparator c = false

instance (text : String) : Decidable (IsStep text) :=
  decidable_of_iff
    (text ≠ "" ∧ text ≠ "." ∧ text ≠ ".." ∧ text.toList.all (fun c => !isSeparator c) = true) <| by
    constructor
    · rintro ⟨empty, dot, up, whole⟩
      exact ⟨empty, dot, up, by simpa using whole⟩
    · intro step
      exact ⟨step.ne_empty, step.ne_dot, step.ne_up, by simpa using step.whole⟩

/-- An identity in its canonical spelling. -/
def IsNormal (identity : String) : Prop :=
  normalize? identity = some identity

theorem IsStep.slash_not_mem {text : String} (h : IsStep text) : '/' ∉ text.toList := by
  intro hs
  have := h.whole _ hs
  simp [isSeparator] at this

theorem normalize?_eq_some_iff {raw identity : String} :
    normalize? raw = some identity ↔
      segments raw ≠ [] ∧ ".." ∉ segments raw ∧ "/".intercalate (segments raw) = identity := by
  simp only [normalize?, Bool.or_eq_true, List.isEmpty_iff, List.contains_iff_mem]
  split
  next h =>
    rcases h with h | h
    · simp [h]
    · simp [h]
  next h =>
    simp only [not_or] at h
    simp [h.1, h.2]

/-- What has an identity does not lead upwards as a path either. -/
theorem up_not_mem_of_normalize? {raw identity : String} (h : normalize? raw = some identity) :
    ".." ∉ Path.segments raw.toList := by
  intro hm
  obtain ⟨piece, hp, he⟩ := List.mem_map.mp hm
  have dots : piece = ['.', '.'] := by
    rw [← String.toList_ofList (l := piece), he]
    rfl
  rw [List.splitOn_eq_splitOnP] at hp
  have cut := mem_splitOnP_of_imp (q := isSeparator) (by simp [isSeparator]) hp
    (by simp [dots, isSeparator])
  refine (normalize?_eq_some_iff.mp h).2.1 (List.mem_filter.mpr ⟨?_, by decide⟩)
  exact List.mem_map.mpr ⟨piece, cut, he⟩

theorem isStep_of_mem_segments {raw segment : String} (h : segment ∈ segments raw)
    (hup : ".." ∉ segments raw) : IsStep segment := by
  obtain ⟨hp, hblank⟩ := List.mem_filter.mp h
  obtain ⟨piece, hs, rfl⟩ := List.mem_map.mp hp
  simp only [Bool.and_eq_true, bne_iff_ne] at hblank
  refine ⟨hblank.1, hblank.2, ?_, ?_⟩
  · rintro he
    rw [he] at h
    exact hup h
  · rw [String.toList_ofList]
    exact forall_mem_splitOnP hs

/-- Steps are the segments of the text that they make. -/
theorem segments_intercalate {steps : List String} (hs : ∀ step ∈ steps, IsStep step) :
    segments ("/".intercalate steps) = steps := by
  induction steps with
  | nil => rfl
  | cons first rest ih =>
    have hfirst := hs first (by simp)
    have piece : pieces first = [first] := by
      simp [pieces, List.splitOnP_eq_singleton hfirst.whole]
    have kept : segments first = [first] := by
      simp [segments, piece, hfirst.ne_empty, hfirst.ne_dot]
    cases rest with
    | nil => simpa using kept
    | cons second rest =>
      have cut : pieces ("/".intercalate (first :: second :: rest))
          = pieces first ++ pieces ("/".intercalate (second :: rest)) := by
        rw [String.intercalate_cons_cons]
        simp only [pieces, String.toList_append, List.append_assoc]
        rw [show "/".toList = ['/'] from rfl, List.singleton_append,
          List.splitOnP_append_cons _ _ (by decide), List.map_append]
      have hrest := ih fun step h => hs step (by simp [h])
      have := congrArg (List.filter fun segment => segment != "" && segment != ".") cut
      rw [List.filter_append] at this
      calc segments ("/".intercalate (first :: second :: rest))
          = segments first ++ segments ("/".intercalate (second :: rest)) := this
        _ = first :: second :: rest := by rw [kept, hrest, List.singleton_append]

/-- An identity is in canonical spelling exactly if it is made of steps. -/
theorem isNormal_iff {identity : String} :
    IsNormal identity ↔ ∃ steps : List String, steps ≠ [] ∧ (∀ step ∈ steps, IsStep step) ∧
      "/".intercalate steps = identity := by
  constructor
  · intro h
    obtain ⟨hne, hup, he⟩ := normalize?_eq_some_iff.mp h
    exact ⟨segments identity, hne, fun _ hs => isStep_of_mem_segments hs hup, he⟩
  · rintro ⟨steps, hne, hs, rfl⟩
    apply normalize?_eq_some_iff.mpr
    rw [segments_intercalate hs]
    exact ⟨hne, fun hup => (hs _ hup).ne_up rfl, rfl⟩

theorem isNormal_of_normalize? {raw identity : String} (h : normalize? raw = some identity) :
    IsNormal identity := by
  obtain ⟨hne, hup, he⟩ := normalize?_eq_some_iff.mp h
  exact isNormal_iff.mpr ⟨segments raw, hne, fun _ hs => isStep_of_mem_segments hs hup, he⟩

namespace IsNormal

variable {identity other : String}

theorem path_segments (h : IsNormal identity) :
    Path.segments identity.toList = segments identity := by
  obtain ⟨steps, hne, hs, rfl⟩ := isNormal_iff.mp h
  rw [Path.segments_intercalate hne fun step hm => (hs step hm).slash_not_mem,
    segments_intercalate hs]

theorem isStep (h : IsNormal identity) {step : String} (hs : step ∈ segments identity) :
    IsStep step :=
  isStep_of_mem_segments hs (normalize?_eq_some_iff.mp h).2.1

theorem segments_ne_nil (h : IsNormal identity) : segments identity ≠ [] :=
  (normalize?_eq_some_iff.mp h).1

theorem eq_of_segments (h : IsNormal identity) (ho : IsNormal other)
    (hs : segments identity = segments other) : identity = other := by
  rw [← (normalize?_eq_some_iff.mp h).2.2, ← (normalize?_eq_some_iff.mp ho).2.2, hs]

/-- No identity in canonical spelling names a directory. -/
theorem not_endsWith_slash (h : IsNormal identity) : identity.endsWith "/" = false := by
  rw [Bool.eq_false_iff]
  intro he
  obtain ⟨base, rfl⟩ := Path.endsWith_slash_iff.mp he
  have hs := h.path_segments
  rw [String.toList_append, show "/".toList = '/' :: [] from rfl,
    Path.segments_append_slash] at hs
  have : "" ∈ segments (base ++ "/") := by
    rw [← hs]
    simp [Path.segments]
  exact (h.isStep this).ne_empty rfl

end IsNormal

end Identity

end MethodTrace
