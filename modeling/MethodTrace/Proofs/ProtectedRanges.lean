import MethodTrace.Proofs.Weaving

/-!
The ranges in which a woven body catches every exception: all old instructions from the anchor on
that do not return.
-/

namespace MethodTrace.Weaving

open Markers

/-- Whether some range holds a place. -/
def InRanges (ranges : List (Nat × Nat)) (place : Nat) : Prop :=
  ∃ range ∈ ranges, range.1 ≤ place ∧ place < range.2

theorem gaps_nil (cursor stop : Nat) :
    gaps cursor stop [] = if cursor < stop then [(cursor, stop)] else [] := rfl

theorem gaps_cons (cursor stop first last : Nat) (exits : List (Nat × Nat)) :
    gaps cursor stop ((first, last) :: exits) =
      if last ≤ cursor then gaps cursor stop exits
      else if cursor < first then (cursor, first) :: gaps last stop exits
      else gaps last stop exits := rfl

theorem gaps_proper {exits : List (Nat × Nat)} {cursor stop : Nat} :
    ∀ range ∈ gaps cursor stop exits, (range.1 : Nat) < range.2 := by
  induction exits generalizing cursor with
  | nil =>
    intro range hr
    rw [gaps_nil] at hr
    split at hr
    · next hlt =>
      rw [List.mem_singleton.mp hr]
      exact hlt
    · cases hr
  | cons exit exits ih =>
    obtain ⟨first, last⟩ := exit
    intro range hr
    rw [gaps_cons] at hr
    split at hr
    · exact ih range hr
    · split at hr
      · next hgap =>
        rcases List.mem_cons.mp hr with rfl | hr
        · exact hgap
        · exact ih range hr
      · exact ih range hr

theorem le_of_mem_gaps {exits : List (Nat × Nat)} {cursor stop : Nat}
    (proper : ∀ exit ∈ exits, exit.1 < exit.2) :
    ∀ range ∈ gaps cursor stop exits, cursor ≤ (range.1 : Nat) := by
  induction exits generalizing cursor with
  | nil =>
    intro range hr
    rw [gaps_nil] at hr
    split at hr
    · rw [List.mem_singleton.mp hr]
    · cases hr
  | cons exit exits ih =>
    obtain ⟨first, last⟩ := exit
    have hrest : ∀ exit ∈ exits, exit.1 < exit.2 := fun exit he => proper exit (by simp [he])
    intro range hr
    rw [gaps_cons] at hr
    split at hr
    · exact ih hrest range hr
    · next reached =>
      have hlater : ∀ range ∈ gaps last stop exits, cursor ≤ (range.1 : Nat) := by
        intro range hr
        have hle := ih hrest range hr
        omega
      split at hr
      · rcases List.mem_cons.mp hr with rfl | hr
        · exact le_rfl
        · exact hlater range hr
      · exact hlater range hr

/-- Gaps come in their order, and an exit lies between any two of them. -/
theorem gaps_separated {exits : List (Nat × Nat)} {cursor stop : Nat}
    (proper : ∀ exit ∈ exits, exit.1 < exit.2) :
    (gaps cursor stop exits).Pairwise fun a b => (a.2 : Nat) < b.1 := by
  induction exits generalizing cursor with
  | nil =>
    rw [gaps_nil]
    split
    · exact List.pairwise_singleton _ _
    · exact .nil
  | cons exit exits ih =>
    obtain ⟨first, last⟩ := exit
    have hrest : ∀ exit ∈ exits, exit.1 < exit.2 := fun exit he => proper exit (by simp [he])
    rw [gaps_cons]
    split
    · exact ih hrest
    · split
      · refine List.pairwise_cons.mpr ⟨?_, ih hrest⟩
        intro range hr
        have hexit : first < last := proper (first, last) (by simp)
        exact Nat.lt_of_lt_of_le hexit (le_of_mem_gaps hrest range hr)
      · exact ih hrest

theorem inRanges_cons {first last place : Nat} {ranges : List (Nat × Nat)} :
    InRanges ((first, last) :: ranges) place ↔
      (first ≤ place ∧ place < last) ∨ InRanges ranges place := by
  simp [InRanges]

theorem le_of_inRanges {exits : List (Nat × Nat)} {least place : Nat}
    (h : ∀ exit ∈ exits, least ≤ exit.1) (held : InRanges exits place) : least ≤ place := by
  obtain ⟨exit, he, hle, _⟩ := held
  exact Nat.le_trans (h exit he) hle

/-- Between ascending exits the gaps hold every place that no exit holds. -/
theorem inRanges_gaps {exits : List (Nat × Nat)} {cursor stop place : Nat}
    (ascending : exits.Pairwise fun a b => a.2 ≤ b.1)
    (within : ∀ exit ∈ exits, exit.1 ≤ exit.2 ∧ exit.2 ≤ stop) :
    InRanges (gaps cursor stop exits) place ↔
      cursor ≤ place ∧ place < stop ∧ ¬ InRanges exits place := by
  induction exits generalizing cursor with
  | nil =>
    rw [gaps_nil]
    split
    · simp [InRanges]
    · simp only [InRanges, List.not_mem_nil, false_and, exists_false, not_false_eq_true, and_true,
        false_iff]
      omega
  | cons exit exits ih =>
    obtain ⟨first, last⟩ := exit
    obtain ⟨hfirst, hrest⟩ := List.pairwise_cons.mp ascending
    have hw : first ≤ last ∧ last ≤ stop := within (first, last) List.mem_cons_self
    have later (cursor : Nat) : InRanges (gaps cursor stop exits) place ↔
        cursor ≤ place ∧ place < stop ∧ ¬ InRanges exits place :=
      ih hrest fun exit he => within exit (List.mem_cons_of_mem _ he)
    rw [gaps_cons, inRanges_cons]
    by_cases held : InRanges exits place
    · -- What a later exit holds lies behind this one, and in no gap.
      have behind : last ≤ place := le_of_inRanges hfirst held
      simp only [held, or_true, not_true_eq_false, and_false, iff_false]
      split
      · simp [later, held]
      · split
        · rw [inRanges_cons, later]
          simp only [held, not_true_eq_false, and_false, or_false]
          omega
        · simp [later, held]
    · simp only [held, or_false]
      split
      · simp only [later, held, not_false_eq_true, and_true]
        omega
      · split
        · simp only [inRanges_cons, later, held, not_false_eq_true, and_true]
          omega
        · simp only [later, held, not_false_eq_true, and_true]
          omega

variable {markers : Markers} {old : Array Instruction} {woven : Weaving}

theorem Woven.exits_ascending (h : Woven markers old woven) :
    woven.exits.toList.Pairwise fun a b => a.2 ≤ b.1 := by
  rw [h.exits, List.pairwise_map]
  refine (List.pairwise_lt_range.sublist List.filter_sublist).imp_of_mem ?_
  intro a b ha _ hab
  have hc : closing old a = 1 := by simpa using (List.mem_filter.mp ha).2
  have hp := place_lt_entry markers old hab
  have ht := entry_le_target markers old b
  rw [place, hc] at hp
  change markers.target old a + 2 ≤ markers.target old b
  omega

theorem Woven.inRanges_exits (h : Woven markers old woven) {place : Nat} :
    InRanges woven.exits.toList place ↔
      ∃ l < old.size, closing old l = 1 ∧
        (place = markers.target old l ∨ place = markers.place old l) := by
  simp only [h.exits, InRanges, List.mem_map, List.mem_filter, List.mem_range]
  constructor
  · rintro ⟨_, ⟨l, ⟨hl, hc⟩, rfl⟩, hle, hlt⟩
    have hc : closing old l = 1 := by simpa using hc
    refine ⟨l, hl, hc, ?_⟩
    simp only at hle hlt
    rw [Markers.place, hc]
    omega
  · rintro ⟨l, hl, hc, hp⟩
    refine ⟨_, ⟨l, ⟨hl, by simpa using hc⟩, rfl⟩, ?_⟩
    rw [Markers.place, hc] at hp
    simp only
    omega

/-- An exit is an end call and the return behind it. -/
theorem Woven.exits_within (h : Woven markers old woven) :
    ∀ exit ∈ woven.exits.toList, exit.1 < exit.2 ∧ exit.2 ≤ woven.instructions.size := by
  intro exit he
  rw [h.exits, List.mem_map] at he
  obtain ⟨l, hl, rfl⟩ := he
  have hl' := List.mem_filter.mp hl
  have hc : closing old l = 1 := by simpa using hl'.2
  have hp := place_lt_entry markers old (List.mem_range.mp hl'.1)
  rw [Markers.place, hc] at hp
  rw [h.size]
  change markers.target old l < markers.target old l + 2 ∧
    markers.target old l + 2 ≤ markers.entry old old.size
  omega

/-- The protected ranges leave out the exits and what comes before the anchor. -/
theorem Woven.inRanges_protectedRanges_iff (h : Woven markers old woven) {place : Nat} :
    InRanges (woven.protectedRanges markers.anchor) place ↔
      woven.relocate (min markers.anchor old.size) ≤ place ∧ place < woven.instructions.size ∧
        ¬InRanges woven.exits.toList place := by
  have hwithin : ∀ exit ∈ woven.exits.toList, exit.1 ≤ exit.2 ∧
      exit.2 ≤ woven.instructions.size :=
    fun exit he => ⟨Nat.le_of_lt (h.exits_within exit he).1, (h.exits_within exit he).2⟩
  rw [protectedRanges, inRanges_gaps h.exits_ascending hwithin, h.relocation_size,
    Nat.add_sub_cancel]

theorem Woven.inRanges_protectedRanges (h : Woven markers old woven) {place : Nat} :
    InRanges (woven.protectedRanges markers.anchor) place ↔
      ∃ l < old.size, markers.anchor ≤ l ∧ closing old l = 0 ∧ place = markers.place old l := by
  rw [h.inRanges_protectedRanges_iff, h.relocate _ (Nat.min_le_right _ _), h.size]
  change markers.target old (min markers.anchor old.size) ≤ place ∧ _ ↔ _
  constructor
  · rintro ⟨hc, hs, hn⟩
    rw [h.inRanges_exits] at hn
    rcases place_cases hs with ⟨l, hl, i, hi, rfl⟩ | ⟨l, hl, hcl, hp⟩ | ⟨l, hl, rfl⟩
    · -- The prologue stands right before the target of the anchor.
      exfalso
      have ha : l = markers.anchor := by
        by_contra hne
        rw [opening_of_ne hne] at hi
        omega
      subst ha
      rw [Nat.min_eq_left (by omega), target] at hc
      omega
    · exact absurd ⟨l, hl, hcl, .inl hp⟩ hn
    · have hle : min markers.anchor old.size ≤ l := (target_le_place_iff markers old).mp hc
      have hclosing := closing_le_one old l
      have ha : markers.anchor ≤ l := by
        rcases Nat.le_total markers.anchor old.size with hh | hh
        · rwa [Nat.min_eq_left hh] at hle
        · rw [Nat.min_eq_right hh] at hle
          exact absurd hl (Nat.not_lt.mpr hle)
      refine ⟨l, hl, ha, ?_, rfl⟩
      by_contra hne
      exact hn ⟨l, hl, by omega, .inr rfl⟩
  · rintro ⟨l, hl, ha, hcl, rfl⟩
    have hle : min markers.anchor old.size ≤ l := Nat.le_trans (Nat.min_le_left _ _) ha
    refine ⟨(target_le_place_iff markers old).mpr hle, place_lt_entry markers old hl, ?_⟩
    rw [h.inRanges_exits]
    rintro ⟨other, _, hother, hp | hp⟩
    · -- An end call stands between its own place and that of the instruction before.
      have ht := (target_le_place_iff markers old).mp (le_of_eq hp.symm)
      rcases Nat.eq_or_lt_of_le ht with rfl | lt
      · omega
      · have := place_lt_entry markers old lt
        have := target_lt_target markers old lt
        rw [Markers.place, hcl] at hp
        omega
    · rw [place_injective hp] at hcl
      omega

end MethodTrace.Weaving
