import MethodTrace.Proofs.Identities
import MethodTrace.Proofs.Runs
import MethodTrace.Workspace

/-!
Where paths lead, and what is there before and after an operation on files.
-/

namespace MethodTrace

namespace Place

/-- The place to which a step leads where it can be taken. -/
def after (place : Place) (step : String) : Place :=
  if Path.isBlank step then place
  else if step = ".." then place.up
  else place ++ [step]

/-- The place to which a path leads where it can be followed. -/
def named (path : String) : Place :=
  (Path.segments path.toList).foldl after (if Path.isAbsolute path then ["/"] else [])

theorem after_of_isStep {place : Place} {step : String} (h : Identity.IsStep step) :
    place.after step = place ++ [step] := by
  simp [after, Path.isBlank, h.ne_empty, h.ne_dot, h.ne_up]

theorem foldl_after_of_isStep {place : Place} {steps : List String}
    (h : ∀ step ∈ steps, Identity.IsStep step) : steps.foldl after place = place ++ steps := by
  induction steps generalizing place with
  | nil => simp
  | cons step steps ih =>
    rw [List.foldl_cons, after_of_isStep (h step (by simp)), ih fun s hs => h s (by simp [hs]),
      List.append_assoc, List.singleton_append]

theorem prefix_foldl_after {place : Place} {steps : List String} (h : ".." ∉ steps) :
    place <+: steps.foldl after place := by
  induction steps generalizing place with
  | nil => exact List.prefix_rfl
  | cons step steps ih =>
    have ne : step ≠ ".." := fun he => h (by simp [he])
    have onward : place <+: place.after step := by
      rw [after, if_neg ne]
      split
      · exact List.prefix_rfl
      · exact List.prefix_append _ _
    exact onward.trans (ih fun hm => h (by simp [hm]))

theorem after_empty (place : Place) : place.after "" = place := by
  simp [after, Path.isBlank]

theorem isAbsolute_append {base rest : String} (h : base ≠ "") :
    Path.isAbsolute (base ++ rest) = Path.isAbsolute base := by
  rw [Bool.eq_iff_iff, Path.isAbsolute_iff, Path.isAbsolute_iff, String.toList_append]
  cases hb : base.toList with
  | nil => exact absurd (String.toList_eq_nil_iff.mp hb) h
  | cons c chars => simp [List.cons_prefix_cons]

theorem named_append {base path : String} (h : base ≠ "") :
    named (base ++ path) = (Path.segments (base ++ path).toList).foldl after
      (if Path.isAbsolute base then ["/"] else []) := by
  rw [named, isAbsolute_append h]

/-- A path that goes on from another one leads on from where that leads. -/
theorem named_join {base path : String} (h : Path.isAbsolute path = false) :
    named (Path.join base path) = (Path.segments path.toList).foldl after (named base) := by
  have start : named "" = [] := by decide
  simp only [Path.join, h, Bool.false_or]
  split
  next hb =>
    simp only [decide_eq_true_eq] at hb
    rw [hb, start, named, h]
    rfl
  next hb =>
    simp only [decide_eq_true_eq] at hb
    split
    next he =>
      obtain ⟨front, rfl⟩ := Path.endsWith_slash_iff.mp he
      have cut : Path.segments (front ++ "/" ++ path).toList
          = Path.segments front.toList ++ Path.segments path.toList := by
        rw [String.toList_append, String.toList_append, List.append_assoc]
        exact Path.segments_append_slash _ _
      have base : Path.segments (front ++ "/").toList = Path.segments front.toList ++ [""] := by
        rw [String.toList_append]
        exact Path.segments_append_slash _ _
      rw [named_append hb, cut, List.foldl_append, named, base, List.foldl_append,
        List.foldl_cons, List.foldl_nil, after_empty]
    next =>
      have cut : Path.segments (base ++ "/" ++ path).toList
          = Path.segments base.toList ++ Path.segments path.toList := by
        rw [String.toList_append, String.toList_append, List.append_assoc]
        exact Path.segments_append_slash _ _
      rw [String.append_assoc] at cut ⊢
      rw [named_append hb, cut, List.foldl_append, named]

/-- A step behind a path leads on from there. -/
theorem named_of_isStep {step : String} (h : Identity.IsStep step) : named step = [step] := by
  rw [named, Path.isAbsolute_eq_false h.slash_not_mem, Path.segments_of_not_mem h.slash_not_mem,
    String.ofList_toList]
  exact after_of_isStep h

theorem named_join_of_isStep {base step : String} (h : Identity.IsStep step) :
    named (Path.join base step) = named base ++ [step] := by
  rw [named_join (Path.isAbsolute_eq_false h.slash_not_mem),
    Path.segments_of_not_mem h.slash_not_mem, String.ofList_toList]
  exact after_of_isStep h

theorem named_descend {base text : String} :
    named (Path.descend base text) = (Path.segments text.toList).foldl after (named base) := by
  have each : ∀ (segments : List String), (∀ segment ∈ segments, '/' ∉ segment.toList) →
      ∀ base, named (segments.foldl Path.join base) = segments.foldl after (named base) := by
    intro segments
    induction segments with
    | nil => simp
    | cons segment segments ih =>
      intro h base
      have hs := h segment (by simp)
      rw [List.foldl_cons, ih (fun s hm => h s (by simp [hm])),
        named_join (Path.isAbsolute_eq_false hs),
        Path.segments_of_not_mem hs, String.ofList_toList]
      rfl
  exact each _ (fun _ => Path.not_mem_of_mem_segments) base

/-- An identity below a directory leads down from there by its steps. -/
theorem named_descend_of_isNormal {base identity : String} (h : Identity.IsNormal identity) :
    named (Path.descend base identity) = named base ++ Identity.segments identity := by
  rw [named_descend, h.path_segments, foldl_after_of_isStep fun _ => h.isStep]

end Place

namespace Workspace

variable {v w : Workspace} {place : Place} {path : String} {bytes : Bytes}

theorem node?_insert {node : Node} (h : place.isTop = false) (other : Place) :
    (w.insert place node).node? other = if other = place then some node else w.node? other := by
  by_cases he : other = place
  · subst he
    simp [node?, insert, h]
  · simp [node?, insert, he, Ne.symm he, Std.ExtTreeMap.getElem?_insert,
      Std.LawfulEqCmp.compare_eq_iff_eq]

theorem node?_erase (h : place.isTop = false) (other : Place) :
    (w.erase place).node? other = if other = place then none else w.node? other := by
  by_cases he : other = place
  · subst he
    simp [node?, erase, h]
  · simp [node?, erase, he, Ne.symm he, Std.ExtTreeMap.getElem?_erase,
      Std.LawfulEqCmp.compare_eq_iff_eq]

theorem isTop_eq_false (h : w.node? place ≠ some .directory) : place.isTop = false := by
  rw [Bool.eq_false_iff]
  intro ht
  exact h (by simp [node?, ht])

theorem isTop_of_file (h : w.node? place = some (.file bytes)) : place.isTop = false :=
  @isTop_eq_false w place (by simp [h])

/-- Where a path leads does not depend on what is there. -/
theorem follow_eq_ok {step : String} {target : Place} (h : w.follow place step = .ok target) :
    w.node? place = some .directory ∧ target = place.after step := by
  unfold follow at h
  split at h
  next => cases h
  next => cases h
  next hd =>
    refine ⟨hd, ?_⟩
    rw [Place.after]
    repeat' split at h
    all_goals cases h
    all_goals simp_all

theorem foldlM_follow_eq_ok {steps : List String} {target : Place}
    (h : steps.foldlM w.follow place = .ok target) : target = steps.foldl Place.after place := by
  induction steps generalizing place with
  | nil =>
    cases h
    rfl
  | cons step steps ih =>
    rw [List.foldlM_cons] at h
    obtain ⟨next, hf, h⟩ := Except.bind_eq_ok_iff.mp h
    rw [ih h, (follow_eq_ok hf).2, List.foldl_cons]

/-- Whether a path can be followed. -/
def Reaches (w : Workspace) (path : String) : Prop :=
  w.place path = .ok (Place.named path)

theorem place_eq_ok_iff : w.place path = .ok place ↔ w.Reaches path ∧ place = Place.named path := by
  constructor
  · intro h
    have named : place = Place.named path := by
      unfold Workspace.place followAll at h
      split at h
      · cases h
      · split at h
        · cases h
        · exact foldlM_follow_eq_ok h
    subst named
    exact ⟨h, rfl⟩
  · rintro ⟨h, rfl⟩
    exact h

/-- Workspaces of which the second has all directories of the first. -/
def KeepsDirectories (v w : Workspace) : Prop :=
  ∀ place, v.node? place = some .directory → w.node? place = some .directory

theorem KeepsDirectories.follow (h : KeepsDirectories v w) {step : String} {target : Place}
    (hf : v.follow place step = .ok target) : w.follow place step = .ok target := by
  have hd := (follow_eq_ok hf).1
  unfold Workspace.follow at hf ⊢
  rw [hd] at hf
  rw [h place hd]
  exact hf

theorem KeepsDirectories.reaches (h : KeepsDirectories v w) (hr : v.Reaches path) :
    w.Reaches path := by
  have steps : ∀ (steps : List String) (place target : Place),
      steps.foldlM v.follow place = .ok target → steps.foldlM w.follow place = .ok target := by
    intro steps
    induction steps with
    | nil => exact fun _ _ h => h
    | cons step steps ih =>
      intro place target hs
      rw [List.foldlM_cons] at hs ⊢
      obtain ⟨next, hf, hs⟩ := Except.bind_eq_ok_iff.mp hs
      exact Except.bind_eq_ok_iff.mpr ⟨next, h.follow hf, ih _ _ hs⟩
  unfold Reaches Workspace.place followAll at hr ⊢
  split at hr
  · cases hr
  next he =>
    rw [if_neg he]
    split at hr
    · cases hr
    next hb =>
      rw [if_neg hb]
      exact steps _ _ _ hr

theorem read_eq_ok_iff :
    w.read path = .ok bytes ↔
      w.Reaches path ∧ w.node? (Place.named path) = some (.file bytes) := by
  unfold read find
  constructor
  · intro h
    obtain ⟨node, hn, h⟩ := Except.bind_eq_ok_iff.mp h
    obtain ⟨place, hp, hn⟩ := Except.bind_eq_ok_iff.mp hn
    obtain ⟨hr, rfl⟩ := place_eq_ok_iff.mp hp
    split at hn
    next node hw =>
      cases hn
      split at h
      · cases h
        exact ⟨hr, hw⟩
      · cases h
    · cases hn
  · rintro ⟨hr, hn⟩
    rw [show w.place path = .ok (Place.named path) from hr]
    simp only [bind, Except.bind, hn]
    rfl

theorem write_eq_ok_iff :
    v.write path bytes = .ok w ↔ v.Reaches path ∧ v.node? (Place.named path) ≠ some .directory ∧
      w = v.insert (Place.named path) (.file bytes) := by
  unfold write
  constructor
  · intro h
    obtain ⟨place, hp, h⟩ := Except.bind_eq_ok_iff.mp h
    obtain ⟨hr, rfl⟩ := place_eq_ok_iff.mp hp
    split at h
    · cases h
    next hd =>
      cases h
      exact ⟨hr, hd, rfl⟩
  · rintro ⟨hr, hn, rfl⟩
    rw [show v.place path = .ok (Place.named path) from hr]
    simp only [bind, Except.bind]
    rfl

theorem remove_eq_ok_iff :
    v.remove path = .ok w ↔ v.Reaches path ∧
      (∃ bytes, v.node? (Place.named path) = some (.file bytes)) ∧
      w = v.erase (Place.named path) := by
  unfold remove
  constructor
  · intro h
    obtain ⟨place, hp, h⟩ := Except.bind_eq_ok_iff.mp h
    obtain ⟨hr, rfl⟩ := place_eq_ok_iff.mp hp
    split at h
    next bytes hf =>
      cases h
      exact ⟨hr, ⟨bytes, hf⟩, rfl⟩
    · cases h
    · cases h
  · rintro ⟨hr, ⟨bytes, hf⟩, rfl⟩
    rw [show v.place path = .ok (Place.named path) from hr]
    simp only [bind, Except.bind, hf]
    rfl

theorem remove_of_none (hr : w.Reaches path) (hn : w.node? (Place.named path) = none) :
    w.remove path = .error .missing := by
  unfold remove
  rw [show w.place path = .ok (Place.named path) from hr]
  simp only [bind, Except.bind, hn]
  rfl

theorem removeTree_of_none (hr : w.Reaches path) (hn : w.node? (Place.named path) = none) :
    w.removeTree path = .error .missing := by
  unfold removeTree
  rw [show w.place path = .ok (Place.named path) from hr]
  simp only [bind, Except.bind, hn]
  rfl

end Workspace

end MethodTrace
