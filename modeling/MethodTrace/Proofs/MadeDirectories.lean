import MethodTrace.Proofs.TouchedPlaces

/-!
The directories that lead to a path: when a path can be followed, and what is there after they have
been made.
-/

namespace MethodTrace

namespace Path

variable {path up : String}

/-- A path that is not too long and has no names that are too long. -/
structure Admissible (path : String) : Prop where
  whole : Workspace.isBadPath path = false
  names : ∀ step ∈ steps path, step.utf8ByteSize ≤ Workspace.maxName

/-- Blank steps are short. -/
theorem size_le_iff {segments : List String} :
    (∀ step ∈ segments, step.utf8ByteSize ≤ Workspace.maxName) ↔
      ∀ step ∈ segments.filter (!isBlank ·), step.utf8ByteSize ≤ Workspace.maxName := by
  constructor
  · exact fun h step hm => h step (List.mem_of_mem_filter hm)
  · intro h step hm
    cases hb : isBlank step with
    | true =>
      rcases isBlank_iff.mp hb with rfl | rfl
      · decide
      · decide
    | false => exact h step (List.mem_filter.mpr ⟨hm, by simp [hb]⟩)

theorem isBadPath_of_front (hp : up.toList <+: path.toList)
    (h : Workspace.isBadPath path = false) : Workspace.isBadPath up = false := by
  obtain ⟨rest, hr⟩ := hp
  have whole : path = up ++ String.ofList rest := by
    apply String.toList_injective
    simp [← hr]
  subst whole
  simp only [Workspace.isBadPath, Bool.or_eq_false_iff, decide_eq_false_iff_not,
    String.utf8ByteSize_append] at h ⊢
  obtain ⟨clean, short⟩ := h
  refine ⟨?_, by omega⟩
  simp at clean ⊢
  exact clean.1

theorem Admissible.of_parent? (h : Admissible path) (hp : parent? path = some up) :
    Admissible up := by
  obtain ⟨hs, _, hl, _⟩ := parent?_eq_some hp
  refine ⟨isBadPath_of_front hl h.whole, fun step hm => h.names step ?_⟩
  rw [hs] at hm
  exact (List.dropLast_sublist _).subset hm

end Path

namespace Place

variable {path up : String} {place : Place}

/-- The places to which a path leads step by step. -/
def chain (path : String) : List Place :=
  (Path.steps path).scanl after (origin path)

/-- The places that a path leads through before its last step. -/
def way (path : String) : List Place :=
  (Path.steps path).dropLast.scanl after (origin path)

theorem filter_steps (path : String) :
    (Path.steps path).filter (!Path.isBlank ·) = Path.steps path := by
  simp [Path.steps]

theorem mem_chain_iff : place ∈ chain path ↔ place ∈ trail path := by
  rw [chain, mem_scanl_after_iff, filter_steps, mem_trail_iff]

theorem mem_way_iff : place ∈ way path ↔
    ∃ front, front <+: (Path.steps path).dropLast ∧ place = front.foldl after (origin path) := by
  have named : (Path.steps path).dropLast.filter (!Path.isBlank ·) = (Path.steps path).dropLast := by
    refine List.filter_eq_self.mpr fun step hm => ?_
    simp [Path.isBlank_of_mem_steps (List.mem_of_mem_dropLast hm)]
  rw [way, mem_scanl_after_iff, named]

/-- The segments of a path before its last one lead through its way. -/
theorem mem_way_of_segments {front rest : List String} {step : String}
    (trimmed : Path.Trimmed path) (h : Path.segments path.toList = front ++ step :: rest) :
    front.foldl after (origin path) ∈ way path := by
  refine mem_way_iff.mpr ⟨front.filter (!Path.isBlank ·), ?_, (foldl_after_filter _ _).symm⟩
  rcases trimmed with blank | ⟨before, last, hs, hl⟩
  · have all : front.filter (!Path.isBlank ·) <+: Path.steps path := by
      rw [Path.steps, h, List.filter_append]
      exact List.prefix_append _ _
    rw [blank, List.prefix_nil] at all
    rw [all]
    exact List.nil_prefix
  · have ends : [last].filter (!Path.isBlank ·) = [last] := by simp [hl]
    have shorter : front <+: before := by
      have whole : front ++ step :: rest = before ++ [last] := h.symm.trans hs
      have start : front <+: before ++ [last] := ⟨_, whole⟩
      rcases List.prefix_concat_iff.mp start with he | hp
      · rw [he] at whole
        simp at whole
      · exact hp
    rw [Path.steps, hs, List.filter_append, ends, List.dropLast_concat]
    exact shorter.filter _

theorem way_of_parent? (h : Path.parent? path = some up) : way path = chain up := by
  rw [way, chain, (Path.parent?_eq_some h).1, origin_of_parent? h]

theorem chain_eq (h : Path.steps path ≠ []) : chain path = way path ++ [named path] := by
  obtain ⟨front, last, hs⟩ := (List.eq_nil_or_concat' (Path.steps path)).resolve_left h
  rw [chain, way, named_eq, hs, List.scanl_append, List.dropLast_concat, List.foldl_append]
  simp

theorem named_of_steps_eq_nil (h : Path.steps path = []) : named path = origin path := by
  rw [named_eq, h]
  rfl

theorem mem_chain_iff_way : place ∈ chain path ↔ place ∈ way path ∨ place = named path := by
  by_cases h : Path.steps path = []
  · rw [chain, way, named_of_steps_eq_nil h, h]
    simp
  · rw [chain_eq h, List.mem_append, List.mem_singleton]

/-- A way leads through what holds the places on it. -/
theorem mem_way_of_concat {step : String} (h : place ++ [step] ∈ way path) :
    place ∈ way path ∨ place.isTop = true :=
  mem_scanl_after_of_concat (isTop_origin path) h

theorem mem_way_of_named {step : String} (h : named path = place ++ [step]) :
    place ∈ way path ∨ place.isTop = true := by
  have here : place ++ [step] ∈ chain path := h ▸ mem_chain_iff.mpr (named_mem_trail path)
  rcases mem_scanl_after_of_concat (isTop_origin path) here with hm | ht
  · refine .inl ((mem_chain_iff_way.mp hm).resolve_right fun he => ?_)
    rw [h] at he
    simp at he
  · exact .inr ht

end Place

namespace Workspace

variable {v w : Workspace} {place : Place} {path : String} {places : List Place}

theorem node?_of_isTop (h : place.isTop = true) : w.node? place = some .directory := by
  simp [node?, h]

/-- The workspace with directories at some places. -/
def opened (w : Workspace) (places : List Place) : Workspace :=
  places.foldl (fun w place =>
    if w.node? place = some .directory then w else w.insert place .directory) w

theorem node?_opened (w : Workspace) (places : List Place) (place : Place) :
    (w.opened places).node? place
      = if place ∈ places then some .directory else w.node? place := by
  induction places generalizing w with
  | nil => rfl
  | cons first places ih =>
    rw [opened, List.foldl_cons, ← opened, ih]
    by_cases hm : place ∈ places
    · simp [hm]
    · rw [if_neg hm]
      split
      next hd =>
        by_cases he : place = first
        · simp [he, hd]
        · simp [he, hm]
      next hd =>
        rw [node?_insert (isTop_eq_false hd)]
        simp [hm]

theorem opened_append (w : Workspace) (places others : List Place) :
    w.opened (places ++ others) = (w.opened places).opened others :=
  List.foldl_append

theorem opened_of_directory (h : w.node? place = some .directory) : w.opened [place] = w :=
  if_pos h

theorem opened_chain (w : Workspace) (path : String) :
    w.opened (Place.chain path) = (w.opened (Place.way path)).opened [Place.named path] := by
  by_cases h : Path.steps path = []
  · have top : (Place.named path).isTop = true := by
      rw [Place.named_of_steps_eq_nil h]
      exact Place.isTop_origin path
    rw [opened_of_directory (node?_of_isTop top), Place.chain, Place.way, h]
    rfl
  · rw [Place.chain_eq h, opened_append]

/-- Blank steps do not count where the last step is none of them. -/
theorem foldlM_follow_steps_iff {segments : List String} {start target : Place}
    (top : start.isTop = true) (ended : segments.filter (!Path.isBlank ·) = [] ∨
      ∃ front last, segments = front ++ [last] ∧ Path.isBlank last = false) :
    segments.foldlM w.follow start = .ok target ↔ target = segments.foldl Place.after start ∧
      (∀ step ∈ segments.filter (!Path.isBlank ·), step.utf8ByteSize ≤ maxName) ∧
      ∀ place ∈ (segments.filter (!Path.isBlank ·)).dropLast.scanl Place.after start,
        w.node? place = some .directory := by
  rw [foldlM_follow_eq_ok_iff]
  refine and_congr_right fun _ => and_congr Path.size_le_iff ?_
  have prefixes (steps : List String) (place : Place) :
      place ∈ (steps.filter (!Path.isBlank ·)).scanl Place.after start ↔
        place ∈ steps.scanl Place.after start := by
    rw [Place.mem_scanl_after_iff, Place.mem_scanl_after_iff, List.filter_filter]
    simp
  rcases ended with blank | ⟨front, last, rfl, hl⟩
  · have only (place : Place) (hm : place ∈ segments.scanl Place.after start) : place = start := by
      rw [← prefixes, blank] at hm
      simpa using hm
    rw [blank]
    constructor
    · intro _ place hm
      rw [List.mem_singleton.mp hm]
      exact node?_of_isTop top
    · intro _ place hm
      rw [only place (List.mem_of_mem_dropLast hm)]
      exact node?_of_isTop top
  · have ends : ([last].filter (!Path.isBlank ·)) = [last] := by simp [hl]
    refine forall_congr' fun place => imp_congr_left ?_
    rw [List.filter_append, ends, List.dropLast_concat, prefixes, List.scanl_append]
    simp

/-- Segments that spell a path lead to the place that it names, through directories. -/
theorem followAll_eq_ok_iff {segments : List String} {target : Place}
    (spells : segments.filter (!Path.isBlank ·) = Path.steps path)
    (ended : Path.steps path = [] ∨
      ∃ front last, segments = front ++ [last] ∧ Path.isBlank last = false) :
    w.followAll path segments = .ok target ↔ target = Place.named path ∧ Path.Admissible path ∧
      ∀ place ∈ Place.way path, w.node? place = some .directory := by
  have folded : segments.foldl Place.after (Place.origin path) = Place.named path := by
    rw [← Place.foldl_after_filter, spells, Place.named_eq]
  unfold followAll
  split
  next hb =>
    refine iff_of_false (by simp) ?_
    rintro ⟨_, admissible, _⟩
    rw [admissible.whole] at hb
    cases hb
  next hb =>
    have whole : isBadPath path = false := by simpa using hb
    refine (foldlM_follow_steps_iff (Place.isTop_origin path) (spells ▸ ended)).trans ?_
    rw [folded, spells]
    exact ⟨fun ⟨named, names, way⟩ => ⟨named, ⟨whole, names⟩, way⟩,
      fun ⟨named, admissible, way⟩ => ⟨named, admissible.names, way⟩⟩

/-- A path can be followed if its steps lead through directories. -/
theorem reaches_iff_way (trimmed : Path.Trimmed path) : w.Reaches path ↔
    path ≠ "" ∧ Path.Admissible path ∧ ∀ place ∈ Place.way path, w.node? place = some .directory := by
  unfold Reaches Workspace.place
  split
  next he => simp [he]
  next he =>
    rw [followAll_eq_ok_iff rfl trimmed]
    exact ⟨fun ⟨_, rest⟩ => ⟨he, rest⟩, fun ⟨_, rest⟩ => ⟨rfl, rest⟩⟩

/-- The separators at the end of a path do not count where a directory is made. -/
theorem followAll_rdropWhile_eq_ok_iff {target : Place} (trimmed : Path.Trimmed path) :
    w.followAll path ((Path.segments path.toList).rdropWhile (· == "")) = .ok target ↔
      target = Place.named path ∧ Path.Admissible path ∧
        ∀ place ∈ Place.way path, w.node? place = some .directory := by
  refine followAll_eq_ok_iff (Path.filter_rdropWhile (Path.segments path.toList)) ?_
  refine trimmed.imp_right fun ⟨front, last, hs, hl⟩ => ?_
  have ne : last ≠ "" := by
    rintro rfl
    cases hl
  exact ⟨front, last, by rw [hs, List.rdropWhile_concat_neg _ _ _ (by simpa using ne)], hl⟩

theorem makeDirectory_eq_ok_iff (trimmed : Path.Trimmed path) : v.makeDirectory path = .ok w ↔
    Path.Admissible path ∧ (∀ place ∈ Place.way path, v.node? place = some .directory) ∧
      (∀ bytes, v.node? (Place.named path) ≠ some (.file bytes)) ∧
      w = v.opened [Place.named path] := by
  unfold makeDirectory
  dsimp only
  constructor
  · intro h
    obtain ⟨place, hp, h⟩ := Except.bind_eq_ok_iff.mp h
    obtain ⟨rfl, admissible, way⟩ := (followAll_rdropWhile_eq_ok_iff trimmed).mp hp
    refine ⟨admissible, way, ?_⟩
    split at h
    next hd =>
      cases h
      exact ⟨by simp [hd], (opened_of_directory hd).symm⟩
    next => cases h
    next hn =>
      cases h
      exact ⟨by simp [hn], by simp [opened, hn]⟩
  · rintro ⟨admissible, way, file, rfl⟩
    refine Except.bind_eq_ok_iff.mpr
      ⟨_, (followAll_rdropWhile_eq_ok_iff trimmed).mpr ⟨rfl, admissible, way⟩, ?_⟩
    split
    next hd => exact congrArg Except.ok (opened_of_directory hd).symm
    next bytes hf => exact absurd hf (file bytes)
    next hn => simp [opened, hn]; rfl

/-- Behind the directories on a path, the last one can be made if no file is in its place. -/
theorem makeDirectory_opened_iff (trimmed : Path.Trimmed path) (whole : isBadPath path = false)
    (files : ∀ place ∈ Place.way path, ∀ bytes, v.node? place ≠ some (.file bytes)) :
    (v.opened (Place.way path)).makeDirectory path = .ok w ↔
      (∀ step ∈ Path.steps path, step.utf8ByteSize ≤ maxName) ∧
        (∀ bytes, v.node? (Place.named path) ≠ some (.file bytes)) ∧
        w = v.opened (Place.chain path) := by
  rw [makeDirectory_eq_ok_iff trimmed, opened_chain]
  have last (bytes : Bytes) :
      (v.opened (Place.way path)).node? (Place.named path) = some (.file bytes) ↔
        v.node? (Place.named path) = some (.file bytes) := by
    rw [node?_opened]
    split
    next hm => exact iff_of_false (by simp) (files _ hm bytes)
    next => rfl
  simp only [ne_eq, last]
  constructor
  · rintro ⟨admissible, _, free, rfl⟩
    exact ⟨admissible.names, free, rfl⟩
  · rintro ⟨names, free, rfl⟩
    exact ⟨⟨whole, names⟩, fun place hm => by rw [node?_opened, if_pos hm], free, rfl⟩

end Workspace

namespace Action

open Workspace

variable {ε : Type} {error : ε} {path : String} {v w : Workspace}

theorem runs_forM_concat_iff {α : Type} {f : α → Action ε PUnit} {xs : List α} {x : α}
    {u : PUnit} : Runs ((xs ++ [x]).forM f) v u w ↔
      ∃ s, Runs (xs.forM f) v ⟨⟩ s ∧ Runs (f x) s ⟨⟩ w := by
  have single : [x].forM f = f x >>= fun _ => pure ⟨⟩ := rfl
  have split : (xs ++ [x]).forM f = xs.forM f >>= fun _ => [x].forM f := List.forM_append
  rw [split, Runs.bind_iff]
  constructor
  · rintro ⟨_, s, hs, h⟩
    rw [single] at h
    obtain ⟨_, t, hx, h⟩ := Runs.bind_iff.mp h
    obtain ⟨_, rfl⟩ := Runs.pure_iff.mp h
    exact ⟨s, hs, hx⟩
  · rintro ⟨s, hs, hx⟩
    refine ⟨⟨⟩, s, hs, ?_⟩
    rw [single]
    exact Runs.bind_iff.mpr ⟨⟨⟩, w, hx, Runs.pure_iff.mpr ⟨rfl, rfl⟩⟩

/-- The directories on a path are made one after the other, each in the one before it. -/
theorem runs_makeDirectories_iff {u : Unit} (trimmed : Path.Trimmed path)
    (whole : isBadPath path = false) :
    Runs ((Path.ancestors path).forM fun directory => change error (·.makeDirectory directory))
      v u w ↔ (∀ step ∈ Path.steps path, step.utf8ByteSize ≤ maxName) ∧
        (∀ place ∈ Place.chain path, ∀ bytes, v.node? place ≠ some (.file bytes)) ∧
        w = v.opened (Place.chain path) := by
  induction hn : path.length using Nat.strong_induction_on generalizing path w u with
  | _ length ih =>
    by_cases he : path = ""
    · have none : Path.ancestors "" = [] := by decide
      have steps : Path.steps "" = [] := by decide
      have chain : Place.chain "" = [[]] := by decide
      have top : v.node? [] = some .directory := rfl
      subst he
      rw [none, steps, chain, opened_of_directory top]
      simp [top, Runs.pure_iff]
    have parents (s : Workspace) : Runs (((Path.parent? path).map Path.ancestors).getD [] |>.forM
        fun directory => change error (·.makeDirectory directory)) v () s ↔
          (∀ step ∈ (Path.steps path).dropLast, step.utf8ByteSize ≤ maxName) ∧
          (∀ place ∈ Place.way path, ∀ bytes, v.node? place ≠ some (.file bytes)) ∧
          s = v.opened (Place.way path) := by
      cases hp : Path.parent? path with
      | none =>
        have steps := Path.parent?_eq_none hp
        have way : Place.way path = [Place.origin path] := by
          rw [Place.way, steps]
          rfl
        have top : v.node? (Place.origin path) = some .directory :=
          node?_of_isTop (Place.isTop_origin path)
        rw [way, steps, opened_of_directory top]
        simp [top, Runs.pure_iff]
      | some up =>
        obtain ⟨steps, _, start, _, above⟩ := Path.parent?_eq_some hp
        rw [Place.way_of_parent? hp, ← steps]
        exact ih up.length (hn ▸ Path.length_lt_of_parent? hp) above
          (Path.isBadPath_of_front start whole) rfl
    rw [Path.ancestors_eq he, runs_forM_concat_iff]
    constructor
    · rintro ⟨s, hs, h⟩
      obtain ⟨_, files, rfl⟩ := (parents s).mp hs
      obtain ⟨names, free, rfl⟩ := (makeDirectory_opened_iff trimmed whole files).mp (change_iff.mp h)
      refine ⟨names, fun place hm => ?_, rfl⟩
      rcases Place.mem_chain_iff_way.mp hm with hm | rfl
      · exact files place hm
      · exact free
    · rintro ⟨names, files, rfl⟩
      have below (place : Place) (hm : place ∈ Place.way path) :=
        files place (Place.mem_chain_iff_way.mpr (.inl hm))
      refine ⟨_, (parents _).mpr
        ⟨fun step hm => names step (List.mem_of_mem_dropLast hm), below, rfl⟩, ?_⟩
      exact change_iff.mpr ((makeDirectory_opened_iff trimmed whole below).mpr
        ⟨names, files _ (Place.mem_chain_iff_way.mpr (.inr rfl)), rfl⟩)

/-- Directories are made if no file is in their way. -/
theorem runs_createDirectories_iff {u : Unit} (trimmed : Path.Trimmed path) :
    Runs (createDirectories error path) v u w ↔ Path.Admissible path ∧
      (∀ place ∈ Place.chain path, ∀ bytes, v.node? place ≠ some (.file bytes)) ∧
      w = v.opened (Place.chain path) := by
  unfold createDirectories
  dsimp only
  split
  next hb =>
    constructor
    · intro h
      obtain ⟨_, _, h, _⟩ := Runs.bind_iff.mp h
      exact absurd h (by simp)
    · rintro ⟨admissible, _⟩
      rw [admissible.whole] at hb
      cases hb
  next hb =>
    have whole : isBadPath path = false := by simpa using hb
    refine (runs_makeDirectories_iff trimmed whole).trans ?_
    exact ⟨fun ⟨names, rest⟩ => ⟨⟨whole, names⟩, rest⟩,
      fun ⟨admissible, rest⟩ => ⟨admissible.names, rest⟩⟩

end Action

end MethodTrace
