import MethodTrace.Proofs.Places

/-!
What operations on files change and what they leave alone.
-/

namespace MethodTrace

namespace Workspace

variable {u v w : Workspace} {places others : Set Place} {place : Place} {path : String}
  {bytes : Bytes}

/-- Workspaces that differ in files at some places, where the second may have more directories. -/
structure Changes (places : Set Place) (v w : Workspace) : Prop where
  directories : KeepsDirectories v w
  files : ∀ place ∉ places, ∀ bytes,
    w.node? place = some (.file bytes) ↔ v.node? place = some (.file bytes)

namespace Changes

theorem refl (places : Set Place) (w : Workspace) : Changes places w w :=
  ⟨fun _ h => h, fun _ _ _ => Iff.rfl⟩

theorem trans (h : Changes places u v) (h' : Changes places v w) : Changes places u w :=
  ⟨fun place hd => h'.directories place (h.directories place hd),
    fun place hp bytes => (h'.files place hp bytes).trans (h.files place hp bytes)⟩

theorem mono (h : Changes places v w) (hs : places ⊆ others) : Changes others v w :=
  ⟨h.directories, fun place hp => h.files place fun hm => hp (hs hm)⟩

theorem read (h : Changes places v w) (hp : Place.named path ∉ places)
    (hr : v.read path = .ok bytes) : w.read path = .ok bytes := by
  obtain ⟨hr, hn⟩ := read_eq_ok_iff.mp hr
  exact read_eq_ok_iff.mpr ⟨h.directories.reaches hr, (h.files _ hp bytes).mpr hn⟩

end Changes

theorem changes_insert_file (h : v.node? place ≠ some .directory) (bytes : Bytes) :
    Changes {place} v (v.insert place (.file bytes)) := by
  have top := isTop_eq_false h
  constructor
  · intro other hd
    have hne : other ≠ place := fun he => h (he ▸ hd)
    rw [node?_insert top, if_neg hne, hd]
  · intro other hne content
    rw [node?_insert top, if_neg (by simpa using hne)]

theorem changes_insert_directory (h : v.node? place = none) :
    Changes ∅ v (v.insert place .directory) := by
  have top := isTop_eq_false (by simp [h] : v.node? place ≠ some .directory)
  constructor
  · intro other hd
    rw [node?_insert top]
    split
    · rfl
    · exact hd
  · intro other _ content
    rw [node?_insert top]
    split
    next he => simp [he, h]
    next => rfl

theorem changes_erase_file (h : v.node? place = some (.file bytes)) :
    Changes {place} v (v.erase place) := by
  have top := isTop_of_file h
  constructor
  · intro other hd
    have hne : other ≠ place := by
      rintro rfl
      simp [h] at hd
    rw [node?_erase top, if_neg hne, hd]
  · intro other hne content
    rw [node?_erase top, if_neg (by simpa using hne)]

theorem changes_write (h : v.write path bytes = .ok w) :
    Changes {Place.named path} v w ∧ w.read path = .ok bytes := by
  obtain ⟨hr, hn, rfl⟩ := write_eq_ok_iff.mp h
  have change := changes_insert_file hn bytes
  refine ⟨change, read_eq_ok_iff.mpr ⟨change.directories.reaches hr, ?_⟩⟩
  rw [node?_insert (isTop_eq_false hn), if_pos rfl]

theorem changes_remove (h : v.remove path = .ok w) :
    Changes {Place.named path} v w ∧ w.node? (Place.named path) = none := by
  obtain ⟨_, ⟨bytes, hn⟩, rfl⟩ := remove_eq_ok_iff.mp h
  refine ⟨changes_erase_file hn, ?_⟩
  rw [node?_erase (isTop_of_file hn), if_pos rfl]

/-- A file that is renamed has its bytes under the new path and is gone from the old one. -/
theorem changes_rename {source target : String} (h : v.rename source target = .ok w) :
    ∃ bytes, v.read source = .ok bytes ∧ w.read target = .ok bytes ∧
      (Place.named source ≠ Place.named target → w.node? (Place.named source) = none) ∧
      Changes {Place.named source, Place.named target} v w := by
  unfold rename at h
  obtain ⟨bytes, hb, h⟩ := Except.bind_eq_ok_iff.mp h
  obtain ⟨cleared, hc, h⟩ := Except.bind_eq_ok_iff.mp h
  obtain ⟨removal, hgone⟩ := changes_remove hc
  obtain ⟨writing, hr⟩ := changes_write h
  refine ⟨bytes, hb, hr, ?_, (removal.mono (by simp)).trans (writing.mono (by simp))⟩
  intro hne
  obtain ⟨_, hn, rfl⟩ := write_eq_ok_iff.mp h
  rw [node?_insert (isTop_eq_false hn), if_neg hne, hgone]

theorem changes_makeDirectory (h : v.makeDirectory path = .ok w) : Changes ∅ v w := by
  unfold makeDirectory at h
  obtain ⟨place, _, h⟩ := Except.bind_eq_ok_iff.mp h
  split at h
  · cases h
    exact .refl _ _
  · cases h
  next hn =>
    cases h
    exact changes_insert_directory hn

/-- Workspaces of which the second arises from the first by removal. -/
def Shrinks (v w : Workspace) : Prop :=
  ∀ place node, w.node? place = some node → v.node? place = some node

theorem Shrinks.read (h : Shrinks v w) (hr : w.read path = .ok bytes) :
    v.read path = .ok bytes := by
  obtain ⟨hr, hn⟩ := read_eq_ok_iff.mp hr
  have hd : KeepsDirectories w v := fun place => h place .directory
  exact read_eq_ok_iff.mpr ⟨hd.reaches hr, h _ _ hn⟩

/-- Workspaces of which the second arises from the first by removal at some places. -/
structure Clears (places : Set Place) (v w : Workspace) : Prop where
  shrinks : Shrinks v w
  others : ∀ place ∉ places, w.nodes[place]? = v.nodes[place]?

namespace Clears

theorem refl (places : Set Place) (w : Workspace) : Clears places w w :=
  ⟨fun _ _ h => h, fun _ _ => rfl⟩

theorem trans (h : Clears places u v) (h' : Clears places v w) : Clears places u w :=
  ⟨fun place node hn => h.shrinks place node (h'.shrinks place node hn),
    fun place hp => (h'.others place hp).trans (h.others place hp)⟩

theorem mono (h : Clears places v w) (hs : places ⊆ others) : Clears others v w :=
  ⟨h.shrinks, fun place hp => h.others place fun hm => hp (hs hm)⟩

theorem node? (h : Clears places v w) (hp : place ∉ places) : w.node? place = v.node? place := by
  unfold Workspace.node?
  rw [h.others place hp]

end Clears

theorem clears_remove (h : v.remove path = .ok w) : Clears {Place.named path} v w := by
  obtain ⟨_, ⟨bytes, hn⟩, rfl⟩ := remove_eq_ok_iff.mp h
  constructor
  · intro place node hw
    rw [node?_erase (isTop_of_file hn)] at hw
    split at hw
    · cases hw
    · exact hw
  · intro place hp
    rw [erase, Std.ExtTreeMap.getElem?_erase]
    split
    next he => exact absurd (Std.LawfulEqCmp.compare_eq_iff_eq.mp he).symm (by simpa using hp)
    next => rfl

theorem clears_removeTree (h : v.removeTree path = .ok w) :
    Clears {place | Place.named path <+: place} v w := by
  unfold removeTree at h
  obtain ⟨place, hp, h⟩ := Except.bind_eq_ok_iff.mp h
  obtain ⟨_, rfl⟩ := place_eq_ok_iff.mp hp
  split at h
  next =>
    cases h
    constructor
    · intro other node hw
      unfold Workspace.node? at hw ⊢
      split
      next ht => rwa [if_pos ht] at hw
      next ht =>
        rw [if_neg ht, Std.ExtTreeMap.getElem?_filter'] at hw
        exact (Option.filter_eq_some_iff.mp hw).1
    · intro other ho
      have apart : (Place.named path).namesFrom? other = none := by
        unfold Place.namesFrom?
        rw [if_neg fun hp => ho (List.isPrefixOf_iff_prefix.mp hp)]
      rw [Std.ExtTreeMap.getElem?_filter']
      cases v.nodes[other]? with
      | none => rfl
      | some node => simp [apart]
  · cases h
  · cases h

end Workspace

namespace Action

open Workspace

variable {ε α : Type} {v w : Workspace} {error : ε} {path : String}
  {operation : Workspace → Except FileFault Workspace}

@[simp]
theorem look_iff {question : Workspace → Except ε α} {a : α} :
    Runs (look question) v a w ↔ question v = .ok a ∧ w = v := by
  unfold look
  rw [Runs.get_bind_iff]
  exact Runs.liftM_iff

theorem look_bind_iff {β : Type} {question : Workspace → Except ε α} {next : α → Action ε β}
    {b : β} : Runs (look question >>= next) v b w ↔
      ∃ a, question v = .ok a ∧ Runs (next a) v b w := by
  rw [Runs.bind_iff]
  constructor
  · rintro ⟨a, s, hq, h⟩
    obtain ⟨hok, rfl⟩ := look_iff.mp hq
    exact ⟨a, hok, h⟩
  · rintro ⟨a, hok, h⟩
    exact ⟨a, v, look_iff.mpr ⟨hok, rfl⟩, h⟩

@[simp]
theorem change_iff {u : Unit} : Runs (change error operation) v u w ↔ operation v = .ok w := by
  unfold change
  rw [Runs.get_bind_iff]
  split
  next h =>
    rw [Runs.set_iff, h]
    constructor
    · rintro rfl
      rfl
    · intro h
      cases h
      rfl
  next h => simp [h]

@[simp]
theorem clear_iff {u : Unit} :
    Runs (clear error operation) v u w ↔
      operation v = .ok w ∨ operation v = .error .missing ∧ w = v := by
  unfold clear
  rw [Runs.get_bind_iff]
  split
  next h =>
    rw [Runs.set_iff, h]
    constructor
    · rintro rfl
      exact .inl rfl
    · rintro (h | ⟨h, _⟩)
      · cases h
        rfl
      · cases h
  next h =>
    rw [Runs.pure_iff, h]
    simp
  next fault hm h =>
    rw [h]
    constructor
    · intro h
      exact absurd h (by simp)
    · rintro (h | ⟨h, _⟩)
      · cases h
      · cases h
        exact absurd rfl hm

theorem changes_createDirectories {u : Unit}
    (h : Runs (createDirectories error path) v u w) : Changes ∅ v w := by
  have each : ∀ (directories : List String) (v w : Workspace) (u : Unit),
      Runs (directories.forM fun directory => change error (·.makeDirectory directory)) v u w →
        Changes ∅ v w := by
    intro directories
    induction directories with
    | nil =>
      intro v w u h
      obtain ⟨_, rfl⟩ := Runs.pure_iff.mp h
      exact .refl _ _
    | cons directory directories ih =>
      intro v w u h
      obtain ⟨_, s, hm, h⟩ := Runs.bind_iff.mp h
      exact (changes_makeDirectory (change_iff.mp hm)).trans (ih _ _ _ h)
  unfold createDirectories at h
  dsimp only at h
  split at h
  · obtain ⟨_, _, h, _⟩ := Runs.bind_iff.mp h
    exact absurd h (by simp)
  · exact each _ _ _ _ h

end Action

end MethodTrace
