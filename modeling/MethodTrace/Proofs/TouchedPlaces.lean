import MethodTrace.Proofs.Effects
import MethodTrace.Proofs.PathSteps

/-!
The places that operations on files change, and the directories that they make on the way.
-/

namespace MethodTrace

namespace Workspace

variable {w : Workspace} {place target : Place} {path step : String}

theorem follow_eq_ok_iff : w.follow place step = .ok target ↔
    w.node? place = some .directory ∧ step.utf8ByteSize ≤ maxName ∧ target = place.after step := by
  constructor
  · intro h
    obtain ⟨hd, ht⟩ := follow_eq_ok h
    refine ⟨hd, ?_, ht⟩
    unfold follow at h
    rw [hd] at h
    dsimp only at h
    split at h
    next hb =>
      rcases Path.isBlank_iff.mp hb with rfl | rfl
      · decide
      · decide
    next =>
      split at h
      next hup =>
        subst hup
        decide
      next =>
        split at h
        · cases h
        next hs => exact Nat.not_lt.mp hs
  · rintro ⟨hd, hs, rfl⟩
    unfold follow Place.after
    rw [hd]
    simp only [Nat.not_lt.mpr hs, if_false]
    split
    · rfl
    · split
      · rfl
      · rfl

theorem foldlM_follow_eq_ok_iff {steps : List String} :
    steps.foldlM w.follow place = .ok target ↔
      target = steps.foldl Place.after place ∧ (∀ step ∈ steps, step.utf8ByteSize ≤ maxName) ∧
        ∀ other ∈ (steps.scanl Place.after place).dropLast, w.node? other = some .directory := by
  induction steps generalizing place with
  | nil =>
    constructor
    · intro h
      cases h
      exact ⟨rfl, by simp, by simp⟩
    · rintro ⟨rfl, _⟩
      rfl
  | cons step steps ih =>
    rw [List.foldlM_cons, Except.bind_eq_ok_iff, List.scanl_cons,
      List.dropLast_cons_of_ne_nil List.scanl_ne_nil]
    constructor
    · rintro ⟨next, hf, h⟩
      obtain ⟨hd, hs, rfl⟩ := follow_eq_ok_iff.mp hf
      obtain ⟨rfl, sizes, directories⟩ := ih.mp h
      exact ⟨rfl, by simpa [hs] using sizes, by simpa [hd] using directories⟩
    · rintro ⟨rfl, sizes, directories⟩
      simp only [List.mem_cons, forall_eq_or_imp] at sizes directories
      exact ⟨_, follow_eq_ok_iff.mpr ⟨directories.1, sizes.1, rfl⟩,
        ih.mpr ⟨rfl, sizes.2, directories.2⟩⟩

/-- A path can be followed if it is one and leads through directories. -/
theorem reaches_iff : w.Reaches path ↔ path ≠ "" ∧ isBadPath path = false ∧
    (∀ segment ∈ Path.segments path.toList, segment.utf8ByteSize ≤ maxName) ∧
      ∀ place ∈ (Place.trail path).dropLast, w.node? place = some .directory := by
  unfold Reaches Workspace.place followAll
  split
  next he => simp [he]
  next he =>
    split
    next hb => simp [hb]
    next hb =>
      rw [foldlM_follow_eq_ok_iff]
      simp only [Place.named, Place.trail, he, hb, true_and, ne_eq, not_false_eq_true]

end Workspace

namespace Workspace

variable {u v w : Workspace} {changed opened : Set Place} {place : Place} {path : String}

/-- Workspaces that differ at some places, where the second may have more directories at others. -/
def Touches (changed opened : Set Place) (v w : Workspace) : Prop :=
  ∀ place ∉ changed, w.node? place = v.node? place ∨
    place ∈ opened ∧ v.node? place = none ∧ w.node? place = some .directory

namespace Touches

instance (changed opened : Set Place) : Std.Refl (Touches changed opened) where
  refl _ _ _ := .inl rfl

instance (changed opened : Set Place) : IsTrans Workspace (Touches changed opened) where
  trans u v w h h' place hp := by
    rcases h' place hp with he | ⟨ho, hn, hd⟩
    · rw [he]
      exact h place hp
    · rcases h place hp with he | ⟨_, _, hd'⟩
      · exact .inr ⟨ho, he ▸ hn, hd⟩
      · rw [hd'] at hn
        cases hn

theorem mono {changed' opened' : Set Place} (h : Touches changed opened v w)
    (hc : changed ⊆ changed') (ho : opened ⊆ changed' ∪ opened') :
    Touches changed' opened' v w := by
  intro place hp
  refine (h place fun hm => hp (hc hm)).imp_right fun ⟨hm, hn⟩ => ⟨?_, hn⟩
  exact (ho hm).resolve_left hp

end Touches

theorem touches_makeDirectory (h : v.makeDirectory path = .ok w) :
    Touches ∅ {Place.named path} v w := by
  unfold makeDirectory at h
  obtain ⟨place, hp, h⟩ := Except.bind_eq_ok_iff.mp h
  have named : place = Place.named path := by
    unfold followAll at hp
    split at hp
    · cases hp
    · have trimmed := Path.filter_rdropWhile (Path.segments path.toList)
      change _ = Path.steps path at trimmed
      rw [foldlM_follow_eq_ok hp, Place.named_eq, ← trimmed]
      exact (Place.foldl_after_filter _ _).symm
  subst named
  split at h
  · cases h
    exact Std.Refl.refl _
  · cases h
  next hn =>
    cases h
    intro other _
    have top := isTop_eq_false (by simp [hn] : v.node? (Place.named path) ≠ some .directory)
    rw [node?_insert top]
    split
    next he => exact .inr ⟨he, he ▸ hn, rfl⟩
    next => exact .inl rfl

theorem touches_write {bytes : Bytes} (h : v.write path bytes = .ok w) :
    Touches {Place.named path} ∅ v w := by
  obtain ⟨_, hn, rfl⟩ := write_eq_ok_iff.mp h
  intro place hp
  rw [node?_insert (isTop_eq_false hn), if_neg (by simpa using hp)]
  exact .inl rfl

theorem touches_remove (h : v.remove path = .ok w) : Touches {Place.named path} ∅ v w := by
  obtain ⟨_, ⟨bytes, hf⟩, rfl⟩ := remove_eq_ok_iff.mp h
  intro place hp
  rw [node?_erase (isTop_of_file hf), if_neg (by simpa using hp)]
  exact .inl rfl

theorem touches_rename {source target : String} (h : v.rename source target = .ok w) :
    Touches {Place.named source, Place.named target} ∅ v w := by
  unfold rename at h
  obtain ⟨bytes, _, h⟩ := Except.bind_eq_ok_iff.mp h
  obtain ⟨cleared, hc, h⟩ := Except.bind_eq_ok_iff.mp h
  exact IsTrans.trans _ _ _ ((touches_remove hc).mono (by simp) (by simp))
    ((touches_write h).mono (by simp) (by simp))

theorem Clears.touches (h : Clears changed v w) : Touches changed ∅ v w :=
  fun _ hp => .inl (h.node? hp)

namespace Touches

/-- Files stay where nothing is changed. -/
theorem file (h : Touches changed opened v w) (hp : place ∉ changed) (bytes : Bytes) :
    w.node? place = some (.file bytes) ↔ v.node? place = some (.file bytes) := by
  rcases h place hp with he | ⟨_, hn, hd⟩
  · rw [he]
  · simp [hn, hd]

theorem fileAt?_eq (h : Touches changed opened v w) (hp : Place.named path ∉ changed) :
    w.fileAt? path = v.fileAt? path := by
  apply Option.ext
  intro bytes
  rw [fileAt?_eq_some_iff, fileAt?_eq_some_iff]
  exact h.file hp bytes

end Touches

end Workspace

theorem Action.leaves_createDirectories {ε : Type} (error : ε) (path : String) :
    Leaves (Workspace.Touches ∅ {place | place ∈ Place.trail path})
      (Action.createDirectories error path) := by
  have made : Leaves (Workspace.Touches ∅ {place | place ∈ Place.trail path})
      ((Path.ancestors path).forM fun directory => change error (·.makeDirectory directory)) := by
    refine .forM fun above ha => leaves_change fun v w h => ?_
    refine (Workspace.touches_makeDirectory h).mono (Set.Subset.refl _) ?_
    rintro place rfl
    exact .inr (Place.named_mem_trail_of_ancestors ha)
  unfold createDirectories
  split
  · exact (Leaves.throw error).bind fun _ => made
  · exact made

end MethodTrace
