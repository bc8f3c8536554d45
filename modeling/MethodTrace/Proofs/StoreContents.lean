import MethodTrace.Proofs.FailedRuns
import MethodTrace.Proofs.StoreErrands

/-!
The identities of the units that are stored, and how the steps of a run change them.

A store is tidy if every file below it is the file of a unit to which its path leads. Runs keep
their store tidy, so that whatever is stored can be removed.
-/

namespace MethodTrace

open Workspace (Changes KeepsDirectories Touches)

namespace Workspace

variable {v w : Workspace} {opened changed : Set Place}

instance (places : Set Place) : Std.Refl (Changes places) := ⟨.refl places⟩

instance (places : Set Place) : IsTrans Workspace (Changes places) := ⟨fun _ _ _ => .trans⟩

instance : Std.Refl KeepsDirectories := ⟨fun _ _ h => h⟩

instance : IsTrans Workspace KeepsDirectories :=
  ⟨fun _ _ _ h h' place hd => h' place (h place hd)⟩

theorem Touches.changes (h : Touches changed opened v w) (hd : KeepsDirectories v w) :
    Changes changed v w :=
  ⟨hd, fun _ hp => h.file hp⟩

theorem Touches.changes_of_empty (h : Touches ∅ opened v w) : Changes ∅ v w := by
  refine h.changes fun place hd => ?_
  rcases h place (Set.notMem_empty place) with he | ⟨_, hn, _⟩
  · rw [he, hd]
  · rw [hn] at hd
    cases hd

end Workspace

/-- What is on the way is made, and no directory is lost. -/
theorem Action.changes_of_createDirectories {ε : Type} (error : ε) (path : String) :
    Leaves (Changes ∅) (Action.createDirectories error path) :=
  (Action.leaves_createDirectories error path).mono fun _ _ h => h.changes_of_empty

namespace Path

variable {names : List String} {step : String}

theorem trimmed_join (base : String) (h : Identity.IsStep step) : Trimmed (join base step) := by
  obtain ⟨front, hf⟩ := segments_join_of_isStep base h
  exact .inr ⟨front, step, hf, by simp [isBlank, h.ne_empty, h.ne_dot]⟩

theorem prefix_join (base : String) (h : Identity.IsStep step) :
    base.toList <+: (join base step).toList := by
  have relative := isAbsolute_eq_false h.slash_not_mem
  simp only [join, relative, Bool.false_or]
  split
  next he =>
    rw [decide_eq_true_eq] at he
    simp [he]
  next =>
    split
    · rw [String.toList_append]
      exact List.prefix_append _ _
    · rw [String.toList_append, String.toList_append, List.append_assoc]
      exact List.prefix_append _ _

theorem prefix_foldl_join (h : ∀ name ∈ names, Identity.IsStep name) (base : String) :
    base.toList <+: (names.foldl join base).toList := by
  induction names generalizing base with
  | nil => exact List.prefix_rfl
  | cons name names ih =>
    exact (prefix_join base (h name (by simp))).trans (ih (fun other ho => h other (by simp [ho])) _)

end Path

namespace UnitStore

variable {store : UnitStore} {identity : String} {content : Bytes} {places : Set Place}
  {u v w : Workspace}

/-- The identities of the units that are stored. -/
def identities (store : UnitStore) (w : Workspace) : Set String :=
  {identity | Identity.IsNormal identity ∧ (w.fileAt? (store.unitPath identity)).isSome = true}

/-- Every file below a store is that of a unit, and its path leads there. -/
def Tidy (store : UnitStore) (w : Workspace) : Prop :=
  ∀ place bytes, Place.named store.root <+: place → w.node? place = some (.file bytes) →
    ∃ identity, Identity.IsNormal identity ∧ place = Place.named (store.unitPath identity) ∧
      w.Reaches (store.unitPath identity)

/-- There is no file below a store. -/
def Bare (store : UnitStore) (w : Workspace) : Prop :=
  ∀ place bytes, Place.named store.root <+: place → w.node? place ≠ some (.file bytes)

theorem mem_identities_iff : identity ∈ store.identities w ↔ Identity.IsNormal identity ∧
    ∃ bytes, w.node? (Place.named (store.unitPath identity)) = some (.file bytes) := by
  unfold identities
  rw [Set.mem_ofPred_eq, Option.isSome_iff_exists]
  simp only [Workspace.fileAt?_eq_some_iff]

theorem Bare.tidy (h : store.Bare w) : store.Tidy w :=
  fun place bytes hp hn => absurd hn (h place bytes hp)

theorem Bare.identities_eq (h : store.Bare w) : store.identities w = ∅ := by
  refine Set.eq_empty_of_forall_notMem fun identity hm => ?_
  obtain ⟨normal, bytes, hn⟩ := mem_identities_iff.mp hm
  exact h _ bytes (below_unitPath normal) hn

/-- The path of a unit leads to its file. -/
theorem Tidy.reaches (h : store.Tidy w) (hm : identity ∈ store.identities w) :
    w.Reaches (store.unitPath identity) := by
  obtain ⟨normal, bytes, hn⟩ := mem_identities_iff.mp hm
  obtain ⟨other, ho, he, reaches⟩ := h _ bytes (below_unitPath normal) hn
  rwa [unitPath_injective normal ho he]

theorem mem_identities_congr (h : Changes places v w)
    (hp : Identity.IsNormal identity → Place.named (store.unitPath identity) ∉ places) :
    identity ∈ store.identities w ↔ identity ∈ store.identities v := by
  rw [mem_identities_iff, mem_identities_iff]
  exact and_congr_right fun normal => exists_congr fun bytes => h.files _ (hp normal) bytes

theorem identities_eq (h : Changes places v w)
    (apart : ∀ place ∈ places, ¬Place.named store.root <+: place) :
    store.identities w = store.identities v :=
  Set.ext fun _ => mem_identities_congr h fun normal hm => apart _ hm (below_unitPath normal)

/-- What happens to a store that stays tidy if it has been so. -/
structure StaysTidy (store : UnitStore) (v w : Workspace) : Prop where
  directories : KeepsDirectories v w
  tidy : store.Tidy v → store.Tidy w

instance (store : UnitStore) : Std.Refl store.StaysTidy :=
  ⟨fun w => ⟨Std.Refl.refl w, id⟩⟩

instance (store : UnitStore) : IsTrans Workspace store.StaysTidy :=
  ⟨fun _ _ _ h h' => ⟨IsTrans.trans _ _ _ h.directories h'.directories, h'.tidy ∘ h.tidy⟩⟩

/-- A store stays tidy if all files that are new below it are those of units. -/
theorem staysTidy_of_changes (h : Changes places v w)
    (units : ∀ place ∈ places, ∀ bytes, Place.named store.root <+: place →
      w.node? place = some (.file bytes) → ∃ identity, Identity.IsNormal identity ∧
        place = Place.named (store.unitPath identity) ∧ w.Reaches (store.unitPath identity)) :
    store.StaysTidy v w := by
  refine ⟨h.directories, fun tidy place bytes below hn => ?_⟩
  by_cases hp : place ∈ places
  · exact units place hp bytes below hn
  · obtain ⟨identity, normal, he, reaches⟩ := tidy place bytes below ((h.files place hp bytes).mp hn)
    exact ⟨identity, normal, he, h.directories.reaches reaches⟩

theorem staysTidy_of_apart (h : Changes places v w)
    (apart : ∀ place ∈ places, ¬Place.named store.root <+: place) : store.StaysTidy v w :=
  staysTidy_of_changes h fun place hp _ below => absurd below (apart place hp)

theorem staysTidy_write (store : UnitStore) (normal : Identity.IsNormal identity)
    (content : Bytes) : Leaves store.StaysTidy (store.write identity content) := by
  have file : Leaves store.StaysTidy (Action.change (CacheError.io (store.unitPath identity))
      (·.write (store.unitPath identity) (encode store.version content))) := by
    refine Action.leaves_change fun v w h => ?_
    obtain ⟨change, read⟩ := Workspace.changes_write h
    refine staysTidy_of_changes change ?_
    rintro place rfl bytes _ _
    exact ⟨identity, normal, rfl, (Workspace.read_eq_ok_iff.mp read).1⟩
  unfold write
  dsimp only
  split
  next directory hd =>
    refine Leaves.bind ?_ fun _ => file
    exact (Action.changes_of_createDirectories _ directory).mono fun v w h =>
      staysTidy_of_apart h (by simp)
  next => exact file

theorem staysTidy_remove (store : UnitStore) (identity : String) :
    Leaves store.StaysTidy (store.remove identity) := by
  refine Action.leaves_clear fun v w h => ?_
  obtain ⟨change, gone⟩ := Workspace.changes_remove h
  refine staysTidy_of_changes change ?_
  rintro place rfl bytes _ hn
  rw [gone] at hn
  cases hn

/-- The path of a unit leads through the directory of the store. -/
theorem reaches_root (trimmed : Path.Trimmed store.root) (ne : store.root ≠ "")
    (normal : Identity.IsNormal identity) (h : w.Reaches (store.unitPath identity)) :
    w.Reaches store.root ∧ w.node? (Place.named store.root) = some .directory := by
  obtain ⟨_, admissible, way⟩ := (Workspace.reaches_iff_way (trimmed_unitPath normal)).mp h
  have inner (place : Place) (hm : place ∈ Place.trail store.root) :
      w.node? place = some .directory :=
    way place ((mem_way_unitPath normal).mpr (.inl hm))
  have front : store.root.toList <+: (store.unitPath identity).toList := by
    unfold unitPath Path.descend
    rw [normal.path_segments]
    exact Path.prefix_foldl_join (fun _ => normal.isStep) _
  refine ⟨(Workspace.reaches_iff_way trimmed).mpr ⟨ne, ⟨?_, ?_⟩, ?_⟩, inner _ ?_⟩
  · exact Path.isBadPath_of_front front admissible.whole
  · intro step hm
    refine admissible.names step ?_
    rw [steps_unitPath normal]
    exact List.mem_append_left _ hm
  · intro place hm
    obtain ⟨steps, hs, he⟩ := Place.mem_way_iff.mp hm
    exact inner place (Place.mem_trail_iff.mpr ⟨steps, hs.trans (List.dropLast_prefix _), he⟩)
  · exact Place.named_mem_trail _

/-- A tidy store that is cleared is bare. -/
theorem Tidy.bare_of_clear {x : Unit} (tidy : store.Tidy v) (trimmed : Path.Trimmed store.root)
    (ne : store.root ≠ "") (h : Runs store.clear v x w) : store.Bare w := by
  intro place bytes below hn
  have before := (clears_clear h).shrinks place _ hn
  obtain ⟨identity, normal, rfl, reaches⟩ := tidy place bytes below before
  obtain ⟨root, directory⟩ := reaches_root trimmed ne normal reaches
  have followed : v.place store.root = .ok (Place.named store.root) := root
  have removal : v.removeTree store.root = .ok ⟨v.nodes.filter fun other _ =>
      ((Place.named store.root).namesFrom? other).isNone⟩ := by
    unfold Workspace.removeTree
    rw [followed]
    dsimp only [bind, Except.bind]
    rw [directory]
    rfl
  unfold clear at h
  rw [Action.clear_iff, removal] at h
  rcases h with hw | ⟨hw, _⟩
  · cases hw
    have names : ((Place.named store.root).namesFrom?
        (Place.named (store.unitPath identity))).isSome = true := by
      rw [named_unitPath normal]
      unfold Place.namesFrom?
      rw [if_pos (List.isPrefixOf_iff_prefix.mpr (List.prefix_append _ _)), List.drop_left]
      split
      next hs => exact absurd rfl (normal.isStep (hs ▸ List.mem_cons_self)).ne_up
      next hs =>
        have slash := (normal.isStep (hs ▸ List.mem_cons_self)).slash_not_mem
        exact absurd slash (by decide)
      next => rfl
    unfold Workspace.node? at hn
    rw [if_neg (by simp [Workspace.isTop_of_file before]), Std.ExtTreeMap.getElem?_filter'] at hn
    have kept := (Option.filter_eq_some_iff.mp hn).2
    rw [Option.isNone_iff_eq_none] at kept
    rw [kept] at names
    cases names
  · cases hw

end UnitStore

/-- The file of a manifest to which its path leads is gone when it has been removed. -/
theorem Manifest.node?_of_remove {directory : String} {v w : Workspace} {x : Unit}
    (reaches : ∀ bytes, v.node? (Place.named (pathIn directory)) = some (.file bytes) →
      v.Reaches (pathIn directory)) (h : Runs (remove directory) v x w) (bytes : Bytes) :
    w.node? (Place.named (pathIn directory)) ≠ some (.file bytes) := by
  intro hn
  unfold remove at h
  rcases Action.clear_iff.mp h with h | ⟨h, rfl⟩
  · rw [(Workspace.changes_remove h).2] at hn
    cases hn
  · have removal := Workspace.remove_eq_ok_iff.mpr ⟨reaches bytes hn, ⟨bytes, hn⟩, rfl⟩
    rw [removal] at h
    cases h

namespace TaskContext

variable {context : TaskContext} {unit : BuildUnit} {units : List BuildUnit}
  {outcome : TaskOutcome} {outcomes : List TaskOutcome} {v w : Workspace}

theorem staysTidy_runTask (normal : Identity.IsNormal unit.identity) :
    Leaves context.store.StaysTidy (context.runTask unit) :=
  leaves_runTask_of (UnitStore.staysTidy_write _ normal) (UnitStore.staysTidy_remove _ _)

/-- Tasks change only the files of their units, however they end, and keep the store tidy. -/
theorem changes_runTasks (normal : ∀ unit ∈ units, Identity.IsNormal unit.identity) :
    Leaves (fun v w => Changes (context.store.placesOf units) v w ∧ context.store.StaysTidy v w)
      (context.runTasks units) := by
  intro v
  have tidy : Leaves context.store.StaysTidy (context.runTasks units) :=
    leaves_runTasks_of fun unit hu => staysTidy_runTask (normal unit hu)
  exact ⟨(leaves_runTasks context units v).changes (tidy v).directories, tidy v⟩

/-- What is stored when tasks for some units have been done. -/
structure Stocks (context : TaskContext) (units : List BuildUnit) (v w : Workspace) : Prop where
  tidy : context.store.Tidy w
  written : ∀ unit ∈ units, unit.kind.needsWrite = true →
    unit.identity ∈ context.store.identities w
  removed : ∀ unit ∈ units, unit.kind = .removed → unit.identity ∉ context.store.identities w
  others : ∀ identity, (∀ unit ∈ units, unit.identity ≠ identity) →
    (identity ∈ context.store.identities w ↔ identity ∈ context.store.identities v)

theorem not_mem_placesOf {identity : String} (normal : ∀ unit ∈ units, Identity.IsNormal unit.identity)
    (apart : ∀ unit ∈ units, unit.identity ≠ identity) (h : Identity.IsNormal identity) :
    Place.named (context.store.unitPath identity) ∉ context.store.placesOf units := by
  rintro ⟨unit, hu, he⟩
  exact apart unit hu (UnitStore.unitPath_injective (normal unit hu) h he)

theorem stocks_of_runTask (tidy : context.store.Tidy v) (normal : Identity.IsNormal unit.identity)
    (h : Runs (context.runTask unit) v outcome w) : context.Stocks [unit] v w := by
  obtain ⟨_, change, written⟩ := runTask_runs h
  have alone : ∀ other ∈ [unit], Identity.IsNormal other.identity := by simpa using normal
  refine ⟨((staysTidy_runTask normal).of_runs h).tidy tidy, ?_, ?_, fun identity apart =>
    UnitStore.mem_identities_congr change (not_mem_placesOf alone apart)⟩
  · intro other ho hw
    obtain rfl := List.mem_singleton.mp ho
    obtain ⟨_, _, traced, _, _, _, read⟩ := written hw
    exact UnitStore.mem_identities_iff.mpr ⟨normal, _, (Workspace.read_eq_ok_iff.mp read).2⟩
  · intro other ho hk hm
    obtain rfl := List.mem_singleton.mp ho
    unfold runTask at h
    rw [hk] at h
    obtain ⟨_, s, hr, h⟩ := Runs.bind_iff.mp h
    obtain ⟨rfl, rfl⟩ := Runs.pure_iff.mp h
    have removal := Runs.adapt_iff.mp hr
    unfold UnitStore.remove at removal
    obtain ⟨_, bytes, hn⟩ := UnitStore.mem_identities_iff.mp hm
    rcases Action.clear_iff.mp removal with hr | ⟨hr, rfl⟩
    · rw [(Workspace.changes_remove hr).2] at hn
      cases hn
    · have done := Workspace.remove_eq_ok_iff.mpr ⟨tidy.reaches hm, ⟨bytes, hn⟩, rfl⟩
      rw [done] at hr
      cases hr

theorem stocks_of_mapM (tidy : context.store.Tidy v)
    (normal : ∀ unit ∈ units, Identity.IsNormal unit.identity)
    (nodup : (units.map (·.identity)).Nodup) (h : Runs (units.mapM context.runTask) v outcomes w) :
    context.Stocks units v w := by
  induction units generalizing v outcomes with
  | nil =>
    obtain ⟨_, rfl⟩ := Runs.mapM_nil_iff.mp h
    exact ⟨tidy, by simp, by simp, fun _ _ => Iff.rfl⟩
  | cons first units ih =>
    obtain ⟨outcome, s, others, hf, ho, _⟩ := Runs.mapM_cons_iff.mp h
    rw [List.map_cons, List.nodup_cons] at nodup
    have head := stocks_of_runTask tidy (normal first (by simp)) hf
    have tail := ih head.tidy (fun unit hu => normal unit (by simp [hu])) nodup.2 ho
    have kept := tail.others first.identity fun unit hu he =>
      nodup.1 (he ▸ List.mem_map_of_mem hu)
    refine ⟨tail.tidy, ?_, ?_, ?_⟩
    · intro unit hu hw
      rcases List.mem_cons.mp hu with rfl | hu
      · exact kept.mpr (head.written unit (by simp) hw)
      · exact tail.written unit hu hw
    · intro unit hu hk
      rcases List.mem_cons.mp hu with rfl | hu
      · exact fun hm => head.removed unit (by simp) hk (kept.mp hm)
      · exact tail.removed unit hu hk
    · intro identity apart
      refine (tail.others identity fun unit hu => apart unit (by simp [hu])).trans ?_
      exact head.others identity (by simpa using apart first (by simp))

/-- Tasks store the units that they write and no unit that they remove. -/
theorem stocks_of_runTasks (tidy : context.store.Tidy v)
    (normal : ∀ unit ∈ units, Identity.IsNormal unit.identity)
    (nodup : (units.map (·.identity)).Nodup) (h : Runs (context.runTasks units) v outcomes w) :
    context.Stocks units v w := by
  unfold runTasks at h
  obtain ⟨unsorted, s, hm, h⟩ := Runs.bind_iff.mp h
  obtain ⟨_, rfl⟩ := Runs.pure_iff.mp h
  exact stocks_of_mapM tidy normal nodup hm

end TaskContext

end MethodTrace
