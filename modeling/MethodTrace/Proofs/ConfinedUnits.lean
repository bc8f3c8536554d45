import MethodTrace.Proofs.IncrementalRuns
import MethodTrace.Proofs.LooseUnits
import MethodTrace.Proofs.TouchedPlaces

/-!
Units with identities in canonical spelling, whose tasks read nothing but what lies below the input
directories and change nothing but what lies below the store.
-/

namespace MethodTrace

/-- All units have identities in canonical spelling. -/
def ChangeSet.Normal (set : ChangeSet) : Prop :=
  ∀ unit ∈ set.units, Identity.IsNormal unit.identity

theorem ChangeSet.mem_units_iff {set : ChangeSet} {unit : BuildUnit} :
    unit ∈ set.units ↔ unit ∈ set.actionable ∨ unit ∈ set.unchanged :=
  List.mem_append

namespace Workspace

variable {u v w : Workspace} {directories : List String} {path : String}

/-- Workspaces in which the same is there on the way to some directories and below them. -/
def SameUnder (directories : List String) (u v : Workspace) : Prop :=
  ∀ root ∈ directories, ∀ place, place ∈ Place.trail root ∨ Place.named root <+: place →
    u.node? place = v.node? place

/-- Workspaces that differ only below a directory, where the second may have more directories that
lead there. -/
def ChangesBelow (root : String) : Workspace → Workspace → Prop :=
  Touches {place | Place.named root <+: place} {place | place ∈ Place.trail root}

instance (root : String) : Std.Refl (ChangesBelow root) :=
  inferInstanceAs (Std.Refl (Touches _ _))

instance (root : String) : IsTrans Workspace (ChangesBelow root) :=
  inferInstanceAs (IsTrans Workspace (Touches _ _))

/-- What a path names depends only on what is on the way. -/
theorem find_congr (h : ∀ place ∈ Place.trail path, u.node? place = v.node? place) :
    u.find path = v.find path := by
  unfold find
  rw [place_congr h]
  cases hp : v.place path with
  | error fault => rfl
  | ok place =>
    obtain ⟨_, rfl⟩ := place_eq_ok_iff.mp hp
    have here := h _ (Place.named_mem_trail path)
    simp only [bind, Except.bind, here]

end Workspace

namespace Detection

variable {u v w : Workspace} {directories : List String} {unit : BuildUnit}
  {identity path : String}

/-- A path that leads only along the way to one of some directories and through what is below. -/
def Inside (directories : List String) (path : String) : Prop :=
  ∃ root ∈ directories, ∀ place ∈ Place.trail path,
    place ∈ Place.trail root ∨ Place.named root <+: place

theorem Inside.find_eq (h : Inside directories path) (same : Workspace.SameUnder directories u v) :
    u.find path = v.find path := by
  obtain ⟨root, hr, inside⟩ := h
  exact Workspace.find_congr fun place hp => same root hr place (inside place hp)

/-- A path that has an identity stays below the directory from which it is followed. -/
theorem inside_join {root raw : String} (hr : root ∈ directories)
    (h : identityOf raw = .ok identity) : Inside directories (Path.join root raw) := by
  obtain ⟨relative, normal⟩ := identityOf_eq_ok h
  refine ⟨root, hr, fun place => ?_⟩
  refine Place.below_of_mem_trail (Path.isAbsolute_join relative) (Path.steps_join relative) ?_
  exact fun hm => Identity.up_not_mem_of_normalize? normal (List.mem_of_mem_filter hm)

theorem inside_descend {root : String} (hr : root ∈ directories)
    (h : Identity.IsNormal identity) : Inside directories (Path.descend root identity) := by
  obtain ⟨absolute, steps⟩ := Path.foldl_join_of_isStep (fun _ => h.isStep) root
  refine ⟨root, hr, fun place => ?_⟩
  unfold Path.descend
  rw [h.path_segments]
  exact Place.below_of_mem_trail absolute steps fun hm => (h.isStep hm).ne_up rfl

/-- A file that is met under a directory stays below it, whatever its names are. -/
theorem inside_of_fileUnit {root : String} {index : Nat} {names : List String}
    (hr : root ∈ directories) (h : fileUnit root index names = .ok unit) :
    Identity.IsNormal unit.identity ∧ unit.kind = .added ∧
      ∃ path, unit.content = .file path ∧ Inside directories path := by
  obtain ⟨_, normal, kind, content⟩ := Invocation.fileUnit_eq_ok h
  refine ⟨normal, kind, _, content, root, hr, fun place hp => ?_⟩
  unfold fileUnit at h
  obtain ⟨identity, hi, _⟩ := Except.bind_eq_ok_iff.mp h
  obtain ⟨relative, hn⟩ := identityOf_eq_ok hi
  have up := Identity.up_not_mem_of_normalize? hn
  cases hs : Path.stripPrefix? (names.foldl Path.join root) root with
  | some rest =>
    rw [hs] at relative up
    rcases Path.stripPrefix?_eq_some hs with ⟨none, start⟩ | ⟨absolute, steps⟩
    · right
      rw [Place.named_eq_nil none start]
      exact List.nil_prefix
    · exact Place.below_of_mem_trail absolute steps
        (fun hm => up (List.mem_of_mem_filter hm)) hp
  | none =>
    rw [hs] at relative
    obtain ⟨some, apart⟩ := Path.stripPrefix?_eq_none hs
    have ne : root ≠ "" := by
      rintro rfl
      exact some (by decide)
    exact absurd (Path.prefix_components_foldl_join ne relative).2 apart

/-- What the inputs list or hold has an identity in canonical spelling and stays below them. -/
theorem normal_of_looseUnits {invocation : Invocation} {full : Bool} {loose : List BuildUnit}
    (h : looseUnits w invocation full = .ok loose) : ∀ unit ∈ loose,
      Identity.IsNormal unit.identity ∧ unit.kind ≠ .unchanged ∧
        ∀ path, unit.content = .file path → Inside invocation.directories path := by
  have walked (h : walkedUnits w invocation.directories = .ok loose) : ∀ unit ∈ loose,
      Identity.IsNormal unit.identity ∧ unit.kind ≠ .unchanged ∧
        ∀ path, unit.content = .file path → Inside invocation.directories path := by
    intro unit hu
    obtain ⟨lists, hl, rfl⟩ := Except.map_eq_ok_iff.mp h
    obtain ⟨units, hm, hu⟩ := List.mem_flatten.mp hu
    obtain ⟨⟨root, index⟩, hr, hw⟩ := forall₂_exists_left (Except.mapM_eq_ok_iff.mp hl) hm
    dsimp only at hw
    rw [Invocation.rootUnits_eq] at hw
    obtain ⟨⟨names, bytes⟩, _, hf⟩ := forall₂_exists_left (Except.mapM_eq_ok_iff.mp hw) hu
    obtain ⟨normal, kind, path, content, inside⟩ :=
      inside_of_fileUnit (List.fst_mem_of_mem_zipIdx hr) hf
    refine ⟨normal, by simp [kind], fun other ho => ?_⟩
    rw [content] at ho
    cases ho
    exact inside
  unfold looseUnits at h
  split at h
  next feed _ =>
    intro unit hu
    obtain ⟨change, _, hc⟩ := (mem_feedUnits_iff h).mp hu
    obtain ⟨root, hr, raw, hi, content⟩ := feedUnit?_eq_some hc
    refine ⟨isNormal_of_identityOf hi, ?_, fun path hp => ?_⟩
    · rcases content with ⟨hk, _⟩ | ⟨hw, _⟩
      · simp [hk]
      · rintro hk
        simp [hk, ChangeKind.needsWrite] at hw
    · rcases content with ⟨_, hc⟩ | ⟨_, hc⟩
      · rw [hc] at hp
        cases hp
      · rw [hc] at hp
        cases hp
        exact inside_join hr hi
  next => exact walked h

variable {members : ArchivedUnits} {previous : Fingerprints} {loose : List BuildUnit}

/-- All that is known about the units of a run for its members and for loose units. -/
def sorted (w : Workspace) (directories : List String) (members : ArchivedUnits)
    (previous : Fingerprints) (loose : List BuildUnit) : ChangeSet :=
  withUncovered w directories (withLoose (memberChanges members previous) loose)

theorem unchanged_sorted (changed : ∀ unit ∈ loose, unit.kind ≠ .unchanged) :
    (sorted w directories members previous loose).unchanged
      = (memberChanges members previous).unchanged := by
  have none : (loose.map (settle (memberChanges members previous))).filter (·.kind = .unchanged)
      = [] := by
    rw [List.filter_eq_nil_iff]
    intro unit hu
    obtain ⟨other, ho, rfl⟩ := List.mem_map.mp hu
    rw [decide_eq_true_eq]
    intro hk
    unfold settle at hk
    split at hk
    · cases hk
    · exact changed other ho hk
  have filed := ofKind_withLoose (memberChanges members previous) loose .unchanged
  rw [none, List.append_nil] at filed
  exact filed

theorem mem_unchanged (changed : ∀ unit ∈ loose, unit.kind ≠ .unchanged) :
    unit ∈ (sorted w directories members previous loose).unchanged ↔
      ∃ identity held, members[identity]? = some held ∧
        memberKind previous identity held = .unchanged ∧
          memberUnit identity held .unchanged = unit := by
  rw [unchanged_sorted changed]
  exact mem_filterMap_archiveUnit?

/-- Identities come from the archives, from what is loose or from the previous run. -/
theorem mem_sorted (changed : ∀ unit ∈ loose, unit.kind ≠ .unchanged)
    (apart : ∀ unit ∈ loose, members[unit.identity]? = none)
    (h : unit ∈ (sorted w directories members previous loose).units) :
    (∃ held, members[unit.identity]? = some held) ∨
      (∃ other ∈ loose, other.identity = unit.identity) ∨
      previous[unit.identity]?.isSome = true := by
  rcases ChangeSet.mem_units_iff.mp h with h | h
  · rcases changed_of_mem_plan apart h with ⟨held, hm, _⟩ | ⟨_, hl | hp⟩
    · exact .inl ⟨held, hm⟩
    · exact .inr (.inl hl)
    · exact .inr (.inr hp)
  · obtain ⟨identity, held, hm, _, rfl⟩ := (mem_unchanged changed).mp h
    exact .inl ⟨held, hm⟩

/-- What an earlier run has had and archives no longer have is among the units. -/
theorem exists_mem_sorted (hm : members[identity]? = none)
    (hp : previous[identity]?.isSome = true) (hl : ∀ unit ∈ loose, unit.identity ≠ identity) :
    ∃ unit ∈ (sorted w directories members previous loose).units, unit.identity = identity := by
  obtain ⟨unit, hg, rfl⟩ := exists_mem_gone_iff.mpr (.inr ⟨hl, hm, hp⟩)
  cases hu : uncoveredUnit? w directories unit with
  | some found =>
    have here := mem_plan_iff.mpr (.inr (.inr (.inr (.inl ⟨unit, hg, hu⟩))))
    exact ⟨found, ChangeSet.mem_units_iff.mpr (.inl here), (uncoveredUnit?_eq_some hu).1⟩
  | none =>
    have here := mem_plan_iff.mpr (.inr (.inr (.inr (.inr ⟨hg, hu⟩))))
    exact ⟨unit, ChangeSet.mem_units_iff.mpr (.inl here), rfl⟩

theorem inside_of_uncovered? {index : Nat} (normal : Identity.IsNormal identity)
    (h : uncovered? w directories identity = some (index, path)) : Inside directories path := by
  unfold uncovered? at h
  obtain ⟨⟨root, position⟩, hm, h⟩ := List.exists_of_findSome?_eq_some h
  dsimp only at h
  split at h
  · cases h
    exact inside_descend (List.fst_mem_of_mem_zipIdx hm) normal
  · cases h

theorem uncovered?_eq (normal : Identity.IsNormal identity)
    (same : Workspace.SameUnder directories u v) :
    uncovered? u directories identity = uncovered? v directories identity := by
  unfold uncovered?
  refine findSome?_congr ?_
  rintro ⟨root, index⟩ hm
  have found := (inside_descend (List.fst_mem_of_mem_zipIdx hm) normal).find_eq same
  have file : u.isFile (Path.descend root identity) = v.isFile (Path.descend root identity) := by
    unfold Workspace.isFile
    rw [found]
  simp only [file]

/-- The file of a unit lies below the directories if its identity is in canonical spelling. -/
theorem inside_of_mem_sorted (changed : ∀ unit ∈ loose, unit.kind ≠ .unchanged)
    (inside : ∀ unit ∈ loose, ∀ path, unit.content = .file path → Inside directories path)
    (normal : Identity.IsNormal unit.identity)
    (h : unit ∈ (sorted w directories members previous loose).units)
    (hc : unit.content = .file path) : Inside directories path := by
  have member {kind : ChangeKind} {identity : String} {held : ArchivedUnit}
      (he : memberUnit identity held kind = unit) : Inside directories path := by
    rw [← he, memberUnit] at hc
    dsimp only at hc
    split at hc
    · cases hc
    · cases hc
  rcases ChangeSet.mem_units_iff.mp h with h | h
  · rcases mem_plan_iff.mp h with ha | hm | ⟨other, ho, _, rfl⟩ | ⟨other, _, hu⟩ | ⟨hg, _⟩
    · obtain ⟨_, _, _, _, he⟩ := mem_added_iff.mp ha
      exact member he
    · obtain ⟨_, _, _, _, he⟩ := mem_modified_iff.mp hm
      exact member he
    · exact inside other ho path ((settle_content _ other).symm.trans hc)
    · obtain ⟨he, _, index, found, hf, hp⟩ := uncoveredUnit?_eq_some hu
      rw [hp] at hc
      cases hc
      exact inside_of_uncovered? (he ▸ normal) hf
    · rcases mem_gone_iff.mp hg with ⟨hr, _⟩ | ⟨hl, _⟩
      · obtain ⟨_, _, _, rfl⟩ := mem_removed_iff.mp hr
        cases hc
      · exact inside unit hl path hc
  · obtain ⟨_, _, _, _, he⟩ := (mem_unchanged changed).mp h
    exact member he

end Detection

theorem BuildUnit.load_eq {u v : Workspace} {directories : List String} {unit : BuildUnit}
    (inside : ∀ path, unit.content = .file path → Detection.Inside directories path)
    (same : Workspace.SameUnder directories u v) : unit.load u = unit.load v := by
  unfold load
  split
  next => rfl
  next path hc =>
    unfold Workspace.readOr Workspace.read
    rw [(inside path hc).find_eq same]
  next => rfl

namespace UnitStore

variable {store : UnitStore} {identity : String} {content : Bytes}

theorem below_of_mem_trail {place : Place} (normal : Identity.IsNormal identity)
    (h : place ∈ Place.trail (store.unitPath identity)) :
    place ∈ Place.trail store.root ∨ Place.named store.root <+: place := by
  obtain ⟨absolute, steps⟩ :=
    Path.foldl_join_of_isStep (fun _ => normal.isStep) store.root
  unfold unitPath Path.descend at h
  rw [normal.path_segments] at h
  exact Place.below_of_mem_trail absolute steps (fun hm => (normal.isStep hm).ne_up rfl) h

theorem below_unitPath (normal : Identity.IsNormal identity) :
    Place.named store.root <+: Place.named (store.unitPath identity) := by
  rw [unitPath, Place.named_descend_of_isNormal normal]
  exact List.prefix_append _ _

/-- The places through which the path of a unit leads. -/
def wayTo (store : UnitStore) (identity : String) : Set Place :=
  {place | place ∈ Place.trail (store.unitPath identity)}

theorem leaves_write (store : UnitStore) (identity : String) (content : Bytes) :
    Leaves (Workspace.Touches {Place.named (store.unitPath identity)} (store.wayTo identity))
      (store.write identity content) := by
  have file : Leaves (Workspace.Touches {Place.named (store.unitPath identity)}
      (store.wayTo identity)) (Action.change (CacheError.io (store.unitPath identity))
        (·.write (store.unitPath identity) (encode store.version content))) :=
    Action.leaves_change fun v w h =>
      (Workspace.touches_write h).mono (Set.Subset.refl _) (Set.empty_subset _)
  unfold write
  dsimp only
  split
  next directory hd =>
    refine Leaves.bind ?_ fun _ => file
    refine (Action.leaves_createDirectories _ directory).mono fun v w h => ?_
    exact h.mono (Set.empty_subset _) fun place hp => .inr (Place.mem_trail_of_parent? hd hp)
  next => exact file

theorem leaves_remove (store : UnitStore) (identity : String) :
    Leaves (Workspace.Touches {Place.named (store.unitPath identity)} (store.wayTo identity))
      (store.remove identity) :=
  Action.leaves_clear fun _ _ h =>
    (Workspace.touches_remove h).mono (Set.Subset.refl _) (Set.empty_subset _)

end UnitStore

namespace TaskContext

variable {context : TaskContext} {unit : BuildUnit} {units : List BuildUnit}

/-- The places through which the paths of some units lead. -/
def waysTo (context : TaskContext) (units : List BuildUnit) : Set Place :=
  {place | ∃ unit ∈ units, place ∈ context.store.wayTo unit.identity}

section

variable {R : Workspace → Workspace → Prop} [Std.Refl R] [IsTrans Workspace R]

/-- A task leaves what writing or removing a unit leaves. -/
theorem leaves_runTask_of
    (write : ∀ content, Leaves R (context.store.write unit.identity content))
    (remove : Leaves R (context.store.remove unit.identity)) : Leaves R (context.runTask unit) := by
  have written : Leaves R (context.writeUnit unit) := by
    refine (Action.leaves_look _).bind fun content => (Leaves.liftM _).bind fun traced => ?_
    exact (write _).adapt.bind fun _ => .pure _
  unfold runTask
  split
  · exact written
  · exact written
  · exact remove.adapt.bind fun _ => .pure _
  · exact .pure _

theorem leaves_runTasks_of (h : ∀ unit ∈ units, Leaves R (context.runTask unit)) :
    Leaves R (context.runTasks units) :=
  (Leaves.mapM h).bind fun _ => .pure _

end

theorem leaves_runTask (context : TaskContext) (unit : BuildUnit) :
    Leaves (Workspace.Touches {Place.named (context.store.unitPath unit.identity)}
      (context.store.wayTo unit.identity)) (context.runTask unit) :=
  leaves_runTask_of (UnitStore.leaves_write _ _) (UnitStore.leaves_remove _ _)

/-- Tasks change only the files of their units, however they end. -/
theorem leaves_runTasks (context : TaskContext) (units : List BuildUnit) :
    Leaves (Workspace.Touches (context.store.placesOf units) (context.waysTo units))
      (context.runTasks units) := by
  refine leaves_runTasks_of fun unit hu => (leaves_runTask context unit).mono fun v w h => ?_
  refine h.mono ?_ ?_
  · rintro place rfl
    exact ⟨unit, hu, rfl⟩
  · exact fun place hp => .inr ⟨unit, hu, hp⟩

/-- The task for a unit with an identity in canonical spelling changes nothing outside of the
store. -/
theorem changesBelow_runTask (normal : Identity.IsNormal unit.identity) :
    Leaves (Workspace.ChangesBelow context.store.root) (context.runTask unit) := by
  refine (leaves_runTask context unit).mono fun v w h => h.mono ?_ ?_
  · rintro place rfl
    exact UnitStore.below_unitPath normal
  · exact fun place hp => (UnitStore.below_of_mem_trail normal hp).symm

theorem changesBelow_runTasks (normal : ∀ unit ∈ units, Identity.IsNormal unit.identity) :
    Leaves (Workspace.ChangesBelow context.store.root) (context.runTasks units) :=
  leaves_runTasks_of fun unit hu => changesBelow_runTask (normal unit hu)

end TaskContext

namespace Detection

/-- Units that stay inside: their identities are made of steps, what is read for them lies below
some directories, and what their tasks change lies below the store. -/
structure Confined (directories : List String) (changes : ChangeSet) : Prop where
  spelled : ∀ unit ∈ changes.units, unit.identity ≠ "" ∧
    ∀ segment ∈ Path.segments unit.identity.toList, Identity.IsStep segment
  read : ∀ unit ∈ changes.units, ∀ u v, Workspace.SameUnder directories u v →
    unit.load u = unit.load v ∧
      uncovered? u directories unit.identity = uncovered? v directories unit.identity
  changed : ∀ context : TaskContext,
    Leaves (Workspace.ChangesBelow context.store.root) (context.runTasks changes.actionable)

end Detection

namespace Invocation

open Detection

/-- Without inputs, what the previous run has kept is to be removed. -/
theorem detect_of_kept (v : Workspace) {cache : Cache} {identity : String} {hash : ContentHash}
    (h : cache.fingerprints = (∅ : Fingerprints).insert identity hash) :
    detect v (withoutInputs.withChanges (.listed [])) cache false
      = .ok ⟨{ removed := [⟨identity, .previous, .removed, .absent⟩] }, ∅⟩ := by
  have loose : looseUnits v (withoutInputs.withChanges (.listed [])) false = .ok [] := rfl
  have removed : (fingerprintsOf ∅).changesSince ((∅ : Fingerprints).insert identity hash)
      = ⟨[], [], [identity], []⟩ := rfl
  unfold detect
  rw [loose, h]
  dsimp only [bind, Except.bind, withoutInputs, withChanges, List.mapM_nil, pure, Except.pure]
  simp only [archivedUnits, List.zipIdx_nil, List.foldl_nil, Bool.false_eq_true, if_false, removed]
  rw [withUncovered_nil]
  rfl

/-- A workspace with the file `x`, the directory for units and some manifest. -/
def planted (manifest : Bytes) : Workspace :=
  ((bare.insert ["m", "units"] .directory).insert ["x"] (.file [])).insert
    ["m", "fingerprints.json"] (.file manifest)

theorem node?_planted (manifest : Bytes) (place : Place) :
    (planted manifest).node? place =
      if place = ["m", "fingerprints.json"] then some (.file manifest)
      else if place = ["x"] then some (.file [])
      else if place = ["m", "units"] then some .directory else bare.node? place := by
  rw [planted, Workspace.node?_insert (by decide), Workspace.node?_insert (by decide),
    Workspace.node?_insert (by decide)]

theorem ready_planted (manifest : Bytes) : (planted manifest).Ready := by
  have ready := ready_bare.insert_units
  have free : (bare.insert ["m", "units"] .directory).node? ["x"] ≠ some .directory := by
    rw [Workspace.node?_insert (by decide)]
    decide +kernel
  exact (ready.insert_file free).insert_file (ready.insert_file free).manifest

theorem reaches_planted (manifest : Bytes) : (planted manifest).Reaches "m/units/../../x" := by
  have trail : (Place.trail "m/units/../../x").dropLast
      = [[], ["m"], ["m", "units"], ["m"], []] := by
    decide +kernel
  have top : bare.node? [] = some .directory := rfl
  have directory : bare.node? ["m"] = some .directory := ready_bare.directory
  refine Workspace.reaches_iff.mpr ⟨by decide, by cbv, by decide, ?_⟩
  rw [trail]
  simp [node?_planted, directory, top]

/-- The manifest of a run that had one member. -/
def keeping (identity : String) : Manifest :=
  withoutInputs.manifest noFilter ((∅ : Fingerprints).insert identity (ContentHash.ofBytes []))

theorem kept_planted (identity : String) :
    (withoutInputs.kept (planted (keeping identity).fileBytes)).fingerprints
      = (∅ : Fingerprints).insert identity (ContentHash.ofBytes []) := by
  have ready := ready_planted (keeping identity).fileBytes
  have there : (planted (keeping identity).fileBytes).node? ["m", "fingerprints.json"]
      = some (.file (keeping identity).fileBytes) := by
    rw [node?_planted, if_pos rfl]
  have read : (planted (keeping identity).fileBytes).read (Manifest.pathIn "m")
      = .ok (keeping identity).fileBytes :=
    Workspace.read_eq_ok_iff.mpr
      ⟨ready.offers_manifest.reaches, Workspace.Ready.named_manifest ▸ there⟩
  change (Cache.ofDirectory (planted (keeping identity).fileBytes) "m" toolVersion).fingerprints = _
  unfold Cache.ofDirectory
  rw [Manifest.find_of_read read]
  rfl

end Invocation

variable {w : Workspace} {invocation : Invocation} {cache : Cache} {full : Bool}
  {detection : Detection}

/-- An identity that is not in canonical spelling has been kept by the previous run. -/
theorem Detection.normal_or_kept {unit : BuildUnit}
    (h : detect w invocation cache full = .ok detection) (hu : unit ∈ detection.changes.units) :
    Identity.IsNormal unit.identity ∨
      full = false ∧ cache.fingerprints[unit.identity]?.isSome = true := by
  obtain ⟨scans, loose, hs, hl, _, hc⟩ := detect_eq_ok h
  have found := normal_of_looseUnits hl
  have first {unit : BuildUnit}
      (hu : unit ∈ Invocation.first (archivedUnits scans) loose) := Invocation.mem_first hu
  rw [hc] at hu
  rcases mem_sorted (fun unit hu => (found unit (first hu).1).2.1) (fun unit hu => (first hu).2) hu
    with ⟨held, hm⟩ | ⟨other, ho, he⟩ | hk
  · exact .inl (isNormal_of_scans hs hm)
  · exact .inl (he ▸ (found other (first ho).1).1)
  · cases full with
    | true => simp at hk
    | false => exact .inr ⟨rfl, hk⟩

/-- The units that are detected have identities in canonical spelling exactly if everything is
built anew or the previous run has kept no other ones, and then they stay inside. -/
theorem detect_normal_iff (h : detect w invocation cache full = .ok detection) :
    (detection.changes.Normal ↔ full = true ∨ ∀ identity,
      cache.fingerprints[identity]?.isSome = true → Identity.IsNormal identity) ∧
    (detection.changes.Normal → Detection.Confined invocation.directories detection.changes) := by
  obtain ⟨scans, loose, hs, hl, _, hc⟩ := detect_eq_ok h
  have found := Detection.normal_of_looseUnits hl
  have member {identity : String} {held : ArchivedUnit}
      (hm : (Detection.archivedUnits scans)[identity]? = some held) :
      Identity.IsNormal identity :=
    Detection.isNormal_of_scans hs hm
  generalize Detection.archivedUnits scans = members at hc member
  generalize hp : (if full then ∅ else cache.fingerprints) = previous at hc
  change detection.changes = Detection.sorted w invocation.directories members previous
    (Invocation.first members loose) at hc
  have first {unit : BuildUnit} (hu : unit ∈ Invocation.first members loose) :=
    Invocation.mem_first hu
  have changed : ∀ unit ∈ Invocation.first members loose, unit.kind ≠ .unchanged :=
    fun unit hu => (found unit (first hu).1).2.1
  rw [hc]
  refine ⟨⟨?_, ?_⟩, ?_⟩
  · intro normal
    cases full with
    | true => exact .inl rfl
    | false =>
      right
      intro identity hk
      have kept : previous[identity]?.isSome = true := by rwa [← hp]
      by_contra hn
      have none : members[identity]? = none := by
        cases hm : members[identity]? with
        | none => rfl
        | some held => exact absurd (member hm) hn
      obtain ⟨unit, hu, rfl⟩ := Detection.exists_mem_sorted none kept fun unit hu he =>
        hn (he ▸ (found unit (first hu).1).1)
      exact hn (normal unit hu)
  · intro hf unit hu
    rcases Detection.normal_or_kept h (hc ▸ hu) with hn | ⟨rfl, hk⟩
    · exact hn
    · exact (hf.resolve_left Bool.false_ne_true) _ hk
  · intro normal
    refine ⟨fun unit hu => ?_, fun unit hu u v same => ⟨?_, ?_⟩, fun context => ?_⟩
    · have here := normal unit hu
      refine ⟨?_, fun segment hm => ?_⟩
      · rintro he
        rw [he] at here
        exact absurd here (by unfold Identity.IsNormal; decide)
      · rw [here.path_segments] at hm
        exact here.isStep hm
    · refine BuildUnit.load_eq (fun path hf => ?_) same
      exact Detection.inside_of_mem_sorted changed
        (fun unit hu => (found unit (first hu).1).2.2) (normal unit hu) hu hf
    · exact Detection.uncovered?_eq (normal unit hu) same
    · exact TaskContext.changesBelow_runTasks fun unit hu =>
        normal unit (ChangeSet.mem_units_iff.mpr (.inl hu))

open Invocation in
/-- A unit that is gone since the previous run stays inside. -/
theorem detect_normal_iff_planted :
    detect (planted (keeping "a/b").fileBytes) (withoutInputs.withChanges (.listed []))
      (withoutInputs.kept (planted (keeping "a/b").fileBytes)) false
        = .ok ⟨{ removed := [⟨"a/b", .previous, .removed, .absent⟩] }, ∅⟩ ∧
      Detection.Confined [] { removed := [⟨"a/b", .previous, .removed, .absent⟩] } := by
  have detected := detect_of_kept (planted (keeping "a/b").fileBytes) (kept_planted "a/b")
  obtain ⟨spelling, confined⟩ := detect_normal_iff detected
  refine ⟨detected, confined (spelling.mpr (.inr fun identity hk => ?_))⟩
  have same : identity = "a/b" := by
    rw [kept_planted, Std.ExtTreeMap.getElem?_insert] at hk
    split at hk
    next he => exact (Std.LawfulEqCmp.compare_eq_iff_eq.mp he).symm
    next => simp at hk
  subst same
  unfold Identity.IsNormal
  decide

open Invocation in
/-- A manifest that has been tampered with makes a run remove a file outside of its store. -/
theorem not_detect_normal : ¬∀ (w : Workspace) (invocation : Invocation) (full : Bool)
    (detection : Detection), detect w invocation (invocation.kept w) full = .ok detection →
      detection.changes.Normal ∨ ∀ context : TaskContext,
        Leaves (Workspace.ChangesBelow context.store.root)
          (context.runTasks detection.changes.actionable) := by
  intro claim
  have path : (UnitStore.ofDirectory "m" toolVersion).unitPath "../../x" = "m/units/../../x" := by
    cbv
  have named : Place.named "m/units/../../x" = ["x"] := by decide +kernel
  have file (manifest : Bytes) : (planted manifest).node? ["x"] = some (.file []) := by
    rw [node?_planted, if_neg (by decide), if_pos rfl]
  have root : Place.named (Path.join "m" "units") = ["m", "units"] := by cbv
  rcases claim _ (withoutInputs.withChanges (.listed [])) false _
    (detect_of_kept _ (kept_planted "../../x")) with normal | leaves
  · have := normal ⟨"../../x", .previous, .removed, .absent⟩ (by simp [ChangeSet.units])
    unfold Identity.IsNormal at this
    exact absurd this (by decide)
  · have removed : Runs ((withoutInputs.context noFilter).store.remove "../../x")
        (planted (keeping "../../x").fileBytes) ()
        ((planted (keeping "../../x").fileBytes).erase ["x"]) := by
      change Runs ((UnitStore.ofDirectory "m" toolVersion).remove "../../x") _ _ _
      unfold UnitStore.remove
      rw [path]
      refine Action.clear_iff.mpr (.inl (Workspace.remove_eq_ok_iff.mpr ⟨reaches_planted _, ?_, ?_⟩))
      · rw [named]
        exact ⟨[], file _⟩
      · rw [named]
    have task : Runs ((withoutInputs.context noFilter).runTask
        ⟨"../../x", .previous, .removed, .absent⟩) (planted (keeping "../../x").fileBytes)
        ⟨"../../x", .removed, []⟩ ((planted (keeping "../../x").fileBytes).erase ["x"]) :=
      Runs.bind_iff.mpr ⟨(), _, Runs.adapt_iff.mpr removed, Runs.pure_iff.mpr ⟨rfl, rfl⟩⟩
    have below := (leaves (withoutInputs.context noFilter)).of_runs
      (TaskContext.runs_runTasks_singleton task) ["x"] (by
        change ¬Place.named (Path.join "m" "units") <+: ["x"]
        rw [root]
        decide)
    rw [Workspace.node?_erase (by decide), if_pos rfl, file] at below
    simp at below

end MethodTrace
