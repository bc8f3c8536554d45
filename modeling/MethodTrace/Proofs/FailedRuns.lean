import MethodTrace.Proofs.ConfinedUnits

/-!
What runs that fail leave of the output and of the manifest.

A run that fails before it saves its manifest has changed neither of them, except that the manifest
may be gone. When the manifest cannot be saved, the output has been replaced already.
-/

namespace MethodTrace

open Workspace (Touches Clears)

namespace Workspace

instance (places : Set Place) : Std.Refl (Clears places) := ⟨.refl places⟩

instance (places : Set Place) : IsTrans Workspace (Clears places) := ⟨fun _ _ _ => .trans⟩

variable {v w : Workspace} {path : String}

theorem Changes.fileAt?_eq {places : Set Place} (h : Changes places v w)
    (hp : Place.named path ∉ places) : w.fileAt? path = v.fileAt? path := by
  apply Option.ext
  intro bytes
  rw [fileAt?_eq_some_iff, fileAt?_eq_some_iff]
  exact h.files _ hp bytes

/-- What arises by removal has the file as it was, or none. -/
theorem Shrinks.fileAt?_eq (h : Shrinks v w) (path : String) :
    w.fileAt? path = v.fileAt? path ∨ w.fileAt? path = none := by
  cases hf : w.fileAt? path with
  | none => exact .inr rfl
  | some bytes =>
    left
    rw [Workspace.fileAt?_eq_some_iff] at hf
    exact (Workspace.fileAt?_eq_some_iff.mpr (h _ _ hf)).symm

end Workspace

namespace Assembly

variable {assembly : Assembly} {path : String} {v w : Workspace} {error : ArchiveError}

/-- The temporary file of an archive is beside it and has a name that goes on behind a dot. -/
theorem named_temporaryPath (path : String) : ∃ base name,
    Place.named (temporaryPath path) = base ++ ["." ++ name ++ ".tmp"] ∧
      (Place.named path = base ∨ Place.named path = base ++ [name]) := by
  have beside (base name : String) (hs : '/' ∉ name.toList) :
      Place.named (Path.join base ("." ++ name ++ ".tmp"))
        = Place.named base ++ ["." ++ name ++ ".tmp"] := by
    have whole : '/' ∉ ("." ++ name ++ ".tmp").toList := by simp [hs]
    have long : 5 ≤ ("." ++ name ++ ".tmp").length := by
      rw [String.length_append, String.length_append]
      have : ".tmp".length = 4 := by decide
      have : ".".length = 1 := by decide
      omega
    have ne {text : String} (ht : text.length < 5) : "." ++ name ++ ".tmp" ≠ text := by
      rintro he
      rw [he] at long
      omega
    rw [Place.named_join (Path.isAbsolute_eq_false whole), Path.segments_of_not_mem whole,
      String.ofList_toList, List.foldl_cons, List.foldl_nil, Place.after, if_neg, if_neg]
    · exact ne (by decide)
    · rw [Path.isBlank_iff, not_or]
      exact ⟨ne (by decide), ne (by decide)⟩
  unfold temporaryPath Path.withFileName
  cases hn : Path.fileName? path with
  | none =>
    refine ⟨Place.named path, "", ?_, .inl rfl⟩
    exact beside path "" (by decide)
  | some name =>
    obtain ⟨hs, up⟩ := Path.fileName?_eq_some hn
    have mem : name ∈ Path.steps path := by
      rw [hs]
      simp
    obtain ⟨directory, hp⟩ : ∃ directory, Path.parent? path = some directory := by
      rw [← Option.isSome_iff_exists, Option.isSome_iff_ne_none]
      intro none
      rw [Path.parent?_eq_none none] at mem
      cases mem
    refine ⟨Place.named directory, name, ?_, .inr ?_⟩
    · rw [hp]
      exact beside directory name (Path.not_mem_of_mem_segments (List.mem_of_mem_filter mem))
    · rw [Place.named_eq, hs, List.foldl_append, ← (Path.parent?_eq_some hp).1,
        ← Place.origin_of_parent? hp, ← Place.named_eq, List.foldl_cons, List.foldl_nil,
        Place.after, if_neg (by simp [Path.isBlank_of_mem_steps mem]), if_neg up]

theorem named_temporaryPath_ne (path : String) :
    Place.named (temporaryPath path) ≠ Place.named path := by
  obtain ⟨base, name, ht, hp⟩ := named_temporaryPath path
  intro he
  rcases hp with hp | hp
  · rw [ht, hp] at he
    simp at he
  · rw [ht, hp] at he
    have same := congrArg String.length (List.singleton_inj.mp (List.append_cancel_left he))
    rw [String.length_append, String.length_append] at same
    have : ".".length = 1 := by decide
    omega

theorem named_temporaryPath_ne_manifest (path directory : String) :
    Place.named (temporaryPath path) ≠ Place.named (Manifest.pathIn directory) := by
  obtain ⟨base, name, ht, _⟩ := named_temporaryPath path
  rw [ht, Manifest.named_pathIn]
  intro he
  have same := congrArg String.toList (List.singleton_inj.mp (List.append_inj_right' he rfl))
  simp at same

/-- An archive that is not published has changed nothing but its temporary file. -/
theorem touches_of_fails_publish {e : ArchiveError} (h : Fails (assembly.publish path) v e w) :
    Touches {Place.named (temporaryPath path)} {place | place ∈ Place.trail (temporaryPath path)}
      v w := by
  have written (error : ArchiveError) (bytes : Bytes) :
      Leaves (Touches {Place.named (temporaryPath path)}
        {place | place ∈ Place.trail (temporaryPath path)})
        (Action.change error (·.write (temporaryPath path) bytes)) :=
    Action.leaves_change fun v w h =>
      (Workspace.touches_write h).mono (Set.Subset.refl _) (Set.empty_subset _)
  have wrote : Leaves (Touches {Place.named (temporaryPath path)}
      {place | place ∈ Place.trail (temporaryPath path)}) (assembly.writeTo (temporaryPath path)) :=
    (written _ _).bind fun _ => (Leaves.liftM _).bind fun _ => written _ _
  unfold publish at h
  extract_lets temporary rest at h
  have final : ∀ s, Fails (rest ()) s e w → Touches {Place.named temporary}
      {place | place ∈ Place.trail temporary} s w := by
    intro s h
    rcases Fails.bind_iff.mp h with h | ⟨_, _, _, h⟩
    · obtain ⟨d, u, hr, h⟩ := Fails.of_tryCatch h
      have replaced : Touches {Place.named temporary} {place | place ∈ Place.trail temporary} s u := by
        rcases Fails.bind_iff.mp hr with hw | ⟨_, t, hw, hm⟩
        · exact wrote.of_fails hw
        · obtain ⟨_, _, rfl⟩ := Action.fails_change_iff.mp hm
          exact wrote.of_runs hw
      have cleaned : Leaves (Touches {Place.named temporary}
          {place | place ∈ Place.trail temporary})
          (Action.changeIfPossible (·.remove temporary) : Action ArchiveError Unit) :=
        Action.leaves_changeIfPossible fun v w h => (Workspace.touches_remove h).mono
          (Set.Subset.refl _) (Set.empty_subset _)
      exact IsTrans.trans _ _ _ replaced ((cleaned.bind fun _ => .throw d).of_fails h)
    · exact (Fails.pure_iff.mp h).elim
  split at h
  next directory hp =>
    have made := (Action.leaves_createDirectories (ArchiveError.io directory) directory).mono
      fun v w h => h.mono (Set.empty_subset {Place.named temporary})
        fun place hm => .inr (Place.mem_trail_of_parent? hp hm)
    rcases Fails.bind_iff.mp h with h | ⟨_, s, hd, h⟩
    · exact made.of_fails h
    · exact IsTrans.trans _ _ _ (made.of_runs hd) (final s h)
  next => exact final v h

end Assembly

/-- A manifest that is not saved has changed nothing but its temporary file. -/
theorem Manifest.touches_of_fails_save {manifest : Manifest} {directory : String}
    {v w : Workspace} {e : CacheError} (h : Fails (manifest.save directory) v e w) :
    Touches {Place.named (temporaryPathIn directory)} {place | place ∈ Place.trail directory}
      v w := by
  have made := (Action.leaves_createDirectories (CacheError.io directory) directory).mono
    fun v w h => h.mono (Set.empty_subset {Place.named (temporaryPathIn directory)})
      (fun place hm => .inr hm)
  have written : Leaves (Touches {Place.named (temporaryPathIn directory)}
      {place | place ∈ Place.trail directory})
      (Action.change (CacheError.io (temporaryPathIn directory))
        (·.write (temporaryPathIn directory) (Bytes.ofString manifest.toJson.pretty))) :=
    Action.leaves_change fun v w h =>
      (Workspace.touches_write h).mono (Set.Subset.refl _) (Set.empty_subset _)
  unfold save at h
  rcases Fails.bind_iff.mp h with h | ⟨_, s, hd, h⟩
  · exact made.of_fails h
  · refine IsTrans.trans _ _ _ (made.of_runs hd) ?_
    rcases Fails.bind_iff.mp h with h | ⟨_, t, hw, h⟩
    · exact written.of_fails h
    · obtain ⟨_, _, rfl⟩ := Action.fails_change_iff.mp h
      exact written.of_runs hw

/-- What is kept is only removed by a reset, however it ends. -/
theorem Cache.leaves_reset (cache : Cache) :
    Leaves (Clears (placesIn cache.directory)) cache.reset := by
  have removed : Leaves (Clears (placesIn cache.directory)) (Manifest.remove cache.directory) :=
    Action.leaves_clear fun v w h =>
      (Workspace.clears_remove h).mono fun place hp => .inr hp
  have cleared : Leaves (Clears (placesIn cache.directory)) cache.store.clear :=
    Action.leaves_clear fun v w h =>
      (Workspace.clears_removeTree h).mono fun place hp => .inl hp
  exact removed.bind fun _ => cleared.bind fun _ => .pure _

namespace Invocation

variable {invocation : Invocation} {filter : TagFilter} {cache : Cache} {detection : Detection}
  {error : RunError} {u v w : Workspace}

/-- The steps of a run. -/
inductive Step
  | settings
  | reset
  | detection
  | tasks
  | output
  | manifest
  deriving DecidableEq

/-- A run that fails in one of its steps, with its error and what it leaves. -/
inductive Breaks (invocation : Invocation) (v : Workspace) : Step → RunError → Workspace → Prop
  | settings {error : RunError} : invocation.checkedFilter = .error error →
    Breaks invocation v .settings error v
  | reset {filter : TagFilter} {error : CacheError} {w : Workspace} :
    invocation.previous? filter v = none → Fails (invocation.kept v).reset v error w →
    Breaks invocation v .reset (.cache error) w
  | detection {filter : TagFilter} {cache : Cache} {u : Workspace} {error : RunError} :
    invocation.Begun filter v cache u →
    detect u invocation cache (invocation.previous? filter v).isNone = .error error →
    Breaks invocation v .detection error u
  | tasks {filter : TagFilter} {cache : Cache} {u : Workspace} {detection : Detection}
    {error : RunError} {w : Workspace} : invocation.Begun filter v cache u →
    detect u invocation cache (invocation.previous? filter v).isNone = .ok detection →
    Fails ((invocation.context filter).runTasks detection.changes.actionable) u error w →
    Breaks invocation v .tasks error w
  | output {filter : TagFilter} {cache : Cache} {u : Workspace} {detection : Detection}
    {outcomes : List TaskOutcome} {s : Workspace} {error : RunError} {w : Workspace} :
    invocation.Begun filter v cache u →
    detect u invocation cache (invocation.previous? filter v).isNone = .ok detection →
    Runs ((invocation.context filter).runTasks detection.changes.actionable) u outcomes s →
    Fails (invocation.writeOutput (invocation.context filter).store
      (invocation.previous? filter v) outcomes) s error w →
    Breaks invocation v .output error w
  | manifest {filter : TagFilter} {cache : Cache} {u : Workspace} {detection : Detection}
    {outcomes : List TaskOutcome} {s : Workspace} {entries : Nat} {t : Workspace}
    {error : CacheError} {w : Workspace} : invocation.Begun filter v cache u →
    detect u invocation cache (invocation.previous? filter v).isNone = .ok detection →
    Runs ((invocation.context filter).runTasks detection.changes.actionable) u outcomes s →
    Runs (invocation.writeOutput (invocation.context filter).store
      (invocation.previous? filter v) outcomes) s entries t →
    Fails ((invocation.manifest filter detection.fingerprints).save invocation.intermediate)
      t error w →
    Breaks invocation v .manifest (.cache error) w

/-- A run that fails does so in one of its steps. -/
theorem exists_breaks (h : Fails invocation.run v error w) :
    ∃ step, invocation.Breaks v step error w := by
  unfold run at h
  rcases Fails.liftM_bind_iff.mp h with ⟨hf, rfl⟩ | ⟨filter, _, h⟩
  · exact ⟨_, .settings hf⟩
  extract_lets settings at h
  have h := Fails.get_bind_iff.mp h
  extract_lets kept previous full rest at h
  have work (cache : Cache) (u : Workspace) (begun : invocation.Begun filter v cache u)
      (hr : Fails (rest cache) u error w) : ∃ step, invocation.Breaks v step error w := by
    have store : cache.store = (invocation.context filter).store := by
      rw [Cache.store, begun.directory, begun.version]
      rfl
    rcases Action.fails_look_bind_iff.mp hr with ⟨hd, rfl⟩ | ⟨detection, hd, hr⟩
    · exact ⟨_, .detection begun hd⟩
    rw [store] at hr
    rcases Fails.bind_iff.mp hr with ht | ⟨outcomes, s, ht, hr⟩
    · exact ⟨_, .tasks begun hd ht⟩
    rcases Fails.bind_iff.mp hr with hw | ⟨entries, t, hw, hr⟩
    · exact ⟨_, .output begun hd ht hw⟩
    rcases Fails.bind_iff.mp hr with hc | ⟨last, x, _, hr⟩
    · obtain ⟨fault, hcommit, rfl⟩ := Fails.adapt_iff.mp hc
      rcases Fails.bind_iff.mp hcommit with hs | ⟨_, _, _, hs⟩
      · exact ⟨_, .manifest begun hd ht hw (begun.directory ▸ hs)⟩
      · exact (Fails.pure_iff.mp hs).elim
    · exact (Fails.pure_iff.mp hr).elim
  split at h
  next hfull =>
    have none : invocation.previous? filter v = none := Option.isNone_iff_eq_none.mp hfull
    rcases Fails.bind_iff.mp h with h | ⟨cache, u, hr, h⟩
    · obtain ⟨fault, hreset, rfl⟩ := Fails.adapt_iff.mp h
      exact ⟨_, .reset none hreset⟩
    · have hreset := Runs.adapt_iff.mp hr
      obtain ⟨rfl, _⟩ := Cache.clears_reset hreset
      exact work _ u ⟨rfl, rfl, fun _ => hreset, fun hs => by simp [none] at hs⟩ h
  next hfull =>
    refine work kept v ⟨rfl, rfl, fun hn => ?_, fun _ => ⟨rfl, rfl⟩⟩ h
    exact absurd (Option.isNone_iff_eq_none.mpr hn) hfull

theorem Begun.clears (h : invocation.Begun filter v cache u) :
    Clears (Cache.placesIn invocation.intermediate) v u := by
  cases hp : invocation.previous? filter v with
  | none => exact (Cache.clears_reset (h.reset hp)).2
  | some archive =>
    obtain ⟨_, rfl⟩ := h.kept (by simp [hp])
    exact .refl _ _

/-- The places of the output and of the manifest. -/
def results (invocation : Invocation) : Set Place :=
  {Place.named invocation.output, Place.named (Manifest.pathIn invocation.intermediate)}

/-- The output is none of the files that are kept between runs, and no unit that the previous run
has kept is stored in the place of the output or of the manifest. -/
structure Separate (invocation : Invocation) (v : Workspace) : Prop where
  output : Place.named invocation.output ∉ Cache.placesIn invocation.intermediate
  temporary : Place.named invocation.output
    ≠ Place.named (Manifest.temporaryPathIn invocation.intermediate)
  units : ∀ identity, (invocation.kept v).fingerprints[identity]?.isSome = true →
    Place.named ((UnitStore.ofDirectory invocation.intermediate toolVersion).unitPath identity)
      ∉ invocation.results

theorem Begun.fingerprints (h : invocation.Begun filter v cache u)
    (hp : (invocation.previous? filter v).isNone = false) : cache = invocation.kept v :=
  (h.kept (by simpa using hp)).1

/-- No task stores anything in the place of a result. -/
theorem Separate.not_mem_placesOf (apart : invocation.Separate v)
    (begun : invocation.Begun filter v cache u)
    (hd : detect u invocation cache (invocation.previous? filter v).isNone = .ok detection)
    {place : Place} (hp : place ∈ invocation.results) :
    place ∉ (invocation.context filter).store.placesOf detection.changes.actionable := by
  rintro ⟨unit, hu, rfl⟩
  rcases Detection.normal_or_kept hd (ChangeSet.mem_units_iff.mpr (.inl hu)) with normal | ⟨hf, hk⟩
  · have below := @UnitStore.below_unitPath (invocation.context filter).store _ normal
    rcases hp with he | he
    · exact apart.output (.inl (he ▸ below))
    · rw [show _ = Place.named (Manifest.pathIn _) from he, Manifest.named_pathIn] at below
      have root : Place.named (invocation.context filter).store.root
          = Place.named invocation.intermediate ++ ["units"] :=
        Place.named_join_of_isStep (by decide)
      rw [root, List.prefix_append_right_inj] at below
      exact absurd below (by decide)
  · rw [begun.fingerprints hf] at hk
    exact apart.units _ hk hp

/-- What an archive is made to hold is found out without a change. -/
theorem leaves_applyOutcomes (store : UnitStore) (start : Assembly) (outcomes : List TaskOutcome) :
    Leaves Eq (outcomes.foldlM (applyOutcome store) start) := by
  refine .foldlM (fun assembly outcome _ => ?_) start
  unfold applyOutcome
  extract_lets cleared
  split
  · exact (Action.leaves_look _).bind fun _ => .pure _
  · exact .pure _

/-- The output is as it was, and so is the manifest unless it has been removed. -/
structure Spares (invocation : Invocation) (v w : Workspace) : Prop where
  manifest : w.fileAt? (Manifest.pathIn invocation.intermediate)
      = v.fileAt? (Manifest.pathIn invocation.intermediate) ∨
    w.fileAt? (Manifest.pathIn invocation.intermediate) = none
  output : w.fileAt? invocation.output = v.fileAt? invocation.output

theorem Spares.touches {changed opened : Set Place} (h : invocation.Spares v u)
    (change : Touches changed opened u w)
    (apart : ∀ place ∈ invocation.results, place ∉ changed) : invocation.Spares v w := by
  constructor
  · rw [change.fileAt?_eq (apart _ (.inr rfl))]
    exact h.manifest
  · rw [change.fileAt?_eq (apart _ (.inl rfl))]
    exact h.output

theorem Separate.spares_of_clears (apart : invocation.Separate v)
    (h : Clears (Cache.placesIn invocation.intermediate) v w) : invocation.Spares v w :=
  ⟨h.shrinks.fileAt?_eq _, h.touches.fileAt?_eq apart.output⟩

theorem Separate.spares_of_tasks {detection : Detection} (apart : invocation.Separate v)
    (begun : invocation.Begun filter v cache u)
    (hd : detect u invocation cache (invocation.previous? filter v).isNone = .ok detection)
    (ht : Touches ((invocation.context filter).store.placesOf detection.changes.actionable)
      ((invocation.context filter).waysTo detection.changes.actionable) u w) :
    invocation.Spares v w :=
  (apart.spares_of_clears begun.clears).touches ht fun _ hp => apart.not_mem_placesOf begun hd hp

/-- The temporary file of the output is in the place of no result. -/
theorem ne_of_mem_results {place : Place} (hp : place ∈ invocation.results) :
    place ∉ ({Place.named (Assembly.temporaryPath invocation.output)} : Set Place) := by
  rintro rfl
  rcases hp with he | he
  · exact Assembly.named_temporaryPath_ne _ he
  · exact Assembly.named_temporaryPath_ne_manifest _ _ he

/-- An output that is not written has changed nothing but its temporary file. -/
theorem touches_of_fails_writeOutput {store : UnitStore} {previous : Option Archive}
    {outcomes : List TaskOutcome} (h : Fails (invocation.writeOutput store previous outcomes) v
      error w) :
    Touches {Place.named (Assembly.temporaryPath invocation.output)}
      {place | place ∈ Place.trail (Assembly.temporaryPath invocation.output)} v w := by
  have published {start : Assembly} (h : Fails (do
      let assembly ← outcomes.foldlM (applyOutcome store) start
      (assembly.publish invocation.output).adapt .archive) v error w) :
      Touches {Place.named (Assembly.temporaryPath invocation.output)}
        {place | place ∈ Place.trail (Assembly.temporaryPath invocation.output)} v w := by
    rcases Fails.bind_iff.mp h with h | ⟨assembly, s, ha, h⟩
    · obtain rfl := (leaves_applyOutcomes store start outcomes).of_fails h
      exact Std.Refl.refl _
    · obtain rfl := (leaves_applyOutcomes store start outcomes).of_runs ha
      obtain ⟨fault, hp, _⟩ := Fails.adapt_iff.mp h
      exact Assembly.touches_of_fails_publish hp
  unfold writeOutput at h
  extract_lets settings at h
  split at h
  · exact (Fails.pure_iff.mp h).elim
  · exact published h

/-- An output that is written stays as it was or is published. -/
theorem publishes_of_writeOutput {store : UnitStore} {previous : Option Archive}
    {outcomes : List TaskOutcome} {entries : Nat}
    (h : Runs (invocation.writeOutput store previous outcomes) v entries w) :
    w = v ∨ ∃ assembly : Assembly, Runs (assembly.publish invocation.output) v entries w := by
  unfold writeOutput at h
  extract_lets settings at h
  split at h
  · exact .inl (Runs.pure_iff.mp h).2
  · obtain ⟨assembly, s, ha, hp⟩ := Runs.bind_iff.mp h
    obtain rfl := (leaves_applyOutcomes _ _ _).of_runs ha
    exact .inr ⟨assembly, Runs.adapt_iff.mp hp⟩

/-- A run that cannot build on a previous one fails if its manifest cannot be saved. -/
theorem fails_rebuild {outcomes : List TaskOutcome} {count : Nat} {s t : Workspace}
    {fault : CacheError} (hf : invocation.checkedFilter = .ok filter)
    (hp : invocation.previous? filter v = none)
    (hr : Runs (invocation.kept v).reset v ⟨invocation.intermediate, toolVersion, .unknown⟩ u)
    (hd : detect u invocation ⟨invocation.intermediate, toolVersion, .unknown⟩ true
      = .ok detection)
    (ht : Runs ((invocation.context filter).runTasks detection.changes.actionable) u outcomes s)
    (hw : Runs (invocation.writeOutput (invocation.context filter).store none outcomes) s count t)
    (hs : Fails ((invocation.manifest filter detection.fingerprints).save invocation.intermediate)
      t fault w) : Fails invocation.run v (.cache fault) w := by
  unfold run
  refine Fails.liftM_bind_iff.mpr (.inr ⟨filter, hf, Fails.get_bind_iff.mpr ?_⟩)
  have found : previousOutput? v invocation
      (Cache.ofDirectory v invocation.intermediate toolVersion)
      (invocation.settings.fingerprint filter) = none := hp
  dsimp only
  rw [found]
  refine Fails.bind_iff.mpr (.inr ⟨_, u, Runs.adapt_iff.mpr hr, ?_⟩)
  refine Action.fails_look_bind_iff.mpr (.inr ⟨detection, hd, ?_⟩)
  refine Fails.bind_iff.mpr (.inr ⟨outcomes, s, ht, Fails.bind_iff.mpr (.inr ⟨count, t, hw, ?_⟩)⟩)
  refine Fails.bind_iff.mpr (.inl (Fails.adapt_iff.mpr ⟨fault, ?_, rfl⟩))
  exact Fails.bind_iff.mpr (.inl hs)

/-- A workspace with a directory in the place of the temporary file of the manifest. -/
def blocked : Workspace :=
  bare.insert ["m", "fingerprints.json.tmp"] .directory

theorem node?_blocked (place : Place) : blocked.node? place =
    if place = ["m", "fingerprints.json.tmp"] then some .directory else bare.node? place :=
  Workspace.node?_insert (by decide) place

theorem offers_blocked {path : String} (h : bare.Offers path)
    (hp : Place.named path ≠ ["m", "fingerprints.json.tmp"]) : blocked.Offers path := by
  have free : bare.node? ["m", "fingerprints.json.tmp"] = none := by cbv
  refine ⟨(Workspace.changes_insert_directory free).directories.reaches h.reaches, ?_⟩
  rw [node?_blocked, if_neg hp]
  exact h.free

theorem manifest_blocked : blocked.Offers (Manifest.pathIn "m") ∧
    blocked.node? (Place.named (Manifest.pathIn "m")) = none := by
  have named := Workspace.Ready.named_manifest
  refine ⟨offers_blocked ready_bare.offers_manifest (by rw [named]; decide), ?_⟩
  rw [named, node?_blocked, if_neg (by decide)]
  cbv

theorem kept_blocked : withoutInputs.kept blocked = ⟨"m", toolVersion, .unknown⟩ := by
  obtain ⟨offered, absent⟩ := manifest_blocked
  have found : Manifest.find blocked "m" = .ok none := by
    unfold Manifest.find
    dsimp only
    rw [Workspace.read_of_none offered.reaches absent]
  change Cache.ofDirectory blocked "m" toolVersion = _
  unfold Cache.ofDirectory
  rw [found]

theorem runs_reset_blocked : Runs (withoutInputs.kept blocked).reset blocked
    ⟨"m", toolVersion, .unknown⟩ blocked := by
  obtain ⟨offered, absent⟩ := manifest_blocked
  have named : Place.named (Path.join "m" "units") = ["m", "units"] := by cbv
  have bare_units : bare.Offers (Path.join "m" "units") := by
    refine ⟨ready_bare.reaches_in_m (by decide) (by decide) (by cbv), ?_⟩
    rw [named]
    decide +kernel
  have units := offers_blocked bare_units (by rw [named]; decide)
  have none : blocked.node? (Place.named (Path.join "m" "units")) = none := by
    rw [named, node?_blocked, if_neg (by decide)]
    cbv
  rw [kept_blocked]
  exact Cache.runs_reset (Workspace.remove_of_none offered.reaches absent)
    (Workspace.removeTree_of_none units.reaches none)

theorem runs_publish_blocked :
    Runs ((Assembly.empty withoutInputs.settings.archive).publish "o") blocked 0
      (blocked.published noEntries) := by
  have output : Place.named "o" = ["o"] := by cbv
  have beside : Place.named ".o.tmp" = [".o.tmp"] := by cbv
  refine Workspace.runs_publish_of_offers ?_ ?_ (by cbv)
  · exact offers_blocked ready_bare.offers_temporary (by rw [beside]; decide)
  · exact offers_blocked ready_bare.offers_output (by rw [output]; decide)

/-- Without inputs, a run publishes an archive before it fails to save its manifest. -/
theorem fails_blocked : ∃ error w, Fails withoutInputs.run blocked error w ∧
    w.fileAt? "o" = some noEntries := by
  have node (place : Place) : (blocked.published noEntries).node? place =
      if place = ["o"] then some (.file noEntries)
      else if place = [".o.tmp"] then none else blocked.node? place := by
    rw [Workspace.published, Workspace.node?_insert (by decide), Workspace.node?_erase (by decide)]
  generalize ht : blocked.published noEntries = t at node
  have directory : t.node? ["m"] = some .directory := by
    rw [node, if_neg (by decide), if_neg (by decide), node?_blocked, if_neg (by decide)]
    exact ready_bare.directory
  have taken : ∀ w, t.write (Manifest.temporaryPathIn "m")
      (withoutInputs.manifest noFilter ∅).fileBytes ≠ .ok w := by
    intro w hw
    refine (Workspace.write_eq_ok_iff.mp hw).2.1 ?_
    rw [Workspace.Ready.named_next, node, if_neg (by decide), if_neg (by decide), node?_blocked,
      if_pos rfl]
  have save : Fails ((withoutInputs.manifest noFilter ∅).save "m") t
      (.io (Manifest.temporaryPathIn "m")) t := by
    refine Fails.bind_iff.mpr (.inr ⟨⟨⟩, t, ?_, Fails.bind_iff.mpr (.inl ?_)⟩)
    · exact Action.runs_createDirectories_of_isStep Workspace.Ready.isStep_m (by decide) (by cbv)
        (by cbv) directory
    · refine Action.fails_change_iff.mpr ⟨?_, rfl, rfl⟩
      cases hw : t.write (Manifest.temporaryPathIn "m")
          (withoutInputs.manifest noFilter ∅).fileBytes with
      | error fault => exact ⟨fault, hw⟩
      | ok w => exact absurd hw (taken w)
  have write : Runs (withoutInputs.writeOutput (withoutInputs.context noFilter).store none [])
      blocked 0 t :=
    Runs.bind_iff.mpr ⟨_, blocked, Runs.pure_iff.mpr ⟨rfl, rfl⟩,
      Runs.adapt_iff.mpr (ht ▸ runs_publish_blocked)⟩
  have run := @fails_rebuild withoutInputs noFilter ⟨{}, ∅⟩ blocked blocked t [] 0 blocked t _
    checkedFilter_withoutInputs rfl runs_reset_blocked (detect_withoutInputs (.inl rfl) (.inl rfl))
    (TaskContext.runs_runTasks_nil _ _) write save
  refine ⟨_, t, run, Workspace.fileAt?_eq_some_iff.mpr ?_⟩
  rw [show Place.named "o" = ["o"] by cbv, node, if_pos rfl]

/-- A failed run leaves the manifest as it was or removes it. It leaves the output as it was, except
that all of a new archive is there if the run fails when it saves the manifest. -/
theorem results_of_fails (apart : invocation.Separate v) (h : Fails invocation.run v error w) :
    ∃ step, invocation.Breaks v step error w ∧
      (w.fileAt? (Manifest.pathIn invocation.intermediate)
          = v.fileAt? (Manifest.pathIn invocation.intermediate) ∨
        w.fileAt? (Manifest.pathIn invocation.intermediate) = none) ∧
      (w.fileAt? invocation.output = v.fileAt? invocation.output ∨
        step = .manifest ∧ ∃ entries, (Archive.ofMap entries).Fits ∧
          w.fileAt? invocation.output = some (Archive.ofMap entries).toBytes) := by
  obtain ⟨step, breaks⟩ := exists_breaks h
  refine ⟨step, breaks, ?_⟩
  cases breaks with
  | settings _ => exact ⟨.inl rfl, .inl rfl⟩
  | reset _ hr =>
    have cleared := (Cache.leaves_reset (invocation.kept v)).of_fails hr
    have spared := apart.spares_of_clears cleared
    exact ⟨spared.manifest, .inl spared.output⟩
  | detection begun _ =>
    have spared := apart.spares_of_clears begun.clears
    exact ⟨spared.manifest, .inl spared.output⟩
  | tasks begun hd ht =>
    have touched := (TaskContext.leaves_runTasks _ _).of_fails ht
    have spared := apart.spares_of_tasks begun hd touched
    exact ⟨spared.manifest, .inl spared.output⟩
  | output begun hd ht hw =>
    have touched := (TaskContext.leaves_runTasks _ _).of_runs ht
    have done := apart.spares_of_tasks begun hd touched
    have spared := done.touches (touches_of_fails_writeOutput hw) fun _ => ne_of_mem_results
    exact ⟨spared.manifest, .inl spared.output⟩
  | manifest begun hd ht hw hs =>
    have touched := (TaskContext.leaves_runTasks _ _).of_runs ht
    have done := apart.spares_of_tasks begun hd touched
    have saving := Manifest.touches_of_fails_save hs
    have unsaved : ∀ place ∈ invocation.results,
        place ∉ ({Place.named (Manifest.temporaryPathIn invocation.intermediate)} : Set Place) := by
      rintro place (rfl | rfl)
      · exact apart.temporary
      · exact (Manifest.named_temporaryPathIn_ne _).symm
    rcases publishes_of_writeOutput hw with rfl | ⟨assembly, hp⟩
    · have spared := done.touches saving unsaved
      exact ⟨spared.manifest, .inl spared.output⟩
    · obtain ⟨read, fits, changes⟩ := Assembly.publish_runs hp
      have other : Place.named (Manifest.pathIn invocation.intermediate)
          ∉ ({Place.named (Assembly.temporaryPath invocation.output),
            Place.named invocation.output} : Set Place) := by
        rintro (he | he)
        · exact ne_of_mem_results (.inr rfl) he
        · exact apart.output (.inr he.symm)
      refine ⟨?_, .inr ⟨rfl, assembly.built, fits, ?_⟩⟩
      · rw [saving.fileAt?_eq (unsaved _ (.inr rfl)), changes.fileAt?_eq other]
        exact done.manifest
      · rw [saving.fileAt?_eq (unsaved _ (.inl rfl))]
        exact Workspace.fileAt?_eq_some_iff.mpr (Workspace.read_eq_ok_iff.mp read).2

theorem separate_blocked : withoutInputs.Separate blocked := by
  have output : Place.named withoutInputs.output = ["o"] := by cbv
  have units : Place.named (Path.join withoutInputs.intermediate "units") = ["m", "units"] := by
    cbv
  constructor
  · rw [output]
    rintro (hp | hp)
    · rw [units] at hp
      exact absurd hp (by decide)
    · exact absurd (hp.trans Workspace.Ready.named_manifest) (by decide)
  · rw [output]
    exact fun he => absurd (he.trans Workspace.Ready.named_next) (by decide)
  · intro identity hk
    rw [kept_blocked] at hk
    simp [Cache.fingerprints] at hk

/-- What a run leaves that cannot save its manifest. -/
theorem results_of_fails_blocked : ∃ error w, Fails withoutInputs.run blocked error w ∧
    ∃ step, withoutInputs.Breaks blocked step error w ∧
      (w.fileAt? (Manifest.pathIn "m") = blocked.fileAt? (Manifest.pathIn "m") ∨
        w.fileAt? (Manifest.pathIn "m") = none) ∧
      (w.fileAt? "o" = blocked.fileAt? "o" ∨
        step = .manifest ∧ ∃ entries, (Archive.ofMap entries).Fits ∧
          w.fileAt? "o" = some (Archive.ofMap entries).toBytes) := by
  obtain ⟨error, w, fails, _⟩ := fails_blocked
  exact ⟨error, w, fails, results_of_fails separate_blocked fails⟩

/-- A directory in the place of the temporary file of the manifest makes a run fail that has
published its output. -/
theorem not_results_of_fails : ¬∀ (invocation : Invocation) (v : Workspace) (error : RunError)
    (w : Workspace), Fails invocation.run v error w →
      w.fileAt? invocation.output = v.fileAt? invocation.output ∧
      (w.fileAt? (Manifest.pathIn invocation.intermediate)
          = v.fileAt? (Manifest.pathIn invocation.intermediate) ∨
        w.fileAt? (Manifest.pathIn invocation.intermediate) = none) := by
  intro claim
  obtain ⟨error, w, fails, published⟩ := fails_blocked
  obtain ⟨same, _⟩ := claim withoutInputs blocked error w fails
  have absent : blocked.fileAt? "o" = none := by
    have output : Place.named "o" = ["o"] := by cbv
    have none : blocked.node? ["o"] = none := by
      rw [node?_blocked, if_neg (by decide)]
      cbv
    rw [Workspace.fileAt?, output, none]
  rw [show withoutInputs.output = "o" from rfl, published, absent] at same
  cases same

end Invocation

end MethodTrace
