import MethodTrace.Proofs.RunResults

/-!
Steps of a run that succeed, and what they leave.
-/

namespace MethodTrace

namespace Workspace

variable {w : Workspace} {path step : String} {place : Place} {bytes : Bytes}

/-- A path at which a file can be written. -/
structure Offers (w : Workspace) (path : String) : Prop where
  reaches : w.Reaches path
  free : w.node? (Place.named path) ≠ some .directory

theorem follow_step (hd : w.node? place = some .directory) (hs : Identity.IsStep step)
    (size : step.utf8ByteSize ≤ maxName) : w.follow place step = .ok (place ++ [step]) := by
  have blank : Path.isBlank step = false := by simp [Path.isBlank, hs.ne_empty, hs.ne_dot]
  unfold follow
  rw [hd]
  simp [blank, hs.ne_up, Nat.not_lt.mpr size]

/-- A step in the working directory can be taken. -/
theorem reaches_of_isStep (hs : Identity.IsStep step) (size : step.utf8ByteSize ≤ maxName)
    (short : isBadPath step = false) : w.Reaches step := by
  have relative := Path.isAbsolute_eq_false hs.slash_not_mem
  have top : w.node? [] = some .directory := by simp [node?, Place.isTop]
  have named := Place.named_of_isStep hs
  unfold Reaches Workspace.place followAll
  rw [if_neg hs.ne_empty, short, relative, Path.segments_of_not_mem hs.slash_not_mem, named,
    String.ofList_toList]
  exact Except.bind_eq_ok_iff.mpr ⟨_, follow_step top hs size, rfl⟩

/-- A step behind a path can be taken where that leads to a directory. -/
theorem reaches_join {base : String} (hr : w.Reaches base) (he : base.endsWith "/" = false)
    (hd : w.node? (Place.named base) = some .directory) (hs : Identity.IsStep step)
    (size : step.utf8ByteSize ≤ maxName) (short : isBadPath (Path.join base step) = false) :
    w.Reaches (Path.join base step) := by
  have ne : base ≠ "" := by
    rintro rfl
    cases hr
  have relative := Path.isAbsolute_eq_false hs.slash_not_mem
  have joined : Path.join base step = base ++ "/" ++ step := by
    simp [Path.join, relative, ne, he]
  have cut : Path.segments (base ++ "/" ++ step).toList
      = Path.segments base.toList ++ [step] := by
    rw [String.toList_append, String.toList_append, List.append_assoc]
    have last : Path.segments step.toList = [step] := by
      rw [Path.segments_of_not_mem hs.slash_not_mem, String.ofList_toList]
    rw [← last]
    exact Path.segments_append_slash _ _
  have absolute : Path.isAbsolute (base ++ "/" ++ step) = Path.isAbsolute base := by
    rw [String.append_assoc, Place.isAbsolute_append ne]
  have nonempty : base ++ "/" ++ step ≠ "" := by
    intro h
    have := congrArg String.toList h
    simp at this
  unfold Reaches at hr ⊢
  rw [Place.named_join_of_isStep hs]
  rw [joined] at short ⊢
  unfold Workspace.place followAll at hr ⊢
  rw [if_neg ne] at hr
  rw [if_neg nonempty, short, cut, absolute, List.foldlM_append]
  split at hr
  · cases hr
  · exact Except.bind_eq_ok_iff.mpr ⟨_, hr,
      Except.bind_eq_ok_iff.mpr ⟨_, follow_step hd hs size, rfl⟩⟩

theorem Offers.insert_file (h : w.Offers path) (hp : w.node? place ≠ some .directory) :
    (w.insert place (.file bytes)).Offers path := by
  refine ⟨(changes_insert_file hp bytes).directories.reaches h.reaches, ?_⟩
  rw [node?_insert (isTop_eq_false hp)]
  split
  · simp
  · exact h.free

theorem Offers.write (h : w.Offers path) (bytes : Bytes) :
    w.write path bytes = .ok (w.insert (Place.named path) (.file bytes)) :=
  write_eq_ok_iff.mpr ⟨h.reaches, h.free, rfl⟩

theorem erase_insert (w : Workspace) (place : Place) (node : Node) :
    (w.insert place node).erase place = w.erase place := by
  have nodes : (w.nodes.insert place node).erase place = w.nodes.erase place := by
    apply Std.ExtTreeMap.ext_getElem?
    intro other
    rw [Std.ExtTreeMap.getElem?_erase, Std.ExtTreeMap.getElem?_erase]
    split
    · rfl
    next h => rw [Std.ExtTreeMap.getElem?_insert, if_neg h]
  exact congrArg Workspace.mk nodes

theorem insert_insert (w : Workspace) (place : Place) (first second : Node) :
    (w.insert place first).insert place second = w.insert place second := by
  have nodes : (w.nodes.insert place first).insert place second
      = w.nodes.insert place second := by
    apply Std.ExtTreeMap.ext_getElem?
    intro other
    simp only [Std.ExtTreeMap.getElem?_insert]
    split
    · rfl
    · rfl
  exact congrArg Workspace.mk nodes

theorem insert_comm (w : Workspace) {place other : Place} {node node' : Node}
    (h : place ≠ other) :
    (w.insert place node).insert other node' = (w.insert other node').insert place node := by
  have nodes : (w.nodes.insert place node).insert other node'
      = (w.nodes.insert other node').insert place node := by
    apply Std.ExtTreeMap.ext_getElem?
    intro key
    simp only [Std.ExtTreeMap.getElem?_insert, Std.LawfulEqCmp.compare_eq_iff_eq]
    grind
  exact congrArg Workspace.mk nodes

/-- A file in a directory in the working directory can be read. -/
theorem read_of_steps {root : String} (hr : Identity.IsStep root)
    (hs : Identity.IsStep step) (size : root.utf8ByteSize ≤ maxName)
    (size' : step.utf8ByteSize ≤ maxName) (plain : root.endsWith "/" = false)
    (short : isBadPath root = false) (short' : isBadPath (Path.join root step) = false)
    (hd : w.node? [root] = some .directory) (hf : w.node? [root, step] = some (.file bytes)) :
    w.read (Path.join root step) = .ok bytes := by
  have named := Place.named_of_isStep hr
  refine read_eq_ok_iff.mpr ⟨?_, ?_⟩
  · exact reaches_join (reaches_of_isStep hr size short) plain (named.symm ▸ hd) hs size' short'
  · rw [Place.named_join_of_isStep hs, named]
    exact hf

/-- A file that has been written can be moved to a path at which files can be written. -/
theorem Offers.rename {source : String} (hs : w.Offers source) (ht : w.Offers path)
    (bytes : Bytes) : (w.insert (Place.named source) (.file bytes)).rename source path
      = .ok ((w.erase (Place.named source)).insert (Place.named path) (.file bytes)) := by
  have top := isTop_eq_false hs.free
  have there : (w.insert (Place.named source) (.file bytes)).node? (Place.named source)
      = some (.file bytes) := by
    rw [node?_insert top, if_pos rfl]
  have reaches : (w.insert (Place.named source) (.file bytes)).Reaches source :=
    (hs.insert_file hs.free).reaches
  have removed := remove_eq_ok_iff.mpr ⟨reaches, ⟨bytes, there⟩, rfl⟩
  have keeps := (changes_remove removed).1.directories
  rw [erase_insert] at removed keeps
  have free : (w.erase (Place.named source)).node? (Place.named path) ≠ some .directory := by
    rw [node?_erase top]
    split
    · simp
    · exact ht.free
  have target := write_eq_ok_iff.mpr
    ⟨keeps.reaches (ht.insert_file hs.free).reaches, free, @rfl _ ((w.erase (Place.named source)).insert
      (Place.named path) (.file bytes))⟩
  unfold Workspace.rename
  refine Except.bind_eq_ok_iff.mpr ⟨_, read_eq_ok_iff.mpr ⟨reaches, there⟩, ?_⟩
  exact Except.bind_eq_ok_iff.mpr ⟨_, removed, target⟩

/-- A directory is made at the end of a path that can be followed, unless something is there. -/
theorem makeDirectory_of_reaches (hr : w.Reaches path)
    (whole : ((Path.segments path.toList).reverse.dropWhile (· == "")).reverse
      = Path.segments path.toList) :
    w.makeDirectory path = match w.node? (Place.named path) with
      | some .directory => .ok w
      | some (.file _) => .error .notDirectory
      | none => .ok (w.insert (Place.named path) .directory) := by
  have followed : w.followAll path (Path.segments path.toList) = .ok (Place.named path) := by
    unfold Reaches Workspace.place at hr
    split at hr
    · cases hr
    · exact hr
  unfold makeDirectory
  dsimp only
  rw [whole, followed]
  dsimp only [bind, Except.bind]
  cases w.node? (Place.named path) with
  | none => rfl
  | some node =>
    cases node with
    | directory => rfl
    | file bytes => rfl

end Workspace

theorem Action.runs_createDirectories {ε : Type} {error : ε} {path : String} {v w : Workspace}
    (hb : Workspace.isBadPath path = false)
    (hd : (Path.ancestors path).foldlM Workspace.makeDirectory v = .ok w) :
    Runs (createDirectories error path) v () w := by
  have each : ∀ (directories : List String) (v : Workspace),
      directories.foldlM Workspace.makeDirectory v = .ok w →
        Runs (directories.forM fun directory => change error (·.makeDirectory directory)) v () w := by
    intro directories
    induction directories with
    | nil =>
      intro v hd
      cases hd
      exact Runs.pure_iff.mpr ⟨rfl, rfl⟩
    | cons directory directories ih =>
      intro v hd
      obtain ⟨next, hm, hd⟩ := Except.bind_eq_ok_iff.mp hd
      exact Runs.bind_iff.mpr ⟨⟨⟩, next, change_iff.mpr hm, ih next hd⟩
  unfold createDirectories
  rw [hb]
  exact each _ _ hd

/-- A directory in the working directory need not be made where it is. -/
theorem Action.runs_createDirectories_of_isStep {ε : Type} {error : ε} {step : String}
    {w : Workspace} (hs : Identity.IsStep step) (size : step.utf8ByteSize ≤ Workspace.maxName)
    (short : Workspace.isBadPath step = false) (alone : Path.ancestors step = [step])
    (hd : w.node? [step] = some .directory) :
    Runs (createDirectories error step) w () w := by
  have relative := Path.isAbsolute_eq_false hs.slash_not_mem
  have segments : Path.segments step.toList = [step] := by
    rw [Path.segments_of_not_mem hs.slash_not_mem, String.ofList_toList]
  have named := Place.named_of_isStep hs
  have made : w.makeDirectory step = .ok w := by
    rw [Workspace.makeDirectory_of_reaches (Workspace.reaches_of_isStep hs size short), named, hd]
    rw [segments]
    simp [hs.ne_empty]
  refine runs_createDirectories short ?_
  rw [alone]
  exact Except.bind_eq_ok_iff.mpr ⟨w, made, rfl⟩

theorem Manifest.runs_save {manifest : Manifest} {directory : String} {w : Workspace}
    (hd : Runs (Action.createDirectories (CacheError.io directory) directory) w () w)
    (ht : w.Offers (temporaryPathIn directory)) (hp : w.Offers (pathIn directory)) :
    Runs (manifest.save directory) w ()
      ((w.erase (Place.named (temporaryPathIn directory))).insert (Place.named (pathIn directory))
        (.file manifest.fileBytes)) := by
  refine Runs.bind_iff.mpr ⟨⟨⟩, w, hd, ?_⟩
  refine Runs.bind_iff.mpr ⟨⟨⟩, _, Action.change_iff.mpr (ht.write manifest.fileBytes), ?_⟩
  exact Action.change_iff.mpr (ht.rename hp manifest.fileBytes)

theorem Assembly.runs_publish {assembly : Assembly} {path : String} {bytes : Bytes}
    {w : Workspace} (hd : ∀ directory, Path.parent? (temporaryPath path) = some directory →
      Runs (Action.createDirectories (ArchiveError.io directory) directory) w () w)
    (ht : w.Offers (temporaryPath path)) (hp : w.Offers path)
    (hb : assembly.toBytes (temporaryPath path) = .ok bytes) :
    Runs (assembly.publish path) w assembly.size
      ((w.erase (Place.named (temporaryPath path))).insert (Place.named path) (.file bytes)) := by
  have written : Runs (assembly.writeTo (temporaryPath path)) w ()
      (w.insert (Place.named (temporaryPath path)) (.file bytes)) := by
    refine Runs.bind_iff.mpr ⟨⟨⟩, _, Action.change_iff.mpr (ht.write []), ?_⟩
    refine Runs.liftM_bind_iff.mpr ⟨bytes, hb, Action.change_iff.mpr ?_⟩
    rw [(ht.insert_file ht.free).write, Workspace.insert_insert]
  have replaced : Runs (assembly.replace (temporaryPath path) path) w ()
      ((w.erase (Place.named (temporaryPath path))).insert (Place.named path) (.file bytes)) :=
    Runs.bind_iff.mpr ⟨⟨⟩, _, written, Action.change_iff.mpr (ht.rename hp bytes)⟩
  unfold publish
  extract_lets temporary rest
  have final : Runs (rest ()) w assembly.size
      ((w.erase (Place.named (temporaryPath path))).insert (Place.named path) (.file bytes)) :=
    Runs.bind_iff.mpr ⟨⟨⟩, _, Runs.tryCatch replaced, Runs.pure_iff.mpr ⟨rfl, rfl⟩⟩
  split
  next directory hp => exact Runs.bind_iff.mpr ⟨⟨⟩, w, hd directory hp, final⟩
  next => exact final

theorem UnitStore.runs_write {store : UnitStore} {identity directory : String} {content : Bytes}
    {v w : Workspace} (hp : Path.parent? (store.unitPath identity) = some directory)
    (hd : Runs (Action.createDirectories (CacheError.io directory) directory) v () w)
    (ho : w.Offers (store.unitPath identity)) :
    Runs (store.write identity content) v ()
      (w.insert (Place.named (store.unitPath identity))
        (.file (encode store.version content))) := by
  unfold write
  extract_lets path rest
  split
  next other h =>
    rw [hp] at h
    cases h
    exact Runs.bind_iff.mpr ⟨⟨⟩, w, hd, Action.change_iff.mpr (ho.write _)⟩
  next h => exact absurd hp (h directory)

theorem TaskContext.runs_runTask {context : TaskContext} {unit : BuildUnit} {content : Bytes}
    {traced : TracedUnit} {v w : Workspace} (hk : unit.kind.needsWrite = true)
    (hl : unit.load v = .ok content) (ht : context.trace unit.identity content = .ok traced)
    (hw : Runs (context.store.write unit.identity traced.bytes) v () w) :
    Runs (context.runTask unit) v ⟨unit.identity, unit.kind, traced.tags⟩ w := by
  have written : Runs (context.writeUnit unit) v ⟨unit.identity, unit.kind, traced.tags⟩ w := by
    refine Action.look_bind_iff.mpr ⟨content, hl, Runs.liftM_bind_iff.mpr ⟨traced, ht, ?_⟩⟩
    exact Runs.bind_iff.mpr ⟨(), w, Runs.adapt_iff.mpr hw, Runs.pure_iff.mpr ⟨rfl, rfl⟩⟩
  unfold runTask
  split
  next => exact written
  next => exact written
  next kind =>
    rw [kind] at hk
    cases hk
  next kind =>
    rw [kind] at hk
    cases hk

theorem TaskContext.runs_runTasks_nil (context : TaskContext) (w : Workspace) :
    Runs (context.runTasks []) w [] w := by
  refine Runs.bind_iff.mpr ⟨[], w, Runs.pure_iff.mpr ⟨rfl, rfl⟩, Runs.pure_iff.mpr ⟨?_, rfl⟩⟩
  simp

theorem TaskContext.runs_runTasks_singleton {context : TaskContext} {unit : BuildUnit}
    {outcome : TaskOutcome} {v w : Workspace} (h : Runs (context.runTask unit) v outcome w) :
    Runs (context.runTasks [unit]) v [outcome] w := by
  have each : Runs ([unit].mapM context.runTask) v [outcome] w :=
    Runs.mapM_cons_iff.mpr ⟨outcome, w, [], h, Runs.mapM_nil_iff.mpr ⟨rfl, rfl⟩, rfl⟩
  exact Runs.bind_iff.mpr ⟨_, w, each, Runs.pure_iff.mpr ⟨(List.mergeSort_singleton _).symm, rfl⟩⟩

/-- The cache is reset without a change if nothing is kept. -/
theorem Cache.runs_reset {cache : Cache} {w : Workspace}
    (hm : w.remove (Manifest.pathIn cache.directory) = .error .missing)
    (hs : w.removeTree cache.store.root = .error .missing) :
    Runs cache.reset w { cache with previous := .unknown } w := by
  refine Runs.bind_iff.mpr ⟨(), w, Action.clear_iff.mpr (.inr ⟨hm, rfl⟩), ?_⟩
  refine Runs.bind_iff.mpr ⟨(), w, Action.clear_iff.mpr (.inr ⟨hs, rfl⟩), ?_⟩
  exact Runs.pure_iff.mpr ⟨rfl, rfl⟩

theorem Cache.runs_commit {cache : Cache} {manifest : Manifest} {v w : Workspace}
    (h : Runs (manifest.save cache.directory) v () w) :
    Runs (cache.commit manifest) v { cache with previous := .known manifest } w :=
  Runs.bind_iff.mpr ⟨(), w, h, Runs.pure_iff.mpr ⟨rfl, rfl⟩⟩

namespace Invocation

variable {invocation : Invocation} {filter : TagFilter} {detection : Detection}
  {outcomes : List TaskOutcome} {count : Nat} {u v s t w : Workspace}

/-- The output on which a run builds is there if what the previous one has kept fits. -/
theorem previous?_of_read {prints : Fingerprints} {feed : List FileChange} {archive : Archive}
    (hm : v.read (Manifest.pathIn invocation.intermediate)
      = .ok (invocation.manifest filter prints).fileBytes)
    (ha : Archive.ofFile v invocation.output = .ok archive) :
    (invocation.withChanges (.listed feed)).previous? filter v = some archive := by
  have kept : (invocation.withChanges (.listed feed)).kept v
      = ⟨invocation.intermediate, toolVersion, .known (invocation.manifest filter prints)⟩ := by
    change Cache.ofDirectory v invocation.intermediate toolVersion = _
    unfold Cache.ofDirectory
    rw [Manifest.find_of_read hm]
  unfold previous?
  rw [kept]
  simp only [previousOutput?, withChanges, Cache.invalidation?, Invocation.manifest, ne_eq,
    not_true_eq_false, if_false, ha]
  rfl

/-- What an archive is made to hold after a unit has been written. -/
theorem runs_applyOutcome {store : UnitStore} {assembly : Assembly} {outcome : TaskOutcome}
    {content : Bytes} {w : Workspace} (hk : outcome.kind.needsWrite = true)
    (hr : store.read w outcome.identity = .ok content) :
    Runs (applyOutcome store assembly outcome) w
      ((if outcome.kind.dropsPrevious then assembly.remove outcome.identity
        else assembly).insert outcome.identity content) w := by
  unfold applyOutcome
  rw [if_pos hk]
  exact Action.look_bind_iff.mpr
    ⟨content, Except.mapError_eq_ok_iff.mpr hr, Runs.pure_iff.mpr ⟨rfl, rfl⟩⟩

/-- An output is published when something was done. -/
theorem runs_writeOutput {store : UnitStore} {previous : Option Archive}
    {outcomes : List TaskOutcome} {assembly : Assembly} (done : outcomes ≠ [])
    (ha : Runs (outcomes.foldlM (applyOutcome store) (invocation.start previous)) s assembly u)
    (hp : Runs (assembly.publish invocation.output) u count t) :
    Runs (invocation.writeOutput store previous outcomes) s count t := by
  cases outcomes with
  | nil => exact absurd rfl done
  | cons outcome outcomes =>
    cases previous with
    | none => exact Runs.bind_iff.mpr ⟨assembly, u, ha, Runs.adapt_iff.mpr hp⟩
    | some archive => exact Runs.bind_iff.mpr ⟨assembly, u, ha, Runs.adapt_iff.mpr hp⟩

/-- The report of a run about what it has detected and done. -/
def reportOf (detection : Detection) (outcomes : List TaskOutcome) (count : Nat) (full : Bool) :
    RunReport where
  added := detection.changes.added.length
  modified := detection.changes.modified.length
  removed := detection.changes.removed.length
  unchanged := detection.changes.unchanged.length
  unitsTraced := (outcomes.filter fun outcome => !outcome.tags.isEmpty).length
  methodsInstrumented := (outcomes.flatMap (·.tags)).length
  outputEntries := count
  fullRebuild := full

/-- A run that cannot build on a previous one succeeds if its steps do. -/
theorem runs_rebuild (hf : invocation.checkedFilter = .ok filter)
    (hp : invocation.previous? filter v = none)
    (hr : Runs (invocation.kept v).reset v ⟨invocation.intermediate, toolVersion, .unknown⟩ u)
    (hd : detect u invocation ⟨invocation.intermediate, toolVersion, .unknown⟩ true
      = .ok detection)
    (ht : Runs ((invocation.context filter).runTasks detection.changes.actionable) u outcomes s)
    (hw : Runs (invocation.writeOutput (invocation.context filter).store none outcomes) s count t)
    (hc : Runs ((invocation.manifest filter detection.fingerprints).save invocation.intermediate)
      t () w) :
    Runs invocation.run v (reportOf detection outcomes count true) w := by
  unfold run
  refine Runs.liftM_bind_iff.mpr ⟨filter, hf, Runs.get_bind_iff.mpr ?_⟩
  have found : previousOutput? v invocation
      (Cache.ofDirectory v invocation.intermediate toolVersion)
      (invocation.settings.fingerprint filter) = none := hp
  dsimp only
  rw [found]
  refine Runs.bind_iff.mpr ⟨_, u, Runs.adapt_iff.mpr hr, ?_⟩
  refine Action.look_bind_iff.mpr ⟨detection, hd, ?_⟩
  refine Runs.bind_iff.mpr ⟨outcomes, s, ht, Runs.bind_iff.mpr ⟨count, t, hw, ?_⟩⟩
  exact Runs.bind_iff.mpr
    ⟨_, w, Runs.adapt_iff.mpr (Cache.runs_commit hc), Runs.pure_iff.mpr ⟨rfl, rfl⟩⟩

/-- A run that builds on a previous one succeeds if its steps do. -/
theorem runs_update {archive : Archive} (hf : invocation.checkedFilter = .ok filter)
    (hp : invocation.previous? filter v = some archive)
    (hd : detect v invocation (invocation.kept v) false = .ok detection)
    (ht : Runs ((invocation.context filter).runTasks detection.changes.actionable) v outcomes s)
    (hw : Runs (invocation.writeOutput (invocation.context filter).store (some archive) outcomes)
      s count t)
    (hc : Runs ((invocation.manifest filter detection.fingerprints).save invocation.intermediate)
      t () w) :
    Runs invocation.run v (reportOf detection outcomes count false) w := by
  unfold run
  refine Runs.liftM_bind_iff.mpr ⟨filter, hf, Runs.get_bind_iff.mpr ?_⟩
  have found : previousOutput? v invocation
      (Cache.ofDirectory v invocation.intermediate toolVersion)
      (invocation.settings.fingerprint filter) = some archive := hp
  dsimp only
  rw [found]
  refine Runs.bind_iff.mpr ⟨_, v, Runs.pure_iff.mpr ⟨rfl, rfl⟩, ?_⟩
  refine Action.look_bind_iff.mpr ⟨detection, hd, ?_⟩
  refine Runs.bind_iff.mpr ⟨outcomes, s, ht, Runs.bind_iff.mpr ⟨count, t, hw, ?_⟩⟩
  exact Runs.bind_iff.mpr
    ⟨_, w, Runs.adapt_iff.mpr (Cache.runs_commit hc), Runs.pure_iff.mpr ⟨rfl, rfl⟩⟩

end Invocation

end MethodTrace
