import MethodTrace.Proofs.RunHistories

/-!
The units that are stored behind a run of a task, after any history of runs and changes of inputs.

They are those of the output, except for strays: a run that fails after some of its tasks has stored
or removed units, and a later run that builds on the same manifest does not notice.
-/

namespace MethodTrace

open Workspace (Changes KeepsDirectories)

/-- The workspaces behind the runs of a task that has begun without an intermediate directory and
without an output. Inputs may change between the runs, and any of the runs may fail. The strays of a
history are the identities at which runs that have failed since everything was built anew have
changed the store but not the output. -/
inductive History (directory output : String) : Set String → Workspace → Prop
  | start {v : Workspace} (absent : ∀ place, Place.named directory <+: place → v.node? place = none)
    (fresh : v.node? (Place.named output) = none) : History directory output ∅ v
  | inputs {strays : Set String} {v w : Workspace} (before : History directory output strays v)
    (kept : Workspace.SameUnder
      [(UnitStore.ofDirectory directory toolVersion).root, Manifest.pathIn directory] v w)
    (same : w.fileAt? output = v.fileAt? output) : History directory output strays w
  | succeeded {strays : Set String} {v w : Workspace} {invocation : Invocation} {report : RunReport}
    (before : History directory output strays v) (hi : invocation.intermediate = directory)
    (ho : invocation.output = output) (run : Runs invocation.run v report w) :
    History directory output (if report.fullRebuild then ∅ else strays) w
  | failed {strays : Set String} {v w : Workspace} {invocation : Invocation} {error : RunError}
    (before : History directory output strays v) (hi : invocation.intermediate = directory)
    (ho : invocation.output = output) (run : Fails invocation.run v error w) :
    History directory output (strays ∪ strayed directory output v w) w

namespace Consistent

variable {directory output : String} {strays : Set String} {v w : Workspace}

/-- Nothing is inconsistent where nothing is kept. -/
theorem of_empty (h : ∀ place, Place.named directory <+: place → w.node? place = none) :
    Consistent directory output strays w := by
  have bare : (UnitStore.ofDirectory directory toolVersion).Bare w := by
    intro place bytes below hn
    rw [UnitStore.named_ofDirectory] at below
    rw [h place ((List.prefix_append _ _).trans below)] at hn
    cases hn
  refine .of_absent bare.tidy fun bytes hn => ?_
  rw [h _ (by rw [Manifest.named_pathIn]; exact List.prefix_append _ _)] at hn
  cases hn

/-- Other changes leave consistent what is kept. -/
theorem of_sameUnder (h : Consistent directory output strays v)
    (kept : Workspace.SameUnder
      [(UnitStore.ofDirectory directory toolVersion).root, Manifest.pathIn directory] v w)
    (same : w.fileAt? output = v.fileAt? output) : Consistent directory output strays w := by
  have stored := kept _ List.mem_cons_self
  have manifest := kept _ (List.mem_cons_of_mem _ List.mem_cons_self)
  have reaches {identity : String} (normal : Identity.IsNormal identity)
      (hr : v.Reaches ((UnitStore.ofDirectory directory toolVersion).unitPath identity)) :
      w.Reaches ((UnitStore.ofDirectory directory toolVersion).unitPath identity) :=
    (Workspace.place_congr fun place hp =>
      (stored place (UnitStore.below_of_mem_trail normal hp)).symm).trans hr
  have file : w.node? (Place.named (Manifest.pathIn directory))
      = v.node? (Place.named (Manifest.pathIn directory)) :=
    (manifest _ (.inr List.prefix_rfl)).symm
  refine ⟨fun place bytes below hn => ?_, fun bytes hn => ?_, fun bytes hn => ?_,
    fun bytes hn => ?_⟩
  · rw [← stored place (.inr below)] at hn
    obtain ⟨identity, normal, he, hr⟩ := h.tidy place bytes below hn
    exact ⟨identity, normal, he, reaches normal hr⟩
  · have before := h.reaches bytes (file ▸ hn)
    exact (Workspace.place_congr fun place hp => (manifest place (.inl hp)).symm).trans before
  · exact h.manifest bytes (file ▸ hn)
  · obtain ⟨entries, mirrored⟩ := h.mirrored bytes (file ▸ hn)
    refine ⟨entries, mirrored.carry (Set.Subset.refl _) same fun identity _ => ?_⟩
    rw [UnitStore.mem_identities_iff, UnitStore.mem_identities_iff]
    refine and_congr_right fun normal => ?_
    rw [stored _ (.inr (UnitStore.below_unitPath normal))]

end Consistent

/-- What is kept stays consistent through all histories. -/
theorem History.consistent {directory output : String} {strays : Set String} {v : Workspace}
    (aside : Cache.Aside directory output) (h : History directory output strays v) :
    Consistent directory output strays v := by
  induction h with
  | start absent _ => exact .of_empty absent
  | inputs _ kept same ih => exact ih.of_sameUnder kept same
  | succeeded _ hi ho run ih =>
    subst hi ho
    exact (ih.of_runs aside run).2
  | failed _ hi ho run ih =>
    subst hi ho
    exact ih.of_fails aside run

namespace Invocation

open Detection

variable {v w : Workspace}

/-- An invocation with the input directory `a`. -/
def oneRoot : Invocation := { withoutInputs with directories := ["a"] }

theorem checkedFilter_oneRoot : oneRoot.checkedFilter = .ok noFilter := checkedFilter_withoutInputs

/-- A run that builds on a previous one fails if one of its tasks does. -/
theorem fails_update {invocation : Invocation} {filter : TagFilter} {archive : Archive}
    {detection : Detection} {error : RunError} (hf : invocation.checkedFilter = .ok filter)
    (hp : invocation.previous? filter v = some archive)
    (hd : detect v invocation (invocation.kept v) false = .ok detection)
    (ht : Fails ((invocation.context filter).runTasks detection.changes.actionable) v error w) :
    Fails invocation.run v error w := by
  unfold run
  refine Fails.liftM_bind_iff.mpr (.inr ⟨filter, hf, Fails.get_bind_iff.mpr ?_⟩)
  have found : previousOutput? v invocation
      (Cache.ofDirectory v invocation.intermediate toolVersion)
      (invocation.settings.fingerprint filter) = some archive := hp
  dsimp only
  rw [found]
  refine Fails.bind_iff.mpr (.inr ⟨_, v, Runs.pure_iff.mpr ⟨rfl, rfl⟩, ?_⟩)
  refine Action.fails_look_bind_iff.mpr (.inr ⟨detection, hd, ?_⟩)
  exact Fails.bind_iff.mpr (.inl ht)

/-- What the first run over no files leaves. -/
def settled : Workspace :=
  (bare.published noEntries).saved (oneRoot.manifest noFilter ∅)

theorem runs_save_empty : Runs ((oneRoot.manifest noFilter ∅).save "m")
    (Workspace.empty.published noEntries) () settled := by
  have made : (Workspace.empty.published noEntries).insert ["m"] .directory
      = bare.published noEntries := by
    have clean (w : Workspace) (h : w.node? [".o.tmp"] = none) : w.erase [".o.tmp"] = w :=
      Workspace.erase_eq_self (by decide) h
    unfold Workspace.published
    rw [clean _ (by cbv), clean _ (by cbv)]
    exact Workspace.insert_comm _ (by decide)
  have ready := ready_bare.published noEntries
  obtain ⟨_, s, hd, hs⟩ := Runs.bind_iff.mp (ready.runs_save (oneRoot.manifest noFilter ∅))
  obtain ⟨_, rfl⟩ := (ready.runs_createDirectories _).unique hd
  refine Runs.bind_iff.mpr ⟨(), bare.published noEntries, ?_, hs⟩
  refine Action.runs_createDirectories (by cbv) ?_
  have ancestors : Path.ancestors "m" = ["m"] := by cbv
  have absent : (Workspace.empty.published noEntries).node? (Place.named "m") = none := by cbv
  rw [ancestors]
  refine Except.bind_eq_ok_iff.mpr ⟨bare.published noEntries, ?_, rfl⟩
  rw [Workspace.makeDirectory_of_reaches Workspace.Ready.reaches_m (by cbv), absent,
    Workspace.Ready.named_m, made]

/-- No path leads through a directory that is missing. -/
theorem place_empty {path : String} (step : String) (short : Workspace.isBadPath path = false)
    (relative : Path.isAbsolute path = false)
    (segments : Path.segments path.toList = ["m", step]) :
    Workspace.empty.place path = .error .missing := by
  have ne : path ≠ "" := by
    rintro rfl
    have : Path.segments "".toList = [""] := by decide
    rw [this] at segments
    simp at segments
  have first : Workspace.empty.follow [] "m" = .ok ["m"] :=
    Workspace.follow_step rfl Workspace.Ready.isStep_m (by decide)
  have absent : Workspace.empty.node? ["m"] = none := by cbv
  unfold Workspace.place Workspace.followAll
  rw [if_neg ne, short, relative, segments, if_neg Bool.false_ne_true, if_neg Bool.false_ne_true,
    List.foldlM_cons, first]
  change [step].foldlM Workspace.empty.follow ["m"] = _
  rw [List.foldlM_cons]
  unfold Workspace.follow
  rw [absent]
  rfl

/-- The first run finds nothing. -/
theorem runs_first : ∃ report, Runs (oneRoot.withChanges .unknown).run Workspace.empty report
    settled ∧ report.fullRebuild = true := by
  have offers {step : String} (hs : Identity.IsStep step)
      (size : step.utf8ByteSize ≤ Workspace.maxName) (short : Workspace.isBadPath step = false)
      (hn : Workspace.empty.node? (Place.named step) = none) : Workspace.empty.Offers step :=
    ⟨Workspace.reaches_of_isStep hs size short, by simp [hn]⟩
  have manifest : Workspace.empty.remove (Manifest.pathIn "m") = .error .missing := by
    have reaches := Workspace.Ready.pathIn_m ▸ ready_bare.offers_manifest.reaches
    have short := (Workspace.reaches_iff.mp reaches).2.1
    rw [Workspace.Ready.pathIn_m]
    exact Workspace.remove_of_missing (place_empty "fingerprints.json" short
      (by decide +kernel) (by decide +kernel))
  have units : Workspace.empty.removeTree (Path.join "m" "units") = .error .missing := by
    rw [Workspace.Ready.join_units]
    unfold Workspace.removeTree
    rw [place_empty "units" (by cbv) (by decide +kernel) (by decide +kernel)]
    rfl
  have reset := @Cache.runs_reset
    ⟨"m", toolVersion, (Cache.ofDirectory Workspace.empty "m" toolVersion).previous⟩
    Workspace.empty manifest units
  have loose : looseUnits Workspace.empty (oneRoot.withChanges .unknown) true = .ok [] := by cbv
  have detected : detect Workspace.empty (oneRoot.withChanges .unknown)
      ⟨"m", toolVersion, .unknown⟩ true = .ok ⟨{}, ∅⟩ := by
    rw [detect_of_no_archives rfl (.inl rfl) loose]
    cbv
  have bytes : (Assembly.empty oneRoot.settings.archive).toBytes ".o.tmp" = .ok noEntries := by cbv
  have write : Runs (oneRoot.writeOutput (oneRoot.context noFilter).store none []) Workspace.empty 0
      (Workspace.empty.published noEntries) := by
    refine Runs.bind_iff.mpr ⟨_, _, Runs.pure_iff.mpr ⟨rfl, rfl⟩, Runs.adapt_iff.mpr ?_⟩
    refine Workspace.runs_publish_of_offers ?_ ?_ bytes
    · exact offers (by decide) (by decide) (by cbv) (by cbv)
    · exact offers (by decide) (by decide) (by cbv) (by cbv)
  exact ⟨_, @runs_rebuild (oneRoot.withChanges .unknown) noFilter ⟨{}, ∅⟩ [] 0 Workspace.empty
    Workspace.empty Workspace.empty _ _ checkedFilter_oneRoot rfl reset detected
    (TaskContext.runs_runTasks_nil _ _) write runs_save_empty, rfl⟩

/-- What is there when the file `a/x` has appeared. -/
def grown : Workspace :=
  (settled.insert ["a"] .directory).insert ["a", "x"] (.file [])

theorem node?_grown (place : Place) : grown.node? place =
    if place = ["a", "x"] then some (.file [])
    else if place = ["a"] then some .directory
    else if place = ["m", "fingerprints.json"] then
      some (.file (oneRoot.manifest noFilter ∅).fileBytes)
    else if place = ["m", "fingerprints.json.tmp"] then none
    else if place = ["o"] then some (.file noEntries)
    else if place = [".o.tmp"] then none
    else bare.node? place := by
  rw [grown, Workspace.node?_insert (by decide), Workspace.node?_insert (by decide), settled,
    (ready_bare.published noEntries).node?_saved, ready_bare.node?_published]

theorem stores_grown : grown.Stores := by
  have directory : bare.node? ["m"] = some .directory := ready_bare.directory
  have units : bare.node? ["m", "units"] = none := by cbv
  have free : bare.node? ["m", "units", "x"] = none := by cbv
  refine ⟨⟨?_, ?_, ?_, ?_, ?_⟩, .inl ?_, ?_⟩
  all_goals simp [node?_grown, directory, units, free]

/-- A list of changes of which one names a file that is not there. -/
def feed : List FileChange := [⟨"a", "a/x", .added⟩, ⟨"a", "a/y", .added⟩]

/-- The manifest and the output that the first run has left. -/
structure Settled (w : Workspace) : Prop where
  stores : w.Stores
  manifest : w.node? ["m", "fingerprints.json"]
    = some (.file (oneRoot.manifest noFilter ∅).fileBytes)
  output : w.node? ["o"] = some (.file noEntries)

theorem settled_grown : Settled grown := by
  refine ⟨stores_grown, ?_, ?_⟩
  · simp [node?_grown]
  · simp [node?_grown]

namespace Settled

variable (h : Settled w)
include h

theorem read_manifest :
    w.read (Manifest.pathIn "m") = .ok (oneRoot.manifest noFilter ∅).fileBytes :=
  Workspace.read_eq_ok_iff.mpr ⟨h.stores.ready.offers_manifest.reaches,
    Workspace.Ready.named_manifest ▸ h.manifest⟩

theorem previous?_eq (feed : List FileChange) :
    (oneRoot.withChanges (.listed feed)).previous? noFilter w = some [] := by
  refine previous?_of_read h.read_manifest ?_
  unfold Archive.ofFile Workspace.readOr
  rw [show oneRoot.output = "o" from rfl, h.stores.ready.read_output h.output]
  decide

theorem fingerprints_eq (feed : List FileChange) :
    ((oneRoot.withChanges (.listed feed)).kept w).fingerprints = ∅ := by
  change (Cache.ofDirectory w "m" toolVersion).fingerprints = ∅
  unfold Cache.ofDirectory
  rw [Manifest.find_of_read h.read_manifest]
  rfl

theorem detect_feed : detect w (oneRoot.withChanges (.listed feed))
    ((oneRoot.withChanges (.listed feed)).kept w) false
      = .ok ⟨{ added := [⟨"x", .directory 0, .added, .file "a/x"⟩,
        ⟨"y", .directory 0, .added, .file "a/y"⟩] }, ∅⟩ := by
  have loose : looseUnits w (oneRoot.withChanges (.listed feed)) false
      = .ok [⟨"x", .directory 0, .added, .file "a/x"⟩,
        ⟨"y", .directory 0, .added, .file "a/y"⟩] := by
    change feedUnits ["a"] feed = _
    cbv
  rw [detect_of_no_archives rfl (.inr (h.fingerprints_eq feed)) loose]
  cbv

theorem detect_nothing : detect w (oneRoot.withChanges (.listed []))
    ((oneRoot.withChanges (.listed [])).kept w) false = .ok ⟨{}, ∅⟩ := by
  have loose : looseUnits w (oneRoot.withChanges (.listed [])) false = .ok [] := rfl
  rw [detect_of_no_archives rfl (.inr (h.fingerprints_eq [])) loose]
  cbv

end Settled

/-- The second run stores the unit `x` and fails to read the unit `y`. -/
theorem fails_second : Fails (oneRoot.withChanges (.listed feed)).run grown (.io "a/y")
    (grown.stored []) := by
  have joined : Path.join "a" "y" = "a/y" := by cbv
  have named : Place.named "a" = ["a"] := by cbv
  have named_y : Place.named "a/y" = ["a", "y"] := by cbv
  have directory (content : Bytes) : (grown.stored content).node? ["a"] = some .directory := by
    simp [Workspace.Stores.node?_stored, node?_grown]
  have read_x : grown.read "a/x" = .ok [] := by
    have joined : Path.join "a" "x" = "a/x" := by cbv
    rw [← joined]
    refine Workspace.read_of_steps (by decide) (by decide) (by decide) (by decide) (by cbv)
      (by cbv) (by cbv) ?_ ?_
    · simp [node?_grown]
    · simp [node?_grown]
  have read_y : (grown.stored []).read "a/y" = .error .missing := by
    have reaches : (grown.stored []).Reaches (Path.join "a" "y") :=
      Workspace.reaches_join (Workspace.reaches_of_isStep (by decide) (by decide) (by cbv))
        (by cbv) (named ▸ directory []) (by decide) (by decide) (by cbv)
    have absent : bare.node? ["a", "y"] = none := by cbv
    refine Workspace.read_of_none (joined ▸ reaches) ?_
    simp [named_y, Workspace.Stores.node?_stored, node?_grown, absent]
  have load : (⟨"x", .directory 0, .added, .file "a/x"⟩ : BuildUnit).load grown = .ok [] :=
    Except.mapError_eq_ok_iff.mpr read_x
  have first : Runs ((oneRoot.context noFilter).runTask ⟨"x", .directory 0, .added, .file "a/x"⟩)
      grown ⟨"x", .added, []⟩ (grown.stored []) :=
    TaskContext.runs_runTask rfl load
      (TaskContext.trace_of_not_class (by cbv) []) (stores_grown.runs_write [])
  have second : Fails ((oneRoot.context noFilter).runTask
      ⟨"y", .directory 0, .added, .file "a/y"⟩) (grown.stored []) (.io "a/y") (grown.stored []) := by
    refine Action.fails_look_bind_iff.mpr (.inl ⟨?_, rfl⟩)
    change (grown.stored []).readOr (RunError.io "a/y") "a/y" = _
    unfold Workspace.readOr
    rw [read_y]
    rfl
  refine fails_update checkedFilter_oneRoot (settled_grown.previous?_eq feed)
    settled_grown.detect_feed ?_
  refine Fails.bind_iff.mpr (.inl ?_)
  change Fails (List.mapM _ [_, _]) _ _ _
  rw [List.mapM_cons, List.mapM_cons]
  refine Fails.bind_iff.mpr (.inr ⟨_, _, first, Fails.bind_iff.mpr (.inl ?_)⟩)
  exact Fails.bind_iff.mpr (.inl second)

theorem settled_stored : Settled (grown.stored []) := by
  have ready := stores_grown.ready_stored []
  refine ⟨⟨ready, .inr ?_, ?_⟩, ?_, ?_⟩
  all_goals simp [Workspace.Stores.node?_stored, settled_grown.manifest, settled_grown.output]

/-- The third run has nothing to do. -/
theorem runs_third : ∃ report, Runs (oneRoot.withChanges (.listed [])).run (grown.stored []) report
    ((grown.stored []).saved (oneRoot.manifest noFilter ∅)) := by
  have write : Runs (oneRoot.writeOutput (oneRoot.context noFilter).store (some []) [])
      (grown.stored []) 0 (grown.stored []) := Runs.pure_iff.mpr ⟨rfl, rfl⟩
  exact ⟨_, @runs_update (oneRoot.withChanges (.listed [])) noFilter ⟨{}, ∅⟩ [] 0 _ _ _ _ []
    checkedFilter_oneRoot (settled_stored.previous?_eq []) settled_stored.detect_nothing
    (TaskContext.runs_runTasks_nil _ _) write (settled_stored.stores.ready.runs_save _)⟩

theorem aside_oneRoot : Cache.Aside oneRoot.intermediate oneRoot.output :=
  ⟨separate_blocked.output, separate_blocked.temporary⟩

/-- Only what lies below `a` has appeared between the first two runs. -/
theorem sameUnder_grown : Workspace.SameUnder
    [(UnitStore.ofDirectory "m" toolVersion).root, Manifest.pathIn "m"] settled grown := by
  have apart {place : Place} (h : place = [] ∨ ["m"] <+: place) :
      settled.node? place = grown.node? place := by
    have ne : place ≠ ["a", "x"] ∧ place ≠ ["a"] := by
      rcases h with rfl | ⟨rest, rfl⟩
      · simp
      · simp
    rw [grown, Workspace.node?_insert (by decide), Workspace.node?_insert (by decide), if_neg ne.1,
      if_neg ne.2]
  have root : (UnitStore.ofDirectory "m" toolVersion).root = "m/units" := Workspace.Ready.join_units
  have trail : Place.trail "m/units" = [[], ["m"], ["m", "units"]] := by decide +kernel
  have manifest : Place.trail "m/fingerprints.json" = [[], ["m"], ["m", "fingerprints.json"]] := by
    decide +kernel
  intro path hp place hm
  refine apart ?_
  rw [root, Workspace.Ready.pathIn_m] at hp
  rcases List.mem_cons.mp hp with rfl | hp
  · rw [trail, Workspace.Ready.named_units] at hm
    simp only [List.mem_cons, List.not_mem_nil, or_false] at hm
    rcases hm with (rfl | rfl | rfl) | ⟨rest, rfl⟩
    all_goals simp
  · obtain rfl := List.mem_singleton.mp hp
    have named := Workspace.Ready.pathIn_m ▸ Workspace.Ready.named_manifest
    rw [manifest, named] at hm
    simp only [List.mem_cons, List.not_mem_nil, or_false] at hm
    rcases hm with (rfl | rfl | rfl) | ⟨rest, rfl⟩
    all_goals simp

/-- A history behind which a run leaves a unit in the store that is not in its output. -/
theorem exists_stray : ∃ strays v report w, History "m" "o" strays v ∧
    Runs (oneRoot.withChanges (.listed [])).run v report w ∧ w.read "o" = .ok noEntries ∧
      "x" ∈ (UnitStore.ofDirectory "m" toolVersion).identities w := by
  obtain ⟨before, first, _⟩ := runs_first
  obtain ⟨report, third⟩ := runs_third
  have output : Place.named "o" = ["o"] := by cbv
  have absent (place : Place) (hp : Place.named "m" <+: place) :
      Workspace.empty.node? place = none := by
    rw [Workspace.Ready.named_m] at hp
    obtain ⟨rest, rfl⟩ := hp
    simp [Workspace.node?, Place.isTop, Workspace.empty]
  have begun : History "m" "o" ∅ Workspace.empty := .start absent (by cbv)
  have cleaned := begun.succeeded rfl rfl first
  have same : grown.fileAt? "o" = settled.fileAt? "o" := by
    unfold Workspace.fileAt?
    rw [output, grown, Workspace.node?_insert (by decide), Workspace.node?_insert (by decide)]
    rfl
  have changed := cleaned.inputs sameUnder_grown same
  have broken := changed.failed rfl rfl fails_second
  refine ⟨_, _, report, _, broken, third, ?_, ?_⟩
  · refine settled_stored.stores.ready.read_output_saved _ ?_
    exact settled_stored.stores.ready.read_output settled_stored.output
  · refine UnitStore.mem_identities_iff.mpr ⟨by unfold Identity.IsNormal; decide,
      UnitStore.encode toolVersion [], ?_⟩
    rw [Workspace.Stores.unitPath_x, Workspace.Stores.named_x,
      settled_stored.stores.ready.node?_saved, if_neg (by decide), if_neg (by decide),
      Workspace.Stores.node?_stored, if_pos rfl]

end Invocation

/-- Behind a run that succeeds, those identities are stored that have an entry in the output, except
for the strays of the history unless everything has been built anew. All files below the store are
those of stored units. -/
theorem History.mirrored_of_runs {invocation : Invocation} {strays : Set String} {v w : Workspace}
    {report : RunReport} (aside : Cache.Aside invocation.intermediate invocation.output)
    (history : History invocation.intermediate invocation.output strays v)
    (run : Runs invocation.run v report w) :
    (∃ entries, w.read invocation.output = .ok (Archive.ofMap entries).toBytes ∧
      Mirrored invocation.intermediate invocation.output entries
        (if report.fullRebuild then ∅ else strays) w) ∧
      (UnitStore.ofDirectory invocation.intermediate toolVersion).Tidy w := by
  obtain ⟨mirrored, after⟩ := (history.consistent aside).of_runs aside run
  exact ⟨mirrored, after.tidy⟩

open Invocation in
/-- What is stored behind a run for which an earlier one has left a stray. -/
theorem History.mirrored_of_runs_stray : ∃ strays v report w, History "m" "o" strays v ∧
    Runs (oneRoot.withChanges (.listed [])).run v report w ∧
      (∃ entries, w.read "o" = .ok (Archive.ofMap entries).toBytes ∧
        Mirrored "m" "o" entries (if report.fullRebuild then ∅ else strays) w) ∧
      (UnitStore.ofDirectory "m" toolVersion).Tidy w := by
  obtain ⟨strays, v, report, w, history, run, _⟩ := exists_stray
  exact ⟨strays, v, report, w, history, run, @History.mirrored_of_runs
    (oneRoot.withChanges (.listed [])) strays v w report aside_oneRoot history run⟩

open Invocation in
/-- A run that fails can leave a unit in the store that a later run neither writes nor removes. -/
theorem History.not_mirrored_of_runs : ¬∀ (invocation : Invocation) (strays : Set String)
    (v w : Workspace) (report : RunReport),
    Cache.Aside invocation.intermediate invocation.output →
    History invocation.intermediate invocation.output strays v → Runs invocation.run v report w →
    ∃ entries, w.read invocation.output = .ok (Archive.ofMap entries).toBytes ∧
      (Archive.ofMap entries).Fits ∧ ∀ identity,
        identity ∈ (UnitStore.ofDirectory invocation.intermediate toolVersion).identities w ↔
          entries[identity]?.isSome = true := by
  intro claim
  obtain ⟨strays, v, report, w, history, run, output, stored⟩ := exists_stray
  obtain ⟨entries, read, fits, same⟩ :=
    claim (oneRoot.withChanges (.listed [])) strays v w report aside_oneRoot history run
  have bytes : (Archive.ofMap entries).toBytes = noEntries :=
    (Except.ok.inj (output.symm.trans read)).symm
  have none : Archive.entries noEntries = .ok [] := by decide
  have empty := Archive.eq_of_entries_toBytes fits (bytes ▸ none)
  have entry := (same "x").mp stored
  obtain ⟨found, he⟩ := Option.isSome_iff_exists.mp entry
  have member : found ∈ Archive.ofMap entries :=
    List.mem_map.mpr ⟨("x", found), Std.ExtTreeMap.mem_toList_iff_getElem?_eq_some.mpr he, rfl⟩
  rw [← empty] at member
  cases member

end MethodTrace
