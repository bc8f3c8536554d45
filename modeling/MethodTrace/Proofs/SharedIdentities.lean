import MethodTrace.Proofs.LooseRuns

/-!
Runs over two directories that both have a file of the same identity.

A run that builds everything anew takes the file in the first directory. A run that builds on a
previous one takes the file that is listed, whichever directory holds it.
-/

namespace MethodTrace

namespace Invocation

open Detection

/-- An invocation with the input directories `a` and `b`. -/
def twoRoots : Invocation := { withoutInputs with directories := ["a", "b"] }

/-- A workspace with the files `a/x` and `b/x`. -/
def paired (first second : Bytes) : Workspace :=
  (((bare.insert ["a"] .directory).insert ["b"] .directory).insert ["a", "x"] (.file first)).insert
    ["b", "x"] (.file second)

/-- A workspace in which the unit `x` can be stored and that has only the files `a/x` and `b/x`
below `a` and `b`. -/
structure Pairs (w : Workspace) (first second : Bytes) : Prop where
  stores : w.Stores
  inputs : ∀ place, ["a"] <+: place ∨ ["b"] <+: place →
    w.node? place = (paired first second).node? place

namespace Pairs

variable {first second content bytes : Bytes} {w : Workspace}

theorem isTop_input {place : Place} (h : ["a"] <+: place ∨ ["b"] <+: place) :
    place.isTop = false := by
  rcases h with ⟨rest, rfl⟩ | ⟨rest, rfl⟩
  · simp [Place.isTop]
  · simp [Place.isTop]

theorem ne_kept {place : Place} (h : ["a"] <+: place ∨ ["b"] <+: place) (rest : List String) :
    place ≠ "m" :: rest ∧ place ≠ "o" :: rest ∧ place ≠ ".o.tmp" :: rest := by
  rcases h with ⟨names, rfl⟩ | ⟨names, rfl⟩
  · simp
  · simp

theorem filesUnder_eq {root : String} (h : Pairs w first second) (hr : root = "a" ∨ root = "b") :
    w.filesUnder root = (paired first second).filesUnder root := by
  have same {place : Place} (hp : ["a"] <+: place ∨ ["b"] <+: place) :
      w.node? place = (paired first second).node? place ∧
        w.nodes[place]? = (paired first second).nodes[place]? := by
    have node := h.inputs place hp
    refine ⟨node, ?_⟩
    unfold Workspace.node? at node
    rwa [isTop_input hp] at node
  have top : w.node? [] = (paired first second).node? [] := rfl
  have trail_a : Place.trail "a" = [[], ["a"]] := by cbv
  have trail_b : Place.trail "b" = [[], ["b"]] := by cbv
  have named_a : Place.named "a" = ["a"] := by cbv
  have named_b : Place.named "b" = ["b"] := by cbv
  rcases hr with rfl | rfl
  · refine Workspace.filesUnder_congr ?_ fun place hp => (same (.inl (named_a ▸ hp))).2
    rw [trail_a]
    simpa [top] using (same (.inl (List.prefix_refl ["a"]))).1
  · refine Workspace.filesUnder_congr ?_ fun place hp => (same (.inr (named_b ▸ hp))).2
    rw [trail_b]
    simpa [top] using (same (.inr (List.prefix_refl ["b"]))).1

theorem read_a (h : Pairs w first second) : w.read "a/x" = .ok first := by
  have joined : Path.join "a" "x" = "a/x" := by cbv
  have directory : w.node? ["a"] = some .directory :=
    (h.inputs _ (.inl (List.prefix_refl _))).trans (by cbv)
  have file : w.node? ["a", "x"] = some (.file first) :=
    (h.inputs _ (.inl ⟨["x"], rfl⟩)).trans (by cbv)
  exact joined ▸ Workspace.read_of_steps (by decide) (by decide) (by decide) (by decide) (by cbv)
    (by cbv) (by cbv) directory file

theorem read_b (h : Pairs w first second) : w.read "b/x" = .ok second := by
  have joined : Path.join "b" "x" = "b/x" := by cbv
  have directory : w.node? ["b"] = some .directory :=
    (h.inputs _ (.inr (List.prefix_refl _))).trans (by cbv)
  have file : w.node? ["b", "x"] = some (.file second) :=
    (h.inputs _ (.inr ⟨["x"], rfl⟩)).trans (by cbv)
  exact joined ▸ Workspace.read_of_steps (by decide) (by decide) (by decide) (by decide) (by cbv)
    (by cbv) (by cbv) directory file

theorem filesUnder_a (h : Pairs w first second) : w.filesUnder "a" = [(["x"], first)] :=
  (h.filesUnder_eq (.inl rfl)).trans (by cbv)

theorem filesUnder_b (h : Pairs w first second) : w.filesUnder "b" = [(["x"], second)] :=
  (h.filesUnder_eq (.inr rfl)).trans (by cbv)

/-- What a run leaves that writes the unit `x`. -/
def left (w : Workspace) (content bytes : Bytes) (manifest : Manifest) : Workspace :=
  ((w.stored content).published bytes).saved manifest

theorem node?_left (h : Pairs w first second) (content bytes : Bytes) (manifest : Manifest)
    (place : Place) : (left w content bytes manifest).node? place =
      if place = ["m", "fingerprints.json"] then some (.file manifest.fileBytes)
      else if place = ["m", "fingerprints.json.tmp"] then none
      else if place = ["o"] then some (.file bytes)
      else if place = [".o.tmp"] then none
      else if place = ["m", "units", "x"] then some (.file (UnitStore.encode toolVersion content))
      else if place = ["m", "units"] then some .directory else w.node? place := by
  have stored := h.stores.ready_stored content
  rw [left, (stored.published bytes).node?_saved, stored.node?_published,
    Workspace.Stores.node?_stored]

/-- The files below `a` and `b` stay, and the unit can be stored again. -/
theorem pairs_left (h : Pairs w first second) (content bytes : Bytes) (manifest : Manifest) :
    Pairs (left w content bytes manifest) first second := by
  refine ⟨⟨((h.stores.ready_stored content).published bytes).saved manifest, .inr ?_, ?_⟩, ?_⟩
  · simp [h.node?_left]
  · simp [h.node?_left]
  · intro place hp
    rw [h.node?_left, if_neg (ne_kept hp _).1, if_neg (ne_kept hp _).1, if_neg (ne_kept hp _).2.1,
      if_neg (ne_kept hp _).2.2, if_neg (ne_kept hp _).1, if_neg (ne_kept hp _).1, h.inputs place hp]

/-- A file below `a` or `b` can be given other bytes. -/
theorem insert_file {first' second' : Bytes} {place : Place} (h : Pairs w first second)
    (hp : ["a"] <+: place ∨ ["b"] <+: place) (hd : w.node? place ≠ some .directory)
    (he : ((paired first second).insert place (.file content)) = paired first' second') :
    Pairs (w.insert place (.file content)) first' second' := by
  have top := isTop_input hp
  have apart (rest : List String) : ("m" :: rest) ≠ place := (ne_kept hp rest).1.symm
  refine ⟨⟨h.stores.ready.insert_file hd, ?_, ?_⟩, ?_⟩
  · rw [Workspace.node?_insert top, if_neg (apart _)]
    exact h.stores.units
  · rw [Workspace.node?_insert top, if_neg (apart _)]
    exact h.stores.free
  · intro other ho
    rw [← he, Workspace.node?_insert top, Workspace.node?_insert top, h.inputs other ho]

theorem insert_a (h : Pairs w first second) (content : Bytes) :
    Pairs (w.insert ["a", "x"] (.file content)) content second := by
  have input : ["a"] <+: ["a", "x"] := ⟨["x"], rfl⟩
  have file : (paired first second).node? ["a", "x"] = some (.file first) := by cbv
  refine h.insert_file (.inl input) ?_ ?_
  · simp [h.inputs _ (.inl input), file]
  · unfold paired
    rw [Workspace.insert_comm _ (by decide), Workspace.insert_insert]

theorem insert_b (h : Pairs w first second) (content : Bytes) :
    Pairs (w.insert ["b", "x"] (.file content)) first content := by
  have input : ["b"] <+: ["b", "x"] := ⟨["x"], rfl⟩
  have file : (paired first second).node? ["b", "x"] = some (.file second) := by cbv
  refine h.insert_file (.inr input) ?_ (Workspace.insert_insert _ _ _ _)
  simp [h.inputs _ (.inr input), file]

end Pairs

section

variable {first second content bytes : Bytes} {v : Workspace} {unit : BuildUnit}
  {previous : Option Archive} {assembly : Assembly} {detection : Detection}

theorem checkedFilter_twoRoots : twoRoots.checkedFilter = .ok noFilter := checkedFilter_withoutInputs

/-- What is written when the unit `x` is to be written. -/
theorem runs_tasks_twoRoots (h : Pairs v first second) (he : unit.identity = "x")
    (hk : unit.kind.needsWrite = true) (hl : unit.load v = .ok content) :
    Runs ((twoRoots.context noFilter).runTasks [unit]) v [⟨"x", unit.kind, []⟩]
      (v.stored content) := by
  have traced := @TaskContext.trace_of_not_class (twoRoots.context noFilter) "x" (by cbv) content
  have written := TaskContext.runs_runTask hk hl (he.symm ▸ traced)
    (he.symm ▸ h.stores.runs_write content)
  rw [he] at written
  exact TaskContext.runs_runTasks_singleton written

theorem runs_writeOutput_twoRoots {kind : ChangeKind} (h : Pairs v first second)
    (hk : kind.needsWrite = true)
    (ha : (if kind.dropsPrevious then (twoRoots.start previous).remove "x"
      else twoRoots.start previous).insert "x" content = assembly)
    (hb : assembly.toBytes ".o.tmp" = .ok bytes) :
    Runs (twoRoots.writeOutput (twoRoots.context noFilter).store previous [⟨"x", kind, []⟩])
      (v.stored content) assembly.size ((v.stored content).published bytes) := by
  subst ha
  have applied := @runs_applyOutcome (twoRoots.context noFilter).store (twoRoots.start previous)
    ⟨"x", kind, []⟩ content (v.stored content) hk (h.stores.read_stored content)
  refine runs_writeOutput (by simp) ?_ ((h.stores.ready_stored content).runs_publish hb)
  exact Runs.bind_iff.mpr ⟨_, _, applied, Runs.pure_iff.mpr ⟨rfl, rfl⟩⟩

/-- A walk takes the file `a/x`. -/
theorem detect_walked (h : Pairs v first second) (cache : Cache) :
    detect v (twoRoots.withChanges .unknown) cache true
      = .ok ⟨{ added := [⟨"x", .directory 0, .added, .file "a/x"⟩] }, ∅⟩ := by
  have loose : looseUnits v (twoRoots.withChanges .unknown) true
      = .ok [⟨"x", .directory 0, .added, .file "a/x"⟩,
        ⟨"x", .directory 1, .added, .file "b/x"⟩] := by
    change walkedUnits v ["a", "b"] = _
    unfold walkedUnits
    simp only [rootUnits_eq, List.zipIdx_cons, List.zipIdx_nil, List.mapM_cons, List.mapM_nil,
      h.filesUnder_a, h.filesUnder_b]
    cbv
  rw [detect_of_no_archives rfl (.inl rfl) loose]
  cbv

/-- What is listed is taken. -/
theorem detect_listed {feed : List FileChange} {index : Nat} {path : String} {cache : Cache}
    (hc : cache.fingerprints = ∅)
    (hl : feedUnits ["a", "b"] feed = .ok [⟨"x", .directory index, .modified, .file path⟩]) :
    detect v (twoRoots.withChanges (.listed feed)) cache false
      = .ok ⟨{ modified := [⟨"x", .directory index, .modified, .file path⟩] }, ∅⟩ := by
  have loose : looseUnits v (twoRoots.withChanges (.listed feed)) false
      = .ok [⟨"x", .directory index, .modified, .file path⟩] := hl
  rw [detect_of_no_archives rfl (.inr hc) loose]
  cbv

/-- A run over the directories that builds everything anew takes the file `a/x`. -/
theorem runs_rebuild_twoRoots (h : Pairs v first second)
    (hm : v.node? ["m", "fingerprints.json"] = none) (hs : v.node? ["m", "units"] = none)
    (hb : ((Assembly.empty twoRoots.settings.archive).insert "x" first).toBytes ".o.tmp"
      = .ok bytes) :
    ∃ report w, Runs (twoRoots.withChanges .unknown).run v report w ∧ report.fullRebuild = true ∧
      Pairs w first second ∧ w.read "o" = .ok bytes ∧
      w.read (Manifest.pathIn "m") = .ok (twoRoots.manifest noFilter ∅).fileBytes := by
  have stored := h.stores.ready_stored first
  have ready := stored.published bytes
  have reset := h.stores.ready.runs_reset hm hs toolVersion
    (Cache.ofDirectory v "m" toolVersion).previous
  have tasks := @runs_tasks_twoRoots _ _ first v ⟨"x", .directory 0, .added, .file "a/x"⟩ h rfl rfl
    (Except.mapError_eq_ok_iff.mpr h.read_a)
  have write := @runs_writeOutput_twoRoots _ _ first bytes v none _ .added h rfl rfl hb
  have run := @runs_rebuild (twoRoots.withChanges .unknown) noFilter _ _ _ v v _ _ _
    checkedFilter_twoRoots rfl reset (detect_walked h _) tasks write
    (ready.runs_save (twoRoots.manifest noFilter ∅))
  exact ⟨_, _, run, rfl, h.pairs_left first bytes _,
    ready.read_output_saved _ (stored.read_published _), ready.read_saved _⟩

/-- A run over the directories that builds on a previous one takes the file that is listed. -/
theorem runs_update_twoRoots {feed : List FileChange} {index : Nat} {path : String}
    {archive : Archive} (h : Pairs v first second)
    (ha : Archive.ofFile v "o" = .ok archive)
    (hm : v.read (Manifest.pathIn "m") = .ok (twoRoots.manifest noFilter ∅).fileBytes)
    (hl : feedUnits ["a", "b"] feed = .ok [⟨"x", .directory index, .modified, .file path⟩])
    (hr : v.read path = .ok content)
    (hb : (((twoRoots.start (some archive)).remove "x").insert "x" content).toBytes ".o.tmp"
      = .ok bytes) :
    ∃ report w, Runs (twoRoots.withChanges (.listed feed)).run v report w ∧
      report.fullRebuild = false ∧ w.read "o" = .ok bytes := by
  have stored := h.stores.ready_stored content
  have ready := stored.published bytes
  have previous := @previous?_of_read twoRoots noFilter v ∅ feed archive hm ha
  have kept : ((twoRoots.withChanges (.listed feed)).kept v).fingerprints = ∅ := by
    change (Cache.ofDirectory v "m" toolVersion).fingerprints = ∅
    unfold Cache.ofDirectory
    rw [Manifest.find_of_read hm]
    rfl
  have tasks := @runs_tasks_twoRoots _ _ content v ⟨"x", .directory index, .modified, .file path⟩ h
    rfl rfl (Except.mapError_eq_ok_iff.mpr hr)
  have write := @runs_writeOutput_twoRoots _ _ content bytes v (some archive) _ .modified h rfl rfl
    hb
  have run := @runs_update (twoRoots.withChanges (.listed feed)) noFilter _ _ _ v _ _ _ archive
    checkedFilter_twoRoots previous (detect_listed kept hl) tasks write
    (ready.runs_save (twoRoots.manifest noFilter ∅))
  exact ⟨_, _, run, rfl, ready.read_output_saved _ (stored.read_published _)⟩

theorem pairs_paired (first second : Bytes) : Pairs (paired first second) first second := by
  have free {place : Place} (h : (paired first second).node? place = none) :
      (paired first second).node? place ≠ some .directory := by
    simp [h]
  exact ⟨⟨⟨by cbv, free (by cbv), free (by cbv), free (by cbv), free (by cbv)⟩, .inl (by cbv),
    free (by cbv)⟩, fun _ _ => rfl⟩

theorem apart_twoRoots : twoRoots.Apart := by
  have trail_a : Place.trail "a" = [[], ["a"]] := by cbv
  have trail_b : Place.trail "b" = [[], ["b"]] := by cbv
  have named_a : Place.named "a" = ["a"] := by cbv
  have named_b : Place.named "b" = ["b"] := by cbv
  have units : Place.named (Path.join "m" "units") = ["m", "units"] := by cbv
  have outside {place : Place} (h : place = [] ∨ ["a"] <+: place ∨ ["b"] <+: place) :
      place ∉ Cache.placesIn "m" := by
    rintro (hu | hk)
    · rw [units] at hu
      rcases h with rfl | ⟨rest, rfl⟩ | ⟨rest, rfl⟩
      · simp at hu
      · simp at hu
      · simp at hu
    · rw [Workspace.Ready.named_manifest] at hk
      subst hk
      simp at h
  intro root hr place hp
  rcases List.mem_pair.mp hr with rfl | rfl
  · rw [trail_a, named_a] at hp
    refine outside ?_
    rcases hp with hp | hp
    · rcases List.mem_pair.mp hp with rfl | rfl
      · exact .inl rfl
      · exact .inr (.inl (List.prefix_refl _))
    · exact .inr (.inl hp)
  · rw [trail_b, named_b] at hp
    refine outside ?_
    rcases hp with hp | hp
    · rcases List.mem_pair.mp hp with rfl | rfl
      · exact .inl rfl
      · exact .inr (.inr (List.prefix_refl _))
    · exact .inr (.inr hp)

theorem wellNamed_twoRoots (h : Pairs v first second) : twoRoots.WellNamed v := by
  have name : IsName "x" := ⟨by decide, by decide, by decide, by decide⟩
  intro root hr file hf
  rcases List.mem_pair.mp hr with rfl | rfl
  · rw [h.filesUnder_a, List.mem_singleton] at hf
    subst hf
    simp [name]
  · rw [h.filesUnder_b, List.mem_singleton] at hf
    subst hf
    simp [name]

end

/-- The bytes of the only file below a directory. -/
theorem bytesUnder?_of_singleton {w : Workspace} {root : String} {name : String} {bytes : Bytes}
    (h : w.filesUnder root = [([name], bytes)]) (names : List String) :
    bytesUnder? w root names = if names = [name] then some bytes else none := by
  unfold bytesUnder?
  rw [h, List.find?_cons]
  by_cases he : names = [name]
  · simp [he]
  · have ne : ([name] == names) = false := beq_eq_false_iff_ne.mpr (Ne.symm he)
    simp [he, ne]

theorem exact_twoRoots {t v : Workspace} {first second first' second' : Bytes}
    {feed : List FileChange} (ht : Pairs t first second) (hv : Pairs v first' second')
    (hf : ∀ change, change ∈ feed ↔ first ≠ first' ∧ change = ⟨"a", "a/x", .modified⟩ ∨
      second ≠ second' ∧ change = ⟨"b", "b/x", .modified⟩) : twoRoots.Exact feed t v := by
  have path_a : ["x"].foldl Path.join "a" = "a/x" := by cbv
  have path_b : ["x"].foldl Path.join "b" = "b/x" := by cbv
  have modified {before now : Bytes} {names : List String} {kind : ChangeKind}
      (h : fate? (if names = ["x"] then some before else none)
        (if names = ["x"] then some now else none) = some kind) :
      names = ["x"] ∧ before ≠ now ∧ kind = .modified := by
    by_cases hn : names = ["x"]
    · rw [if_pos hn, if_pos hn] at h
      by_cases he : before = now
      · simp [fate?, he] at h
      · simp only [fate?, if_neg he, Option.some.injEq] at h
        exact ⟨hn, he, h.symm⟩
    · rw [if_neg hn, if_neg hn] at h
      cases h
  intro change
  rw [hf]
  constructor
  · rintro (⟨hn, rfl⟩ | ⟨hn, rfl⟩)
    · refine ⟨"a", by simp [twoRoots], ["x"], .modified, ?_, by rw [path_a]⟩
      rw [bytesUnder?_of_singleton ht.filesUnder_a, bytesUnder?_of_singleton hv.filesUnder_a]
      exact if_neg hn
    · refine ⟨"b", by simp [twoRoots], ["x"], .modified, ?_, by rw [path_b]⟩
      rw [bytesUnder?_of_singleton ht.filesUnder_b, bytesUnder?_of_singleton hv.filesUnder_b]
      exact if_neg hn
  · rintro ⟨root, hr, names, kind, hk, rfl⟩
    rcases List.mem_pair.mp hr with rfl | rfl
    · rw [bytesUnder?_of_singleton ht.filesUnder_a, bytesUnder?_of_singleton hv.filesUnder_a] at hk
      obtain ⟨rfl, hn, rfl⟩ := modified hk
      exact .inl ⟨hn, by rw [path_a]⟩
    · rw [bytesUnder?_of_singleton ht.filesUnder_b, bytesUnder?_of_singleton hv.filesUnder_b] at hk
      obtain ⟨rfl, hn, rfl⟩ := modified hk
      exact .inr ⟨hn, by rw [path_b]⟩

/-- The bytes of the archive with the one entry `x`. -/
def onlyEntry (content : Bytes) : Bytes :=
  (((Assembly.empty twoRoots.settings.archive).insert "x" content).toBytes ".o.tmp").toOption.getD []

theorem onlyEntry_ne : onlyEntry [99] ≠ onlyEntry [97] := by
  intro h
  have differ : decide (onlyEntry [99] = onlyEntry [97]) = false := by cbv
  exact of_decide_eq_false differ h

/-- A clean run, a change of a file below the input directories and a run that is told of it
succeed. -/
theorem runs_change {first second before : Bytes} {index : Nat} {path : String} {place : Place}
    {change : FileChange} (input : ["a"] <+: place ∨ ["b"] <+: place)
    (file : (paired [97] [98]).node? place = some (.file before))
    (pairs : ∀ w, Pairs w [97] [98] → Pairs (w.insert place (.file [99])) first second)
    (listed : feedUnits ["a", "b"] [change]
      = .ok [⟨"x", .directory index, .modified, .file path⟩])
    (read : ∀ w, Pairs w first second → w.read path = .ok [99]) :
    ∃ u w earlier report, Runs (twoRoots.withChanges .unknown).run (paired [97] [98]) earlier u ∧
      earlier.fullRebuild = true ∧ Pairs (u.insert place (.file [99])) first second ∧
      twoRoots.SameResults u (u.insert place (.file [99])) ∧
      Runs (twoRoots.withChanges (.listed [change])).run (u.insert place (.file [99])) report w ∧
      report.fullRebuild = false ∧ w.read "o" = .ok (onlyEntry [99]) := by
  have built : ((Assembly.empty twoRoots.settings.archive).insert "x" [97]).toBytes ".o.tmp"
      = .ok (onlyEntry [97]) := by cbv
  obtain ⟨earlier, u, run, full, paired, output, manifest⟩ :=
    runs_rebuild_twoRoots (pairs_paired [97] [98]) (by cbv) (by cbv) built
  have free : u.node? place ≠ some .directory := by simp [paired.inputs _ input, file]
  have keeps := Workspace.changes_insert_file free [99]
  have named : Place.named "o" = ["o"] := by cbv
  have kept : (u.insert place (.file [99])).read (Manifest.pathIn "m")
      = .ok (twoRoots.manifest noFilter ∅).fileBytes := by
    refine keeps.read ?_ manifest
    rw [Workspace.Ready.named_manifest]
    exact (Pairs.ne_kept input _).1.symm
  have left : (u.insert place (.file [99])).read "o" = .ok (onlyEntry [97]) := by
    refine keeps.read ?_ output
    rw [named]
    exact (Pairs.ne_kept input _).2.1.symm
  have archive : Archive.ofFile (u.insert place (.file [99])) "o"
      = .ok [.ofContent twoRoots.settings.archive "x" [97]] := by
    unfold Archive.ofFile Workspace.readOr
    rw [left]
    cbv
  have now := pairs u paired
  have rebuilt : (((twoRoots.start (some [.ofContent twoRoots.settings.archive "x" [97]])).remove
      "x").insert "x" [99]).toBytes ".o.tmp" = .ok (onlyEntry [99]) := by cbv
  obtain ⟨report, w, update, partly, after⟩ :=
    runs_update_twoRoots now archive kept listed (read _ now) rebuilt
  exact ⟨u, w, earlier, report, run, full, now, ⟨kept.trans manifest.symm, left.trans output.symm⟩,
    update, partly, after⟩

end Invocation

end MethodTrace
