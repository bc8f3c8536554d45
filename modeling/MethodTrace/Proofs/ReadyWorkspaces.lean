import MethodTrace.Proofs.Attempts

/-!
Workspaces in which runs can write the output `o` and what they keep in the directory `m`.
-/

namespace MethodTrace

/-- A workspace in which a run can write the output `o` and what it keeps in the directory `m`. -/
structure Workspace.Ready (w : Workspace) : Prop where
  directory : w.node? ["m"] = some .directory
  output : w.node? ["o"] ≠ some .directory
  temporary : w.node? [".o.tmp"] ≠ some .directory
  manifest : w.node? ["m", "fingerprints.json"] ≠ some .directory
  next : w.node? ["m", "fingerprints.json.tmp"] ≠ some .directory

/-- What is there when a manifest has been saved. -/
def Workspace.saved (w : Workspace) (manifest : Manifest) : Workspace :=
  (w.erase ["m", "fingerprints.json.tmp"]).insert ["m", "fingerprints.json"]
    (.file manifest.fileBytes)

/-- What is there when an archive has been published. -/
def Workspace.published (w : Workspace) (bytes : Bytes) : Workspace :=
  (w.erase [".o.tmp"]).insert ["o"] (.file bytes)

/-- The output can be published where it can be written and where its temporary file can be. -/
theorem Workspace.runs_publish_of_offers {w : Workspace} {bytes : Bytes} {assembly : Assembly}
    (ht : w.Offers ".o.tmp") (ho : w.Offers "o") (hb : assembly.toBytes ".o.tmp" = .ok bytes) :
    Runs (assembly.publish "o") w assembly.size (w.published bytes) := by
  have temporary : Assembly.temporaryPath "o" = ".o.tmp" := by cbv
  have named : Place.named ".o.tmp" = [".o.tmp"] := by cbv
  have output : Place.named "o" = ["o"] := by cbv
  have published := @Assembly.runs_publish assembly "o" bytes w
  rw [temporary, named, output] at published
  refine published ?_ ht ho hb
  intro directory hp
  have parent : Path.parent? ".o.tmp" = some "" := by cbv
  rw [parent] at hp
  cases hp
  exact Action.runs_createDirectories (by cbv) rfl

namespace Workspace.Ready

variable {w : Workspace} {place : Place} {bytes : Bytes}

theorem insert_file (h : w.Ready) (hp : w.node? place ≠ some .directory) :
    (w.insert place (.file bytes)).Ready := by
  have top := isTop_eq_false hp
  have free (other : Place) (hn : w.node? other ≠ some .directory) :
      (w.insert place (.file bytes)).node? other ≠ some .directory := by
    rw [node?_insert top]
    split
    · simp
    · exact hn
  exact ⟨(changes_insert_file hp bytes).directories _ h.directory, free _ h.output,
    free _ h.temporary, free _ h.manifest, free _ h.next⟩

theorem erase_file (h : w.Ready) (hp : w.node? place ≠ some .directory) :
    (w.erase place).Ready := by
  have top := isTop_eq_false hp
  have free (other : Place) (hn : w.node? other ≠ some .directory) :
      (w.erase place).node? other ≠ some .directory := by
    rw [node?_erase top]
    split
    · simp
    · exact hn
  refine ⟨?_, free _ h.output, free _ h.temporary, free _ h.manifest, free _ h.next⟩
  have ne : ["m"] ≠ place := by
    rintro rfl
    exact hp h.directory
  rw [node?_erase top, if_neg ne, h.directory]

theorem isStep_m : Identity.IsStep "m" := by decide

theorem named_m : Place.named "m" = ["m"] := by cbv

theorem pathIn_m : Manifest.pathIn "m" = "m/fingerprints.json" := by
  have relative : Path.isAbsolute "fingerprints.json" = false :=
    Path.isAbsolute_eq_false (by decide)
  have plain : "m".endsWith "/" = false := by cbv
  simp [Manifest.pathIn, Path.join, relative, plain]

theorem temporaryPathIn_m : Manifest.temporaryPathIn "m" = "m/fingerprints.json.tmp" := by
  have relative : Path.isAbsolute "fingerprints.json.tmp" = false :=
    Path.isAbsolute_eq_false (by decide)
  have plain : "m".endsWith "/" = false := by cbv
  simp [Manifest.temporaryPathIn, Path.join, relative, plain]

theorem named_manifest : Place.named (Manifest.pathIn "m") = ["m", "fingerprints.json"] := by
  rw [Manifest.named_pathIn, named_m, List.singleton_append]

theorem named_next :
    Place.named (Manifest.temporaryPathIn "m") = ["m", "fingerprints.json.tmp"] := by
  rw [Manifest.named_temporaryPathIn, named_m, List.singleton_append]

theorem reaches_m : w.Reaches "m" :=
  reaches_of_isStep isStep_m (by decide) (by cbv)

variable (h : w.Ready)
include h

theorem runs_createDirectories {ε : Type} (error : ε) :
    Runs (Action.createDirectories error "m") w () w :=
  Action.runs_createDirectories_of_isStep isStep_m (by decide) (by cbv) (by cbv) h.directory

theorem reaches_in_m {step : String} (hs : Identity.IsStep step)
    (size : step.utf8ByteSize ≤ maxName) (short : isBadPath (Path.join "m" step) = false) :
    w.Reaches (Path.join "m" step) :=
  reaches_join reaches_m (by cbv) (named_m ▸ h.directory) hs size short

theorem offers_manifest : w.Offers (Manifest.pathIn "m") := by
  have short : isBadPath (Manifest.pathIn "m") = false := by
    rw [pathIn_m]
    cbv
  exact ⟨h.reaches_in_m (by decide) (by decide) short,
    named_manifest ▸ h.manifest⟩

theorem offers_next : w.Offers (Manifest.temporaryPathIn "m") := by
  have short : isBadPath (Manifest.temporaryPathIn "m") = false := by
    rw [temporaryPathIn_m]
    cbv
  exact ⟨h.reaches_in_m (by decide) (by decide) short,
    named_next ▸ h.next⟩

theorem offers_output : w.Offers "o" := by
  have named : Place.named "o" = ["o"] := by cbv
  exact ⟨reaches_of_isStep (by decide) (by decide) (by cbv),
    named ▸ h.output⟩

theorem offers_temporary : w.Offers ".o.tmp" := by
  have named : Place.named ".o.tmp" = [".o.tmp"] := by cbv
  exact ⟨reaches_of_isStep (by decide) (by decide) (by cbv),
    named ▸ h.temporary⟩

/-- Nothing is changed by a reset where nothing is kept. -/
theorem runs_reset (hm : w.node? ["m", "fingerprints.json"] = none)
    (hs : w.node? ["m", "units"] = none) (version : String) (previous : PreviousRun) :
    Runs (Cache.mk "m" version previous).reset w ⟨"m", version, .unknown⟩ w := by
  have named : Place.named (Path.join "m" "units") = ["m", "units"] := by cbv
  have reaches : w.Reaches (Path.join "m" "units") :=
    h.reaches_in_m (by decide) (by decide) (by cbv)
  exact Cache.runs_reset
    (remove_of_none h.offers_manifest.reaches (named_manifest.symm ▸ hm))
    (removeTree_of_none reaches (named.symm ▸ hs))

theorem runs_save (manifest : Manifest) :
    Runs (manifest.save "m") w () (w.saved manifest) := by
  have saved := @Manifest.runs_save manifest "m" w (h.runs_createDirectories _) h.offers_next
    h.offers_manifest
  rwa [named_manifest, named_next] at saved

theorem runs_publish {assembly : Assembly} (hb : assembly.toBytes ".o.tmp" = .ok bytes) :
    Runs (assembly.publish "o") w assembly.size (w.published bytes) :=
  runs_publish_of_offers h.offers_temporary h.offers_output hb

theorem saved (manifest : Manifest) : (w.saved manifest).Ready := by
  have erased := h.erase_file h.next
  exact erased.insert_file erased.manifest

theorem published (bytes : Bytes) : (w.published bytes).Ready := by
  have erased := h.erase_file h.temporary
  exact erased.insert_file erased.output

theorem node?_saved (manifest : Manifest) (place : Place) :
    (w.saved manifest).node? place =
      if place = ["m", "fingerprints.json"] then some (.file manifest.fileBytes)
      else if place = ["m", "fingerprints.json.tmp"] then none else w.node? place := by
  have erased := h.erase_file h.next
  rw [Workspace.saved, node?_insert (isTop_eq_false erased.manifest),
    node?_erase (isTop_eq_false h.next)]

theorem node?_published (bytes : Bytes) (place : Place) :
    (w.published bytes).node? place =
      if place = ["o"] then some (.file bytes)
      else if place = [".o.tmp"] then none else w.node? place := by
  have erased := h.erase_file h.temporary
  rw [Workspace.published, node?_insert (isTop_eq_false erased.output),
    node?_erase (isTop_eq_false h.temporary)]

theorem read_output (hn : w.node? ["o"] = some (.file bytes)) : w.read "o" = .ok bytes := by
  have output : Place.named "o" = ["o"] := by cbv
  exact read_eq_ok_iff.mpr ⟨h.offers_output.reaches, output ▸ hn⟩

theorem read_saved (manifest : Manifest) :
    (w.saved manifest).read (Manifest.pathIn "m") = .ok manifest.fileBytes := by
  refine read_eq_ok_iff.mpr ⟨(h.saved manifest).offers_manifest.reaches, ?_⟩
  rw [named_manifest, h.node?_saved, if_pos rfl]

/-- A manifest is saved beside the output. -/
theorem read_output_saved (manifest : Manifest) (hr : w.read "o" = .ok bytes) :
    (w.saved manifest).read "o" = .ok bytes := by
  have output : Place.named "o" = ["o"] := by cbv
  refine (h.saved manifest).read_output ?_
  rw [h.node?_saved, if_neg (by decide), if_neg (by decide), ← output]
  exact (read_eq_ok_iff.mp hr).2

theorem read_published (bytes : Bytes) : (w.published bytes).read "o" = .ok bytes := by
  refine (h.published bytes).read_output ?_
  rw [h.node?_published, if_pos rfl]

end Workspace.Ready

/-- What is there when the unit `x` has been stored. -/
def Workspace.stored (w : Workspace) (content : Bytes) : Workspace :=
  (w.insert ["m", "units"] .directory).insert ["m", "units", "x"]
    (.file (UnitStore.encode toolVersion content))

/-- A workspace in which the unit `x` can be stored. -/
structure Workspace.Stores (w : Workspace) : Prop where
  ready : w.Ready
  units : w.node? ["m", "units"] = none ∨ w.node? ["m", "units"] = some .directory
  free : w.node? ["m", "units", "x"] ≠ some .directory

theorem Workspace.insert_eq_self {w : Workspace} {place : Place} {node : Node}
    (ht : place.isTop = false) (h : w.node? place = some node) : w.insert place node = w := by
  have held : w.nodes[place]? = some node := by simpa [node?, ht] using h
  have nodes : w.nodes.insert place node = w.nodes := by
    apply Std.ExtTreeMap.ext_getElem?
    intro other
    rw [Std.ExtTreeMap.getElem?_insert]
    split
    next he => rw [← Std.LawfulEqCmp.compare_eq_iff_eq.mp he, held]
    next => rfl
  exact congrArg Workspace.mk nodes

namespace Workspace.Ready

variable {w : Workspace}

theorem insert_units (h : w.Ready) : (w.insert ["m", "units"] .directory).Ready := by
  have node (place : Place) (hp : place ≠ ["m", "units"]) :
      (w.insert ["m", "units"] .directory).node? place = w.node? place := by
    rw [node?_insert (by decide), if_neg hp]
  refine ⟨?_, ?_, ?_, ?_, ?_⟩
  · rw [node _ (by decide)]
    exact h.directory
  · rw [node _ (by decide)]
    exact h.output
  · rw [node _ (by decide)]
    exact h.temporary
  · rw [node _ (by decide)]
    exact h.manifest
  · rw [node _ (by decide)]
    exact h.next

theorem makeDirectory_m (h : w.Ready) : w.makeDirectory "m" = .ok w := by
  rw [makeDirectory_of_reaches reaches_m (by cbv), named_m, h.directory]

theorem join_units : Path.join "m" "units" = "m/units" := by cbv

theorem named_units : Place.named "m/units" = ["m", "units"] := by cbv

theorem reaches_units (h : w.Ready) : w.Reaches "m/units" :=
  join_units ▸ h.reaches_in_m (by decide) (by decide) (by cbv)

/-- The directory for units can be made, whether or not it is there. -/
theorem makeDirectory_units (h : w.Ready)
    (hu : w.node? ["m", "units"] = none ∨ w.node? ["m", "units"] = some .directory) :
    w.makeDirectory "m/units" = .ok (w.insert ["m", "units"] .directory) := by
  rw [makeDirectory_of_reaches h.reaches_units (by cbv), named_units]
  rcases hu with hu | hu
  · rw [hu]
  · rw [hu, insert_eq_self (by decide) hu]

end Workspace.Ready

namespace Workspace.Stores

variable {w : Workspace} {content bytes : Bytes}

theorem free_units (h : w.Stores) :
    (w.insert ["m", "units"] .directory).node? ["m", "units", "x"] ≠ some .directory := by
  rw [node?_insert (by decide), if_neg (by decide)]
  exact h.free

theorem ready_stored (h : w.Stores) (content : Bytes) : (w.stored content).Ready :=
  h.ready.insert_units.insert_file h.free_units

theorem node?_stored (w : Workspace) (content : Bytes) (place : Place) :
    (w.stored content).node? place =
      if place = ["m", "units", "x"] then some (.file (UnitStore.encode toolVersion content))
      else if place = ["m", "units"] then some .directory else w.node? place := by
  rw [stored, node?_insert (by decide), node?_insert (by decide)]

theorem unitPath_x : (UnitStore.ofDirectory "m" toolVersion).unitPath "x" = "m/units/x" := by cbv

theorem named_x : Place.named "m/units/x" = ["m", "units", "x"] := by cbv

theorem reaches_x (h : w.Ready) (hu : w.node? ["m", "units"] = some .directory) :
    w.Reaches "m/units/x" := by
  have joined : Path.join "m/units" "x" = "m/units/x" := by cbv
  have reaches : w.Reaches (Path.join "m/units" "x") :=
    reaches_join h.reaches_units (by cbv) (Ready.named_units ▸ hu)
      (by decide) (by decide) (by cbv)
  rwa [joined] at reaches

theorem runs_write (h : w.Stores) (content : Bytes) :
    Runs ((UnitStore.ofDirectory "m" toolVersion).write "x" content) w () (w.stored content) := by
  have parent : Path.parent? "m/units/x" = some "m/units" := by cbv
  have ancestors : Path.ancestors "m/units" = ["m", "m/units"] := by cbv
  have directories : Runs (Action.createDirectories (CacheError.io "m/units") "m/units") w ()
      (w.insert ["m", "units"] .directory) := by
    refine Action.runs_createDirectories (by cbv) ?_
    rw [ancestors]
    refine Except.bind_eq_ok_iff.mpr ⟨w, h.ready.makeDirectory_m, ?_⟩
    exact Except.bind_eq_ok_iff.mpr ⟨_, h.ready.makeDirectory_units h.units, rfl⟩
  have here : (w.insert ["m", "units"] .directory).node? ["m", "units"] = some .directory := by
    rw [node?_insert (by decide), if_pos rfl]
  have offers : (w.insert ["m", "units"] .directory).Offers "m/units/x" :=
    ⟨reaches_x h.ready.insert_units here, named_x ▸ h.free_units⟩
  have written := @UnitStore.runs_write (UnitStore.ofDirectory "m" toolVersion) "x" "m/units"
    content w (w.insert ["m", "units"] .directory)
  rw [unitPath_x, named_x] at written
  exact written parent directories offers

theorem read_stored (h : w.Stores) (content : Bytes) :
    (UnitStore.ofDirectory "m" toolVersion).read (w.stored content) "x" = .ok content := by
  have here : (w.stored content).node? ["m", "units"] = some .directory := by
    rw [node?_stored, if_neg (by decide), if_pos rfl]
  have read : (w.stored content).read "m/units/x"
      = .ok (UnitStore.encode toolVersion content) := by
    refine read_eq_ok_iff.mpr ⟨reaches_x (h.ready_stored content) here, ?_⟩
    rw [named_x, node?_stored, if_pos rfl]
  have version : toolVersion.toList.length < 2 ^ 20 := by decide
  unfold UnitStore.read
  rw [unitPath_x]
  exact Except.bind_eq_ok_iff.mpr
    ⟨_, Except.mapError_eq_ok_iff.mpr read, UnitStore.decode_encode _ _ version⟩

end Workspace.Stores

end MethodTrace
