import MethodTrace.Proofs.FinishedRuns

/-!
What runs leave behind: a manifest with some fingerprints, and an output with some entries.
-/

namespace MethodTrace

/-- The entry that is written for a unit with some content. -/
def Settings.entryFor (settings : Settings) (filter : TagFilter) (identity : String)
    (content : Bytes) : ArchiveEntry :=
  .ofContent settings.archive identity <|
    match traceUnit identity content filter settings.hooks with
    | .ok traced => traced.bytes
    | .error _ => content

theorem Settings.entryFor_of_trace {invocation : Invocation} {filter : TagFilter}
    {identity : String} {content : Bytes} {traced : TracedUnit}
    (h : (invocation.context filter).trace identity content = .ok traced) :
    invocation.settings.entryFor filter identity content
      = .ofContent invocation.settings.archive identity traced.bytes := by
  have ht : traceUnit identity content filter invocation.settings.hooks = .ok traced :=
    Except.mapError_eq_ok_iff.mp h
  rw [entryFor, ht]

namespace Invocation

variable {invocation : Invocation} {filter : TagFilter} {prints : Fingerprints}
  {entries : Std.ExtTreeMap String ArchiveEntry} {start assembly : Assembly}
  {units : List BuildUnit} {unit : BuildUnit} {u v w : Workspace}

theorem getElem?_built (assembly : Assembly) (name : String) :
    assembly.built[name]?
      = assembly.entries[name]?.map (PendingEntry.entry assembly.settings name) := by
  rw [Assembly.built, Std.ExtTreeMap.getElem?_map]

theorem start_settings (previous : Option Archive) :
    (invocation.start previous).settings = invocation.settings.archive := by
  cases previous with
  | none => rfl
  | some archive => exact Assembly.settings_ofArchive archive _

namespace Updated

variable {previous : Option Archive}
  (h : Updated (invocation.context filter) u (invocation.start previous) units assembly)
include h

theorem settings_eq : assembly.settings = invocation.settings.archive :=
  h.settings.trans (start_settings _)

/-- A unit that is written gets the entry for what it holds when it is read. -/
theorem built_of_written (hu : unit ∈ units) (hw : unit.kind.needsWrite = true) :
    ∃ s content, Workspace.Changes ((invocation.context filter).store.placesOf units) u s ∧
      unit.load s = .ok content ∧ assembly.built[unit.identity]?
        = some (invocation.settings.entryFor filter unit.identity content) := by
  obtain ⟨s, content, traced, hc, hl, ht, he⟩ := h.fresh unit hu hw
  refine ⟨s, content, hc, hl, ?_⟩
  rw [getElem?_built, he, h.settings_eq, Settings.entryFor_of_trace ht]
  rfl

/-- A member that is written gets the entry for what it has in its archive. -/
theorem built_of_member {name : String} {held : ArchivedUnit} {kind : ChangeKind}
    (hu : Detection.memberUnit name held kind ∈ units) (hw : kind.needsWrite = true) :
    assembly.built[name]? = some (invocation.settings.entryFor filter name held.content) := by
  obtain ⟨s, content, _, hl, he⟩ := h.built_of_written hu hw
  have loaded : (Detection.memberUnit name held kind).load s = .ok held.content := by
    simp [BuildUnit.load, Detection.memberUnit, hw]
  cases hl.symm.trans loaded
  exact he

theorem built_of_untouched {name : String} (hn : ∀ unit ∈ units, unit.identity ≠ name) :
    assembly.built[name]? = (invocation.start previous).built[name]? := by
  rw [getElem?_built, getElem?_built, h.settings, h.kept name hn]

theorem built_of_removed (hu : unit ∈ units) (hk : unit.kind = .removed) :
    assembly.built[unit.identity]? = none := by
  rw [getElem?_built, h.gone unit hu hk]
  rfl

end Updated

/-- What a run leaves behind: the manifest has some fingerprints, and the output holds some
entries unless it has the place of the manifest. -/
structure Left (invocation : Invocation) (filter : TagFilter) (prints : Fingerprints)
    (entries : Std.ExtTreeMap String ArchiveEntry) (w : Workspace) : Prop where
  manifest : w.read (Manifest.pathIn invocation.intermediate)
    = .ok (invocation.manifest filter prints).fileBytes
  output : w.read invocation.output
    = invocation.keptOutput (invocation.manifest filter prints) (Archive.ofMap entries).toBytes
  fits : (Archive.ofMap entries).Fits

/-- The next run finds the fingerprints. -/
theorem Left.fingerprints_kept (h : invocation.Left filter prints entries w) :
    (invocation.kept w).fingerprints = prints := by
  unfold Invocation.kept Cache.ofDirectory
  rw [Manifest.find_of_read h.manifest]
  rfl

/-- Where an archive is read from the output, the manifest has another place. -/
theorem Left.keptOutput_eq {archive : Archive} (h : invocation.Left filter prints entries w)
    (ha : Archive.ofFile w invocation.output = .ok archive) (manifest : Manifest) (bytes : Bytes) :
    invocation.keptOutput manifest bytes = .ok bytes := by
  unfold Archive.ofFile at ha
  obtain ⟨held, hr, ha⟩ := Except.bind_eq_ok_iff.mp ha
  have read := Except.mapError_eq_ok_iff.mp hr
  have entries := Except.mapError_eq_ok_iff.mp ha
  have output := h.output
  rw [read] at output
  unfold keptOutput at output ⊢
  split at output
  · cases output
  next ht =>
    split at output
    · cases output
      exact absurd (Archive.five_mem_of_entries entries) (Manifest.five_not_mem_fileBytes _)
    next hp => rw [if_neg ht, if_neg hp]

/-- An archive that is read from the output has the entries. -/
theorem Left.eq_of_ofFile {archive : Archive} (h : invocation.Left filter prints entries w)
    (ha : Archive.ofFile w invocation.output = .ok archive) :
    archive = Archive.ofMap entries ∧
      w.read invocation.output = .ok (Archive.ofMap entries).toBytes := by
  have output := h.output.trans (h.keptOutput_eq ha _ _)
  refine ⟨?_, output⟩
  unfold Archive.ofFile at ha
  obtain ⟨held, hr, ha⟩ := Except.bind_eq_ok_iff.mp ha
  have read := Except.mapError_eq_ok_iff.mp hr
  rw [output] at read
  cases read
  exact Archive.eq_of_entries_toBytes h.fits (Except.mapError_eq_ok_iff.mp ha)

theorem length_version_lt :
    (invocation.context filter).store.version.toList.length < 2 ^ 20 := by
  change toolVersion.toList.length < 2 ^ 20
  decide

/-- The last steps of a run leave what its tasks have made of what it started with. -/
theorem left_of_steps {cache last : Cache} {previous : Option Archive}
    {outcomes : List TaskOutcome} {count : Nat} {s t : Workspace}
    (hd : cache.directory = invocation.intermediate)
    (normal : ∀ unit ∈ units, Identity.IsNormal unit.identity)
    (nodup : (units.map (·.identity)).Nodup)
    (clean : (invocation.start previous).built = entries)
    (found : ∀ archive, previous = some archive →
      u.read invocation.output = .ok (Archive.ofMap entries).toBytes ∧
        (Archive.ofMap entries).Fits)
    (ht : Runs ((invocation.context filter).runTasks units) u outcomes s)
    (hw : Runs (invocation.writeOutput (invocation.context filter).store previous outcomes)
      s count t)
    (hc : Runs (cache.commit (invocation.manifest filter prints)) t last w) :
    ∃ assembly, Updated (invocation.context filter) u (invocation.start previous) units assembly ∧
      invocation.Left filter prints assembly.built w := by
  obtain ⟨assembly, updated, written⟩ := writeOutput_runs length_version_lt normal nodup ht hw
  refine ⟨assembly, updated, ?_⟩
  have output : t.read invocation.output = .ok (Archive.ofMap assembly.built).toBytes ∧
      (Archive.ofMap assembly.built).Fits := by
    rcases written with ⟨archive, rfl, rfl, rfl⟩ | ⟨hr, fits⟩
    · have same : assembly.built = entries := by
        rw [← clean]
        apply Std.ExtTreeMap.ext_getElem?
        intro name
        exact updated.built_of_untouched (by simp)
      rw [same]
      exact found archive rfl
    · exact ⟨hr, fits⟩
  obtain ⟨hm, ho⟩ := commit_runs hd output.1 hc
  exact ⟨hm, ho, output.2⟩

theorem built_start_none : (invocation.start none).built = ∅ := by
  apply Std.ExtTreeMap.ext_getElem?
  intro name
  rw [getElem?_built]
  simp [start, Assembly.empty]

/-- The invocation with other knowledge of the changes. -/
def withChanges (invocation : Invocation) (changes : InputChanges) : Invocation :=
  { invocation with changes }

theorem left_withChanges {changes : InputChanges} :
    (invocation.withChanges changes).Left filter prints entries w ↔
      invocation.Left filter prints entries w :=
  ⟨fun h => ⟨h.manifest, h.output, h.fits⟩, fun h => ⟨h.manifest, h.output, h.fits⟩⟩

/-- The manifest and the output are in one workspace as they are in another. -/
def SameResults (invocation : Invocation) (u v : Workspace) : Prop :=
  v.read (Manifest.pathIn invocation.intermediate)
      = u.read (Manifest.pathIn invocation.intermediate) ∧
    v.read invocation.output = u.read invocation.output

theorem Left.of_sameResults (h : invocation.Left filter prints entries u)
    (same : invocation.SameResults u v) : invocation.Left filter prints entries v :=
  ⟨same.1.trans h.manifest, same.2.trans h.output, h.fits⟩

end Invocation

end MethodTrace
