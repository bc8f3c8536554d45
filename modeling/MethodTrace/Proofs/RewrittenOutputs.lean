import MethodTrace.Proofs.ChangedAssemblies
import MethodTrace.Proofs.IncrementalRuns

/-!
Archives that are written again from what has been read of them.

Headers hold nothing that does not follow from the entries, and entries that are carried over do not
depend on the settings. So an archive is the same again, and an output to which nothing was done may
stay as it is.
-/

namespace MethodTrace.Assembly

variable {previous archive : Archive} {settings : ArchiveSettings} {changes : List EntryChange}
  {assembly : Assembly} {path source name : String} {bytes : Bytes} {count : Nat} {v w : Workspace}

theorem named_built_changed (names : ∀ name content,
      pendingAfter? previous changes name = some (.fresh content) → name.endsWith "/" = false) :
    Named (changed previous settings changes).built := by
  intro name entry h
  obtain ⟨pending, hp, rfl⟩ := built_changed.mp h
  cases pending with
  | carried entry => exact (carried_of_pendingAfter? hp).symm
  | fresh content => exact ⟨rfl, names name content hp⟩

theorem isShort_of_mem_ofArchive {item : String × PendingEntry}
    (h : item ∈ (ofArchive archive settings).entries.toList) : item.2.IsShort := by
  have held := Std.ExtTreeMap.mem_toList_iff_getElem?_eq_some.mp h
  rw [entries_ofArchive] at held
  obtain ⟨entry, _, carried⟩ := Option.map_eq_some_iff.mp held
  intro content fresh
  rw [← carried] at fresh
  cases fresh

/-- An archive of entries under their own names is the same if it is written again. -/
theorem toBytes_ofArchive_ofMap {map : Std.ExtTreeMap String ArchiveEntry} (named : Named map)
    (fits : (Archive.ofMap map).Fits) (settings : ArchiveSettings) (path : String) :
    (ofArchive (Archive.ofMap map) settings).toBytes path = .ok (Archive.ofMap map).toBytes := by
  refine toBytes_eq_ok_iff.mpr ⟨fun item hi => isShort_of_mem_ofArchive hi, ?_, ?_⟩
  · rwa [built_ofArchive named]
  · rw [built_ofArchive named]

theorem size_eq_length (assembly : Assembly) :
    assembly.size = (Archive.ofMap assembly.built).length := by
  rw [Archive.ofMap, List.length_map, Std.ExtTreeMap.length_toList, built, Std.ExtTreeMap.size_map]
  rfl

theorem eq_size_of_publish (h : Runs (assembly.publish path) v count w) :
    count = assembly.size := by
  unfold publish at h
  extract_lets temporary rest at h
  have final : ∀ s, Runs (rest ()) s count w → count = assembly.size := by
    intro s h
    obtain ⟨_, t, _, h⟩ := Runs.bind_iff.mp h
    exact (Runs.pure_iff.mp h).1
  split at h
  next =>
    obtain ⟨_, s, _, h⟩ := Runs.bind_iff.mp h
    exact final s h
  next => exact final v h

/-- An archive that has been read is written again as it was, whatever the settings. So the output
that stays because nothing was done is the one that would have been published. -/
theorem toBytes_ofArchive_of_read (names : ∀ name content,
      pendingAfter? previous changes name = some (.fresh content) → name.endsWith "/" = false)
    (written : (changed previous settings changes).toBytes path = .ok bytes)
    (read : Archive.ofBytes source bytes = .ok archive) :
    (∀ others otherPath, (ofArchive archive others).toBytes otherPath = .ok bytes) ∧
    ∀ (invocation : Invocation) (v : Workspace), v.read invocation.output = .ok bytes →
      Archive.ofFile v invocation.output = .ok archive ∧
      (∀ store, Runs (invocation.writeOutput store (some archive) []) v archive.length v) ∧
      ∀ others count w, Runs ((ofArchive archive others).publish invocation.output) v count w →
        count = archive.length ∧ w.read invocation.output = .ok bytes := by
  have named : Named (changed previous settings changes).built := named_built_changed names
  obtain ⟨rfl, fits⟩ := toBytes_eq_ok written
  have entries := Except.mapError_eq_ok_iff.mp read
  obtain rfl := Archive.eq_of_entries_toBytes fits entries
  refine ⟨toBytes_ofArchive_ofMap named fits, fun invocation v output => ⟨?_, ?_, ?_⟩⟩
  · unfold Archive.ofFile Workspace.readOr
    rw [output]
    exact Except.mapError_eq_ok_iff.mpr entries
  · exact fun store => Runs.pure_iff.mpr ⟨rfl, rfl⟩
  · intro others count w published
    have size := eq_size_of_publish published
    have output := (publish_runs published).1
    rw [size_eq_length, built_ofArchive named] at size
    rw [built_ofArchive named] at output
    exact ⟨size, output⟩

open Invocation in
/-- An archive that stays, that is written again and that is published again. -/
theorem toBytes_ofArchive_sampleChanged : ∃ v : Workspace,
    (changed sampleRepeated {} sampleChanges).toBytes "x.jar" = .ok sampleChanged.toBytes ∧
    v.read "o" = .ok sampleChanged.toBytes ∧
    Archive.ofBytes "y.jar" sampleChanged.toBytes = .ok sampleChanged ∧
    (ofArchive sampleChanged ⟨.deflate, 9⟩).toBytes "z.jar" = .ok sampleChanged.toBytes ∧
    Runs (withoutInputs.writeOutput (withoutInputs.context noFilter).store
      (some sampleChanged) []) v 2 v ∧
    ∃ w, Runs ((ofArchive sampleChanged ⟨.deflate, 9⟩).publish "o") v 2 w ∧
      w.read "o" = .ok sampleChanged.toBytes := by
  have names (name : String) (content : Bytes)
      (h : pendingAfter? sampleRepeated sampleChanges name = some (.fresh content)) :
      name.endsWith "/" = false := by
    have inserted := insert_mem_of_pendingAfter? h
    simp only [sampleChanges, List.mem_cons, EntryChange.insert.injEq, reduceCtorEq,
      List.not_mem_nil, or_false] at inserted
    rw [inserted.1]
    cbv
  have read : Archive.ofBytes "y.jar" sampleChanged.toBytes = .ok sampleChanged := by
    decide +kernel
  obtain ⟨again, run⟩ := toBytes_ofArchive_of_read names toBytes_sampleChanges read
  have output := ready_bare.read_published sampleChanged.toBytes
  obtain ⟨_, stays, same⟩ := run withoutInputs _ output
  have published := (ready_bare.published sampleChanged.toBytes).runs_publish
    (again ⟨.deflate, 9⟩ ".o.tmp")
  obtain ⟨count, read'⟩ := same _ _ _ published
  rw [count] at published
  exact ⟨_, toBytes_sampleChanges, output, read, again _ _, stays _, _, published, read'⟩

end MethodTrace.Assembly
