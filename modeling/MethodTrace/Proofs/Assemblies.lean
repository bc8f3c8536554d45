import MethodTrace.Archive.File
import MethodTrace.Proofs.ArchiveBytes
import MethodTrace.Proofs.FileChanges

/-!
Assemblies as maps from names to entries, and the archives that are written of them.
-/

namespace MethodTrace

namespace ArchiveWriter

/-- A writer that has taken some entries, all of which fit. -/
structure Holds (writer : ArchiveWriter) (entries : Archive) : Prop where
  written : writer.written = entries.reverse
  offset : writer.offset = (entries.flatMap ArchiveEntry.localRecord).length
  fit : ∀ entry ∈ entries, Archive.EntryFits entry

variable {writer next : ArchiveWriter} {entries : Archive} {entry : ArchiveEntry} {bytes : Bytes}

theorem holds_start (path : String) (settings : ArchiveSettings) : (start path settings).Holds [] :=
  ⟨rfl, rfl, by simp⟩

theorem fits_of_add (h : writer.add entry = .ok next) : Archive.EntryFits entry := by
  unfold add at h
  dsimp only at h
  split at h
  · cases h
  split at h
  · cases h
  · exact ⟨by omega, by omega⟩

theorem Holds.add (h : writer.Holds entries) (ha : writer.add entry = .ok next) :
    next.Holds (entries ++ [entry]) ∧ next.settings = writer.settings := by
  have fits := fits_of_add ha
  unfold ArchiveWriter.add at ha
  dsimp only at ha
  split at ha
  · cases ha
  split at ha
  · cases ha
  · cases ha
    refine ⟨⟨?_, ?_, ?_⟩, rfl⟩
    · simp [h.written]
    · simp [h.offset, ArchiveEntry.length_localRecord]
    · intro other hm
      rcases List.mem_append.mp hm with hm | hm
      · exact h.fit other hm
      · rwa [List.mem_singleton.mp hm]

theorem Holds.addContent {name : String} {content : Bytes} (h : writer.Holds entries)
    (ha : writer.addContent name content = .ok next) :
    next.Holds (entries ++ [ArchiveEntry.ofContent writer.settings name content]) ∧
      next.settings = writer.settings := by
  unfold ArchiveWriter.addContent at ha
  dsimp only at ha
  split at ha
  · cases ha
  · exact h.add ha

theorem Holds.finish (h : writer.Holds entries) (hf : writer.finish = .ok bytes) :
    bytes = entries.toBytes ∧ entries.Fits := by
  have written : writer.entries = entries := by simp [ArchiveWriter.entries, h.written]
  have count : writer.written.length = entries.length := by simp [h.written]
  unfold ArchiveWriter.finish at hf
  rw [written, count, h.offset] at hf
  dsimp only at hf
  split at hf
  · cases hf
  next hl =>
    cases hf
    simp only [not_or, Nat.not_le] at hl
    exact ⟨rfl, h.fit, hl.1, hl.2.1, hl.2.2⟩

end ArchiveWriter

/-- The entry that is written for a pending one. -/
def PendingEntry.entry (settings : ArchiveSettings) (name : String) : PendingEntry → ArchiveEntry
  | carried entry => entry
  | fresh content => .ofContent settings name content

namespace ArchiveWriter

variable {writer next : ArchiveWriter} {entries : Archive}

theorem Holds.writeEntry {item : String × PendingEntry} (h : writer.Holds entries)
    (hw : Assembly.writeEntry writer item = .ok next) :
    next.Holds (entries ++ [item.2.entry writer.settings item.1]) ∧
      next.settings = writer.settings := by
  obtain ⟨name, pending⟩ := item
  cases pending with
  | carried entry => exact h.add hw
  | fresh content => exact h.addContent hw

theorem Holds.foldlM {items : List (String × PendingEntry)} (h : writer.Holds entries)
    (hw : items.foldlM Assembly.writeEntry writer = .ok next) :
    next.Holds (entries ++ items.map fun (name, pending) => pending.entry writer.settings name) ∧
      next.settings = writer.settings := by
  induction items generalizing writer entries with
  | nil =>
    cases hw
    exact ⟨by simpa using h, rfl⟩
  | cons item items ih =>
    rw [List.foldlM_cons] at hw
    obtain ⟨middle, hm, hw⟩ := Except.bind_eq_ok_iff.mp hw
    obtain ⟨held, settings⟩ := h.writeEntry hm
    have all := ih held hw
    rwa [settings, List.append_assoc] at all

end ArchiveWriter

/-- The entries of a map in the order of their names. -/
def Archive.ofMap (map : Std.ExtTreeMap String ArchiveEntry) : Archive :=
  map.toList.map (·.2)

namespace Assembly

variable {assembly : Assembly} {path name : String} {bytes : Bytes} {v w : Workspace}

/-- The entries that are written for an assembly, by their names. -/
def built (assembly : Assembly) : Std.ExtTreeMap String ArchiveEntry :=
  assembly.entries.map fun name pending => pending.entry assembly.settings name

/-- What is written of an assembly is the archive of its entries. -/
theorem toBytes_eq_ok (h : assembly.toBytes path = .ok bytes) :
    bytes = (Archive.ofMap assembly.built).toBytes ∧ (Archive.ofMap assembly.built).Fits := by
  unfold toBytes at h
  obtain ⟨writer, hw, hf⟩ := Except.bind_eq_ok_iff.mp h
  have holds := ((ArchiveWriter.holds_start path assembly.settings).foldlM hw).1
  have archive : Archive.ofMap assembly.built
      = [] ++ assembly.entries.toList.map fun (name, pending) =>
        pending.entry assembly.settings name := by
    rw [Archive.ofMap, built, Std.ExtTreeMap.toList_map, List.map_map, List.nil_append]
    rfl
  rw [archive]
  exact holds.finish hf

theorem entries_carry (assembly : Assembly) (entry : ArchiveEntry) (name : String) :
    (assembly.carry entry).entries[name]? = assembly.entries[name]?.or
      (if !entry.isDirectory && entry.name == name then some (.carried entry) else none) := by
  unfold carry
  by_cases hn : entry.name = name
  · subst hn
    cases hd : entry.isDirectory with
    | true => simp
    | false =>
      cases hc : assembly.entries[entry.name]? with
      | some pending =>
        have : assembly.entries.contains entry.name = true := by
          rw [Std.ExtTreeMap.contains_eq_isSome_getElem?, hc]
          rfl
        simp [this, hc]
      | none =>
        have : assembly.entries.contains entry.name = false := by
          rw [Std.ExtTreeMap.contains_eq_isSome_getElem?, hc]
          rfl
        simp [this]
  · split
    · simp [hn]
    · simp [hn, Std.ExtTreeMap.getElem?_insert, Std.LawfulEqCmp.compare_eq_iff_eq]

theorem entries_foldl_carry (archive : Archive) (assembly : Assembly) (name : String) :
    (archive.foldl carry assembly).entries[name]? = assembly.entries[name]?.or
      ((archive.find? fun entry => !entry.isDirectory && entry.name == name).map .carried) := by
  induction archive generalizing assembly with
  | nil => simp
  | cons entry archive ih =>
    rw [List.foldl_cons, ih, entries_carry, Option.or_assoc, List.find?_cons]
    congr 1
    split
    next h => simp [h]
    next h => simp [h]

/-- An entry of an archive is carried over if it is the first one of its name and no directory. -/
theorem entries_ofArchive (archive : Archive) (settings : ArchiveSettings) (name : String) :
    (ofArchive archive settings).entries[name]?
      = (archive.find? fun entry => !entry.isDirectory && entry.name == name).map .carried := by
  rw [ofArchive, entries_foldl_carry, empty]
  simp

theorem settings_ofArchive (archive : Archive) (settings : ArchiveSettings) :
    (ofArchive archive settings).settings = settings := by
  have fold : ∀ assembly : Assembly, (archive.foldl carry assembly).settings = assembly.settings := by
    induction archive with
    | nil => intro assembly; rfl
    | cons entry archive ih =>
      intro assembly
      rw [List.foldl_cons, ih, carry]
      split
      · rfl
      · rfl
  exact fold _

/-- Entries under their own names, none of which is the name of a directory. -/
def Named (map : Std.ExtTreeMap String ArchiveEntry) : Prop :=
  ∀ name (entry : ArchiveEntry), map[name]? = some entry →
    entry.name = name ∧ entry.isDirectory = false

theorem find?_ofMap {map : Std.ExtTreeMap String ArchiveEntry} (h : Named map) (name : String) :
    ((Archive.ofMap map).find? fun entry => !entry.isDirectory && entry.name == name)
      = map[name]? := by
  have mem (entry : ArchiveEntry) (hm : entry ∈ Archive.ofMap map) :
      map[entry.name]? = some entry := by
    obtain ⟨⟨key, value⟩, hl, rfl⟩ := List.mem_map.mp hm
    have hk := Std.ExtTreeMap.mem_toList_iff_getElem?_eq_some.mp hl
    rw [(h key value hk).1, hk]
  cases found : (Archive.ofMap map).find? fun entry => !entry.isDirectory && entry.name == name with
  | some entry =>
    have hp := List.find?_some found
    simp only [Bool.and_eq_true, beq_iff_eq] at hp
    rw [← hp.2, mem entry (List.mem_of_find?_eq_some found)]
  | none =>
    cases held : map[name]? with
    | none => rfl
    | some entry =>
      obtain ⟨hn, hd⟩ := h name entry held
      have hm : entry ∈ Archive.ofMap map :=
        List.mem_map.mpr ⟨(name, entry), Std.ExtTreeMap.mem_toList_iff_getElem?_eq_some.mpr held, rfl⟩
      have := List.find?_eq_none.mp found entry hm
      simp [hn, hd] at this

/-- Carrying over an archive gives back the entries of which it was made. -/
theorem built_ofArchive {map : Std.ExtTreeMap String ArchiveEntry} (h : Named map)
    (settings : ArchiveSettings) : (ofArchive (Archive.ofMap map) settings).built = map := by
  apply Std.ExtTreeMap.ext_getElem?
  intro name
  rw [built, Std.ExtTreeMap.getElem?_map, entries_ofArchive, find?_ofMap h]
  cases map[name]? with
  | none => rfl
  | some entry => rfl

end Assembly

namespace Assembly

variable {assembly : Assembly} {path name : String} {bytes : Bytes} {v w : Workspace}

theorem writeTo_runs {u : Unit} (h : Runs (assembly.writeTo path) v u w) :
    ∃ bytes, assembly.toBytes path = .ok bytes ∧ w.read path = .ok bytes ∧
      Workspace.Changes {Place.named path} v w := by
  unfold writeTo at h
  obtain ⟨_, s, hw, h⟩ := Runs.bind_iff.mp h
  obtain ⟨bytes, hb, h⟩ := Runs.liftM_bind_iff.mp h
  obtain ⟨first, _⟩ := Workspace.changes_write (Action.change_iff.mp hw)
  obtain ⟨second, hr⟩ := Workspace.changes_write (Action.change_iff.mp h)
  exact ⟨bytes, hb, hr, first.trans second⟩

/-- An assembly that is published is at its path, and nothing else has changed but the temporary
file. -/
theorem publish_runs {count : Nat} (h : Runs (assembly.publish path) v count w) :
    w.read path = .ok (Archive.ofMap assembly.built).toBytes ∧
      (Archive.ofMap assembly.built).Fits ∧
      Workspace.Changes {Place.named (temporaryPath path), Place.named path} v w := by
  unfold publish at h
  extract_lets temporary rest at h
  have final : ∀ s, Runs (rest ()) s count w →
      w.read path = .ok (Archive.ofMap assembly.built).toBytes ∧
        (Archive.ofMap assembly.built).Fits ∧
        Workspace.Changes {Place.named temporary, Place.named path} s w := by
    intro s h
    obtain ⟨u, t, hc, h⟩ := Runs.bind_iff.mp h
    obtain ⟨_, rfl⟩ := Runs.pure_iff.mp h
    have replaced : Runs (assembly.replace temporary path) s u w := by
      refine Runs.of_tryCatch ?_ hc
      intro error t h
      obtain ⟨_, _, _, h⟩ := Runs.bind_iff.mp h
      exact Runs.throw_iff.mp h
    unfold replace at replaced
    obtain ⟨_, t, hw, hm⟩ := Runs.bind_iff.mp replaced
    obtain ⟨bytes, hb, hr, writing⟩ := writeTo_runs hw
    obtain ⟨moved, hs, ht, _, moving⟩ := Workspace.changes_rename (Action.change_iff.mp hm)
    rw [hr] at hs
    cases hs
    obtain ⟨rfl, fits⟩ := toBytes_eq_ok hb
    exact ⟨ht, fits, (writing.mono (by simp)).trans moving⟩
  split at h
  next =>
    obtain ⟨_, s, hc, h⟩ := Runs.bind_iff.mp h
    obtain ⟨hr, fits, change⟩ := final s h
    exact ⟨hr, fits, ((Action.changes_createDirectories hc).mono (by simp)).trans change⟩
  next => exact final v h

end Assembly

end MethodTrace
