import MethodTrace.Proofs.DeflateRoundTrip
import MethodTrace.Proofs.ReadableArchives

/-!
Assemblies that are made by changes to the entries of an archive, and what is written of them.

The last change of a name decides about its entry, and a name without a change keeps the first entry
that the archive has for it. What is written follows from the entries alone, whatever the way to
them.
-/

namespace MethodTrace

/-- New content is not too long for its length to be told. -/
def PendingEntry.IsShort (pending : PendingEntry) : Prop :=
  ∀ content, pending = fresh content → content.length < UInt32.size

namespace ArchiveWriter

variable {writer next : ArchiveWriter} {entries : Archive} {item : String × PendingEntry}

theorem isShort_of_writeEntry (h : Assembly.writeEntry writer item = .ok next) :
    item.2.IsShort := by
  obtain ⟨name, pending⟩ := item
  rintro content rfl
  exact (length_lt_of_addContent h).1

theorem Holds.exists_add {entry : ArchiveEntry} (h : writer.Holds entries)
    (room : (entries.flatMap ArchiveEntry.localRecord).length < UInt32.size)
    (fits : Archive.EntryFits entry) : ∃ next, writer.add entry = .ok next := by
  have stored : ¬(UInt32.size ≤ writer.offset ∨ UInt32.size ≤ entry.stored.length) := by
    have := fits.stored
    rw [h.offset]
    omega
  unfold ArchiveWriter.add
  dsimp only
  rw [if_neg stored, if_neg (Nat.not_le.mpr fits.name)]
  exact ⟨_, rfl⟩

theorem Holds.exists_writeEntry (h : writer.Holds entries)
    (room : (entries.flatMap ArchiveEntry.localRecord).length < UInt32.size)
    (fits : Archive.EntryFits (item.2.entry writer.settings item.1)) (short : item.2.IsShort) :
    ∃ next, Assembly.writeEntry writer item = .ok next := by
  obtain ⟨name, pending⟩ := item
  cases pending with
  | carried entry => exact h.exists_add room fits
  | fresh content =>
    obtain ⟨next, added⟩ := h.exists_add room fits
    refine ⟨next, ?_⟩
    change writer.addContent name content = .ok next
    unfold ArchiveWriter.addContent
    dsimp only
    rw [if_neg (Nat.not_le.mpr (short content rfl))]
    exact added

theorem Holds.exists_foldlM {items : List (String × PendingEntry)} (h : writer.Holds entries)
    (room : ((entries ++ items.map fun item => item.2.entry writer.settings item.1).flatMap
      ArchiveEntry.localRecord).length < UInt32.size)
    (fits : ∀ item ∈ items, Archive.EntryFits (item.2.entry writer.settings item.1))
    (short : ∀ item ∈ items, item.2.IsShort) :
    ∃ next, items.foldlM Assembly.writeEntry writer = .ok next := by
  induction items generalizing writer entries with
  | nil => exact ⟨writer, rfl⟩
  | cons item items ih =>
    have here : (entries.flatMap ArchiveEntry.localRecord).length < UInt32.size := by
      rw [List.flatMap_append, List.length_append] at room
      omega
    obtain ⟨middle, hm⟩ := h.exists_writeEntry here (fits item List.mem_cons_self)
      (short item List.mem_cons_self)
    obtain ⟨held, settings⟩ := h.writeEntry hm
    rw [List.foldlM_cons, hm]
    refine ih held ?_ (fun other ho => ?_) fun other ho => short other (List.mem_cons_of_mem _ ho)
    · rwa [settings, List.append_assoc]
    · rw [settings]
      exact fits other (List.mem_cons_of_mem _ ho)

theorem Holds.exists_finish (h : writer.Holds entries) (fits : entries.Fits) :
    ∃ bytes, writer.finish = .ok bytes := by
  have written : writer.entries = entries := by simp [ArchiveWriter.entries, h.written]
  have count : writer.written.length = entries.length := by simp [h.written]
  unfold ArchiveWriter.finish
  rw [written, count, h.offset]
  dsimp only
  rw [if_neg (by have := fits.count; have := fits.records; have := fits.directory; omega)]
  exact ⟨_, rfl⟩

end ArchiveWriter

namespace Assembly

variable {assembly : Assembly} {path : String} {bytes : Bytes}

/-- An assembly is written just when its numbers fit into the fields for them, and then as the
archive of its entries. -/
theorem toBytes_eq_ok_iff : assembly.toBytes path = .ok bytes ↔
    (∀ item ∈ assembly.entries.toList, item.2.IsShort) ∧ (Archive.ofMap assembly.built).Fits ∧
      bytes = (Archive.ofMap assembly.built).toBytes := by
  have archive : Archive.ofMap assembly.built = assembly.entries.toList.map
      fun item => item.2.entry assembly.settings item.1 := by
    rw [Archive.ofMap, built, Std.ExtTreeMap.toList_map, List.map_map]
    rfl
  constructor
  · intro h
    refine ⟨?_, (toBytes_eq_ok h).2, (toBytes_eq_ok h).1⟩
    obtain ⟨writer, hw, _⟩ := Except.bind_eq_ok_iff.mp h
    refine Except.foldlM_induction (P := fun done _ => ∀ item ∈ done, item.2.IsShort) hw
      (by simp) ?_
    intro done item before after all ha other ho
    rcases List.mem_append.mp ho with ho | ho
    · exact all other ho
    · rw [List.mem_singleton.mp ho]
      exact ArchiveWriter.isShort_of_writeEntry ha
  · rintro ⟨short, fits, rfl⟩
    have start := ArchiveWriter.holds_start path assembly.settings
    rw [archive] at fits ⊢
    obtain ⟨writer, hw⟩ := start.exists_foldlM fits.records
      (fun item hi => fits.entries _ (List.mem_map_of_mem hi)) short
    obtain ⟨bytes, hf⟩ := (start.foldlM hw).1.exists_finish fits
    rw [((start.foldlM hw).1.finish hf).1] at hf
    exact Except.bind_eq_ok_iff.mpr ⟨writer, hw, hf⟩

end Assembly

/-- A change to an entry of an assembly. -/
inductive EntryChange
  | insert (name : String) (content : Bytes)
  | remove (name : String)

namespace EntryChange

/-- The name of the entry that is changed. -/
def name : EntryChange → String
  | insert name _ => name
  | remove name => name

/-- The entry behind a change. -/
def pending? : EntryChange → Option PendingEntry
  | insert _ content => some (.fresh content)
  | remove _ => none

end EntryChange

namespace Assembly

variable {previous : Archive} {settings : ArchiveSettings} {changes others : List EntryChange}
  {assembly : Assembly} {path otherPath name : String} {bytes : Bytes}

/-- An assembly after a change. -/
def change (assembly : Assembly) : EntryChange → Assembly
  | .insert name content => assembly.insert name content
  | .remove name => assembly.remove name

/-- The entries of an archive after some changes. -/
def changed (previous : Archive) (settings : ArchiveSettings) (changes : List EntryChange) :
    Assembly :=
  changes.foldl change (ofArchive previous settings)

/-- What is pending under a name after changes to the entries of an archive. -/
def pendingAfter? (previous : Archive) (changes : List EntryChange) (name : String) :
    Option PendingEntry :=
  match changes.reverse.find? (·.name == name) with
  | some change => change.pending?
  | none => (previous.find? fun entry => !entry.isDirectory && entry.name == name).map .carried

theorem settings_changed (previous : Archive) (settings : ArchiveSettings)
    (changes : List EntryChange) : (changed previous settings changes).settings = settings := by
  induction changes using List.reverseRecOn with
  | nil => exact settings_ofArchive previous settings
  | append_singleton changes last ih =>
    rw [changed, List.foldl_concat]
    cases last <;> exact ih

theorem entries_change (assembly : Assembly) (change : EntryChange) (name : String) :
    (assembly.change change).entries[name]?
      = if change.name = name then change.pending? else assembly.entries[name]? := by
  cases change with
  | insert changed content =>
    by_cases same : changed = name <;> simp [Assembly.change, Assembly.insert, EntryChange.name,
      EntryChange.pending?, Std.ExtTreeMap.getElem?_insert, Std.LawfulEqCmp.compare_eq_iff_eq, same]
  | remove changed =>
    by_cases same : changed = name <;> simp [Assembly.change, Assembly.remove, EntryChange.name,
      EntryChange.pending?, Std.ExtTreeMap.getElem?_erase, Std.LawfulEqCmp.compare_eq_iff_eq, same]

/-- The entries after changes, however these follow each other. -/
theorem entries_changed (previous : Archive) (settings : ArchiveSettings)
    (changes : List EntryChange) (name : String) :
    (changed previous settings changes).entries[name]? = pendingAfter? previous changes name := by
  induction changes using List.reverseRecOn with
  | nil => exact entries_ofArchive previous settings name
  | append_singleton changes last ih =>
    rw [changed, List.foldl_concat, entries_change, pendingAfter?, List.reverse_concat,
      List.find?_cons]
    by_cases same : last.name = name
    · simp [same]
    · rw [if_neg same, beq_false_of_ne same]
      exact ih

theorem carried_of_pendingAfter? {entry : ArchiveEntry}
    (h : pendingAfter? previous changes name = some (.carried entry)) :
    entry.isDirectory = false ∧ entry.name = name := by
  unfold pendingAfter? at h
  split at h
  · next change _ => cases change <;> cases h
  · obtain ⟨found, hf, hc⟩ := Option.map_eq_some_iff.mp h
    cases hc
    simpa using List.find?_some hf

theorem insert_mem_of_pendingAfter? {content : Bytes}
    (h : pendingAfter? previous changes name = some (.fresh content)) :
    EntryChange.insert name content ∈ changes := by
  unfold pendingAfter? at h
  split at h
  · next change hc =>
    have own := List.find?_some hc
    have mem := List.mem_reverse.mp (List.mem_of_find?_eq_some hc)
    cases change with
    | remove other => cases h
    | insert other inserted =>
      cases h
      rwa [← beq_iff_eq.mp own]
  · obtain ⟨found, _, hc⟩ := Option.map_eq_some_iff.mp h
    cases hc

theorem built_changed {entry : ArchiveEntry} :
    (changed previous settings changes).built[name]? = some entry ↔
      ∃ pending, pendingAfter? previous changes name = some pending ∧
        entry = pending.entry settings name := by
  rw [built, Std.ExtTreeMap.getElem?_map, entries_changed, settings_changed, Option.map_eq_some_iff]
  simp only [eq_comm]

/-- An archive with a directory and with two entries of one name. -/
def sampleRepeated : Archive :=
  [⟨"d/", 0, 0, 0, []⟩, ⟨"b", 8, 0, 0, [3, 0]⟩, ⟨"a", 0, 0, 0, []⟩, ⟨"b", 0, 0, 0, []⟩]

/-- Changes to its entries. -/
def sampleChanges : List EntryChange :=
  [.insert "c" [0x61], .remove "a"]

/-- What is there after these changes. -/
def sampleChanged : Archive :=
  [⟨"b", 8, 0, 0, [3, 0]⟩, .ofContent {} "c" [0x61]]

theorem toBytes_sampleChanges : (changed sampleRepeated {} sampleChanges).toBytes "x.jar"
    = .ok sampleChanged.toBytes := by
  decide +kernel

end Assembly

end MethodTrace
