import MethodTrace.Proofs.MirroredStore

/-!
Histories of the runs of a task, some of which fail.

Between runs the store mirrors the output, unless there is no manifest on which a run could build.
A run that fails after some of its tasks leaves strays, which stay until everything is built anew.
-/

namespace MethodTrace

open Workspace (Changes KeepsDirectories)

/-- Nothing is kept below a directory: no unit and no manifest. -/
structure Cache.Empty (directory : String) (w : Workspace) : Prop where
  bare : (UnitStore.ofDirectory directory toolVersion).Bare w
  absent : ∀ bytes, w.node? (Place.named (Manifest.pathIn directory)) ≠ some (.file bytes)

/-- What is kept between the runs of a task: a tidy store, and a manifest only if the store mirrors
the output. -/
structure Consistent (directory output : String) (strays : Set String) (v : Workspace) :
    Prop where
  tidy : (UnitStore.ofDirectory directory toolVersion).Tidy v
  reaches : ∀ bytes, v.node? (Place.named (Manifest.pathIn directory)) = some (.file bytes) →
    v.Reaches (Manifest.pathIn directory)
  manifest : ∀ bytes, v.node? (Place.named (Manifest.pathIn directory)) = some (.file bytes) →
    ∃ manifest : Manifest, bytes = manifest.fileBytes ∧
      ∀ identity, manifest.members[identity]?.isSome = true → Identity.IsNormal identity
  mirrored : ∀ bytes, v.node? (Place.named (Manifest.pathIn directory)) = some (.file bytes) →
    ∃ entries, Mirrored directory output entries strays v

theorem UnitStore.root_ne_empty (directory version : String) :
    (ofDirectory directory version).root ≠ "" := by
  intro he
  have named := named_ofDirectory directory version
  rw [he, show Place.named "" = [] by decide] at named
  simp at named

theorem Manifest.staysTidy_remove (directory version : String) :
    Leaves (UnitStore.ofDirectory directory version).StaysTidy (remove directory) := by
  refine Action.leaves_clear fun v w h => ?_
  refine UnitStore.staysTidy_of_apart (Workspace.changes_remove h).1 ?_
  rintro place rfl
  exact not_below_pathIn directory version

theorem Invocation.read_of_previous? {invocation : Invocation} {filter : TagFilter} {v : Workspace}
    {archive : Archive} (h : invocation.previous? filter v = some archive) :
    ∃ bytes, v.read (Manifest.pathIn invocation.intermediate) = .ok bytes := by
  cases hr : v.read (Manifest.pathIn invocation.intermediate) with
  | ok bytes => exact ⟨bytes, rfl⟩
  | error fault =>
    have unknown (settings : ContentHash) :
        (invocation.kept v).invalidation? settings invocation.archives ≠ none := by
      unfold kept Cache.ofDirectory Manifest.find
      dsimp only
      rw [hr]
      cases fault <;> simp [Cache.invalidation?]
    unfold previous? previousOutput? at h
    split at h
    next hn => exact absurd hn (unknown _)
    next => cases h

namespace Consistent

section

variable {directory output : String} {strays others : Set String} {v w : Workspace}

/-- Without a manifest it only matters that the store is tidy. -/
theorem of_absent (tidy : (UnitStore.ofDirectory directory toolVersion).Tidy w)
    (absent : ∀ bytes, w.node? (Place.named (Manifest.pathIn directory)) ≠ some (.file bytes)) :
    Consistent directory output strays w :=
  ⟨tidy, fun bytes hn => absurd hn (absent bytes), fun bytes hn => absurd hn (absent bytes),
    fun bytes hn => absurd hn (absent bytes)⟩

/-- What does not touch the manifest keeps everything consistent if it keeps the store tidy and
leaves a mirror of the output. -/
theorem of_changes {places : Set Place} (h : Consistent directory output strays v)
    (change : Changes places v w) (apart : Place.named (Manifest.pathIn directory) ∉ places)
    (tidy : (UnitStore.ofDirectory directory toolVersion).Tidy w)
    (mirrored : ∀ entries, Mirrored directory output entries strays v →
      ∃ entries, Mirrored directory output entries others w) :
    Consistent directory output others w := by
  have file (bytes : Bytes) := change.files _ apart bytes
  refine ⟨tidy, fun bytes hn => ?_, fun bytes hn => h.manifest bytes ((file bytes).mp hn),
    fun bytes hn => ?_⟩
  · exact change.directories.reaches (h.reaches bytes ((file bytes).mp hn))
  · obtain ⟨entries, before⟩ := h.mirrored bytes ((file bytes).mp hn)
    exact mirrored entries before

end

variable {invocation : Invocation} {filter : TagFilter} {cache : Cache} {detection : Detection}
  {strays others : Set String} {u v w : Workspace}
  (consistent : Consistent invocation.intermediate invocation.output strays v)
include consistent

/-- The members that the previous run has kept have identities in canonical spelling. -/
theorem normal_of_kept {identity : String}
    (h : (invocation.kept v).fingerprints[identity]?.isSome = true) :
    Identity.IsNormal identity := by
  cases hr : v.read (Manifest.pathIn invocation.intermediate) with
  | ok bytes =>
    obtain ⟨manifest, rfl, members⟩ :=
      consistent.manifest bytes (Workspace.read_eq_ok_iff.mp hr).2
    refine members identity ?_
    unfold Invocation.kept Cache.ofDirectory at h
    rw [Manifest.find_of_read hr] at h
    exact h
  | error fault =>
    have nothing : (invocation.kept v).fingerprints = ∅ := by
      unfold Invocation.kept Cache.ofDirectory Manifest.find
      dsimp only
      rw [hr]
      cases fault <;> rfl
    rw [nothing] at h
    simp at h

/-- Nothing is kept behind a reset. -/
theorem empty_of_reset (h : Runs (invocation.kept v).reset v cache u) :
    Cache.Empty invocation.intermediate u := by
  change Runs (Cache.mk invocation.intermediate toolVersion _).reset v cache u at h
  unfold Cache.reset at h
  obtain ⟨_, s, hm, h⟩ := Runs.bind_iff.mp h
  obtain ⟨_, t, hc, h⟩ := Runs.bind_iff.mp h
  obtain ⟨_, rfl⟩ := Runs.pure_iff.mp h
  have absent := Manifest.node?_of_remove consistent.reaches hm
  have tidy := ((Manifest.staysTidy_remove _ toolVersion).of_runs hm).tidy consistent.tidy
  refine ⟨?_, fun bytes hn => absent bytes ((UnitStore.clears_clear hc).shrinks _ _ hn)⟩
  exact tidy.bare_of_clear (Path.trimmed_join _ (by decide)) (UnitStore.root_ne_empty _ _) hc

/-- A run begins with nothing, or with what the previous one has kept. -/
theorem empty_or_kept (begun : invocation.Begun filter v cache u) :
    invocation.previous? filter v = none ∧ Cache.Empty invocation.intermediate u ∨
      (∃ archive, invocation.previous? filter v = some archive) ∧ cache = invocation.kept v ∧
        u = v := by
  cases hp : invocation.previous? filter v with
  | none => exact .inl ⟨rfl, consistent.empty_of_reset (begun.reset hp)⟩
  | some archive => exact .inr ⟨⟨archive, rfl⟩, begun.kept (by simp [hp])⟩

/-- The units of a run have identities in canonical spelling. -/
theorem normal_of_detect (begun : invocation.Begun filter v cache u)
    (hd : detect u invocation cache (invocation.previous? filter v).isNone = .ok detection) :
    ∀ unit ∈ detection.changes.actionable, Identity.IsNormal unit.identity := by
  intro unit hu
  rcases Detection.normal_or_kept hd (ChangeSet.mem_units_iff.mpr (.inl hu)) with normal | ⟨hf, hk⟩
  · exact normal
  · rw [begun.fingerprints hf] at hk
    exact consistent.normal_of_kept hk

/-- A run starts its tasks with a mirror of the output on which it builds. -/
theorem founded (begun : invocation.Begun filter v cache u) :
    ∃ entries, invocation.Founded (invocation.previous? filter v) entries
      (if (invocation.previous? filter v).isNone then ∅ else strays) u := by
  rcases consistent.empty_or_kept begun with ⟨hp, empty⟩ | ⟨⟨archive, hp⟩, _, rfl⟩
  · rw [hp]
    refine ⟨∅, empty.bare.tidy, Invocation.built_start_none, ?_, ?_, by simp⟩
    · intro name entry he
      simp at he
    · intro identity _
      simp [empty.bare.identities_eq]
  · obtain ⟨bytes, hr⟩ := Invocation.read_of_previous? hp
    obtain ⟨entries, mirrored⟩ := consistent.mirrored bytes (Workspace.read_eq_ok_iff.mp hr).2
    have found := (Invocation.previous?_eq_some hp).2
    unfold Archive.ofFile at found
    obtain ⟨held, ho, he⟩ := Except.bind_eq_ok_iff.mp found
    have read := Except.mapError_eq_ok_iff.mp ho
    have same := Workspace.fileAt?_eq_some_iff.mpr (Workspace.read_eq_ok_iff.mp read).2
    rw [mirrored.output] at same
    cases same
    have entries_eq := Archive.eq_of_entries_toBytes mirrored.fits (Except.mapError_eq_ok_iff.mp he)
    rw [hp]
    refine ⟨entries, consistent.tidy, ?_, mirrored.named, mirrored.units, fun _ _ =>
      ⟨read, mirrored.fits⟩⟩
    rw [entries_eq]
    exact Assembly.built_ofArchive mirrored.named.named _

/-- A run that succeeds leaves a store that mirrors its output. -/
theorem of_runs (aside : Cache.Aside invocation.intermediate invocation.output) {report : RunReport}
    (run : Runs invocation.run v report w) :
    (∃ entries, w.read invocation.output = .ok (Archive.ofMap entries).toBytes ∧
      Mirrored invocation.intermediate invocation.output entries
        (if report.fullRebuild then ∅ else strays) w) ∧
      Consistent invocation.intermediate invocation.output
        (if report.fullRebuild then ∅ else strays) w := by
  obtain ⟨filter, cache, u, detection, outcomes, s, count, t, last, _, hb, begun, hd, ht, hw, hc⟩ :=
    Invocation.exists_steps run
  rw [hb] at hd ⊢
  obtain ⟨_, founded⟩ := consistent.founded begun
  obtain ⟨entries, read, mirrored, tidy⟩ := founded.mirrored aside
    (consistent.normal_of_detect begun hd) (Detection.nodup_actionable hd)
    (fun _ => Detection.kind_ne_unchanged hd) ht hw
  obtain ⟨_, x, hs, hc⟩ := Runs.bind_iff.mp hc
  obtain ⟨_, rfl⟩ := Runs.pure_iff.mp hc
  rw [begun.directory] at hs
  obtain ⟨saved, _, change⟩ := Manifest.changes_save hs
  obtain ⟨reaches, file⟩ := Workspace.read_eq_ok_iff.mp saved
  have outside : Place.named invocation.output
      ∉ ({Place.named (Manifest.temporaryPathIn invocation.intermediate),
        Place.named (Manifest.pathIn invocation.intermediate)} : Set Place) := by
    rintro (he | he)
    · exact aside.temporary he
    · exact aside.ne_manifest he.symm
  have apart : ∀ place ∈ ({Place.named (Manifest.temporaryPathIn invocation.intermediate),
      Place.named (Manifest.pathIn invocation.intermediate)} : Set Place),
      ¬Place.named (UnitStore.ofDirectory invocation.intermediate toolVersion).root <+: place := by
    rintro place (rfl | rfl)
    · exact Manifest.not_below_temporaryPathIn _ _
    · exact Manifest.not_below_pathIn _ _
  have after := mirrored.carry (Set.Subset.refl _) (change.fileAt?_eq outside) fun identity _ => by
    rw [UnitStore.identities_eq change apart]
  refine ⟨⟨entries, change.read outside read, after⟩,
    (UnitStore.staysTidy_of_apart change apart).tidy tidy, fun _ _ => reaches, fun bytes hn => ?_,
    fun _ _ => ⟨entries, after⟩⟩
  rw [file] at hn
  cases hn
  refine ⟨_, rfl, fun identity hi => ?_⟩
  obtain ⟨scans, _, scanned, _, prints, _⟩ := detect_eq_ok hd
  change detection.fingerprints[identity]?.isSome = true at hi
  rw [prints, Detection.getElem?_fingerprintsOf, Option.isSome_map] at hi
  obtain ⟨held, hh⟩ := Option.isSome_iff_exists.mp hi
  exact Detection.isNormal_of_scans scanned hh

end Consistent

/-- The identities at which a run has left the store other than it has found it, although the output
is as it was. -/
def strayed (directory output : String) (v w : Workspace) : Set String :=
  {identity | ¬(identity ∈ (UnitStore.ofDirectory directory toolVersion).identities w ↔
      identity ∈ (UnitStore.ofDirectory directory toolVersion).identities v) ∧
    w.fileAt? output = v.fileAt? output}

theorem Mirrored.strayed {directory output : String}
    {entries : Std.ExtTreeMap String ArchiveEntry} {strays : Set String} {v w : Workspace}
    (h : Mirrored directory output entries strays v)
    (same : w.fileAt? output = v.fileAt? output) :
    Mirrored directory output entries (strays ∪ strayed directory output v w) w := by
  refine h.carry Set.subset_union_left same fun identity hi => ?_
  by_contra differs
  exact hi (.inr ⟨differs, same⟩)

theorem TaskContext.not_mem_placesOf_of_not_below {context : TaskContext} {units : List BuildUnit}
    {place : Place} (normal : ∀ unit ∈ units, Identity.IsNormal unit.identity)
    (h : ¬Place.named context.store.root <+: place) : place ∉ context.store.placesOf units := by
  rintro ⟨unit, hu, rfl⟩
  exact h (UnitStore.below_unitPath (normal unit hu))

namespace Consistent

variable {invocation : Invocation} {filter : TagFilter} {cache : Cache} {detection : Detection}
  {strays others : Set String} {error : RunError} {u v w : Workspace}
  (consistent : Consistent invocation.intermediate invocation.output strays v)
include consistent

/-- What is done behind the beginning of a run, whether or not it succeeds. -/
theorem of_begun {places : Set Place} (begun : invocation.Begun filter v cache u)
    (change : Changes places u w)
    (apart : Place.named (Manifest.pathIn invocation.intermediate) ∉ places)
    (tidy : (UnitStore.ofDirectory invocation.intermediate toolVersion).StaysTidy u w)
    (mirrored : (invocation.previous? filter v).isNone = false → u = v → ∀ entries,
      Mirrored invocation.intermediate invocation.output entries strays v →
        ∃ entries, Mirrored invocation.intermediate invocation.output entries others w) :
    Consistent invocation.intermediate invocation.output others w := by
  rcases consistent.empty_or_kept begun with ⟨_, empty⟩ | ⟨⟨archive, hp⟩, _, rfl⟩
  · refine .of_absent (tidy.tidy empty.bare.tidy) fun bytes hn => ?_
    exact empty.absent bytes ((change.files _ apart bytes).mp hn)
  · exact consistent.of_changes change apart (tidy.tidy consistent.tidy)
      (mirrored (by simp [hp]) rfl)

/-- A reset that fails leaves everything alone, or removes the manifest. -/
theorem of_fails_reset {fault : CacheError}
    (h : Fails (invocation.kept v).reset v fault w) :
    Consistent invocation.intermediate invocation.output
      (strays ∪ strayed invocation.intermediate invocation.output v w) w := by
  change Fails (Cache.mk invocation.intermediate toolVersion _).reset v fault w at h
  unfold Cache.reset at h
  rcases Fails.bind_iff.mp h with h | ⟨_, s, hm, h⟩
  · obtain rfl := Action.eq_of_fails_clear h
    exact consistent.of_changes (.refl ∅ _) (Set.notMem_empty _) consistent.tidy
      fun entries mirrored => ⟨entries, mirrored.strayed rfl⟩
  · rcases Fails.bind_iff.mp h with h | ⟨_, _, _, h⟩
    · obtain rfl := Action.eq_of_fails_clear h
      have tidy := ((Manifest.staysTidy_remove _ toolVersion).of_runs hm).tidy consistent.tidy
      exact .of_absent tidy (Manifest.node?_of_remove consistent.reaches hm)
    · exact (Fails.pure_iff.mp h).elim

/-- A run whose output cannot be written leaves strays where its tasks have changed the store. -/
theorem of_fails_output {outcomes : List TaskOutcome} {s : Workspace}
    (aside : Cache.Aside invocation.intermediate invocation.output)
    (begun : invocation.Begun filter v cache u)
    (hd : detect u invocation cache (invocation.previous? filter v).isNone = .ok detection)
    (ht : Runs ((invocation.context filter).runTasks detection.changes.actionable) u outcomes s)
    (hw : Fails (invocation.writeOutput (invocation.context filter).store
      (invocation.previous? filter v) outcomes) s error w) :
    Consistent invocation.intermediate invocation.output
      (strays ∪ strayed invocation.intermediate invocation.output v w) w := by
  have normal := consistent.normal_of_detect begun hd
  obtain ⟨change, tidy⟩ := (TaskContext.changes_runTasks normal).of_runs ht
  have outside {place : Place} :=
    @TaskContext.not_mem_placesOf_of_not_below (invocation.context filter) _ place normal
  have writing := Invocation.changes_of_fails_writeOutput hw
  have still : (UnitStore.ofDirectory invocation.intermediate toolVersion).StaysTidy s w := by
    refine UnitStore.staysTidy_of_apart writing ?_
    rintro place rfl
    exact aside.not_below_temporary _
  refine consistent.of_begun begun
    ((change.mono Set.subset_union_left).trans (writing.mono Set.subset_union_right)) ?_
    (IsTrans.trans _ _ _ tidy still) ?_
  · rintro (hp | hp)
    · exact outside (Manifest.not_below_pathIn _ _) hp
    · exact Assembly.named_temporaryPath_ne_manifest _ _ hp.symm
  · rintro _ rfl entries before
    refine ⟨entries, before.strayed ?_⟩
    rw [writing.fileAt?_eq (Assembly.named_temporaryPath_ne _).symm,
      change.fileAt?_eq (outside (aside.not_below _))]

/-- A run whose manifest cannot be saved leaves no new strays. -/
theorem of_fails_save {outcomes : List TaskOutcome} {count : Nat} {s t : Workspace}
    {fault : CacheError} (aside : Cache.Aside invocation.intermediate invocation.output)
    (begun : invocation.Begun filter v cache u)
    (hd : detect u invocation cache (invocation.previous? filter v).isNone = .ok detection)
    (ht : Runs ((invocation.context filter).runTasks detection.changes.actionable) u outcomes s)
    (hw : Runs (invocation.writeOutput (invocation.context filter).store
      (invocation.previous? filter v) outcomes) s count t)
    (hs : Fails ((invocation.manifest filter detection.fingerprints).save invocation.intermediate)
      t fault w) : Consistent invocation.intermediate invocation.output strays w := by
  have normal := consistent.normal_of_detect begun hd
  obtain ⟨change, tidy⟩ := (TaskContext.changes_runTasks normal).of_runs ht
  have outside {place : Place} :=
    @TaskContext.not_mem_placesOf_of_not_below (invocation.context filter) _ place normal
  have writing := Invocation.changes_of_writeOutput hw
  have saving := Manifest.changes_of_fails_save hs
  have apart : ∀ place ∈ ({Place.named (Manifest.temporaryPathIn invocation.intermediate)} :
      Set Place),
      ¬Place.named (UnitStore.ofDirectory invocation.intermediate toolVersion).root <+: place := by
    rintro place rfl
    exact Manifest.not_below_temporaryPathIn _ _
  have written := UnitStore.staysTidy_of_apart writing (aside.not_below_written toolVersion)
  have saved := UnitStore.staysTidy_of_apart saving apart
  refine consistent.of_begun begun ((change.mono Set.subset_union_left).trans
    (((writing.mono Set.subset_union_left).trans (saving.mono Set.subset_union_right)).mono
      Set.subset_union_right)) ?_
    (IsTrans.trans _ _ _ tidy (IsTrans.trans _ _ _ written saved)) ?_
  · rintro (hp | (hp | hp) | hp)
    · exact outside (Manifest.not_below_pathIn _ _) hp
    · exact Assembly.named_temporaryPath_ne_manifest _ _ hp.symm
    · exact aside.ne_manifest hp
    · exact Manifest.named_temporaryPathIn_ne _ hp.symm
  · intro hp _ _ _
    obtain ⟨_, founded⟩ := consistent.founded begun
    obtain ⟨entries, _, mirrored, _⟩ := founded.mirrored aside normal
      (Detection.nodup_actionable hd) (fun _ => Detection.kind_ne_unchanged hd) ht hw
    rw [hp, if_neg Bool.false_ne_true] at mirrored
    refine ⟨entries, mirrored.carry (Set.Subset.refl _) (saving.fileAt?_eq aside.temporary) ?_⟩
    intro identity _
    rw [UnitStore.identities_eq saving apart]

/-- A run that fails leaves no strays but those where it has changed the store and has not replaced
the output. -/
theorem of_fails (aside : Cache.Aside invocation.intermediate invocation.output)
    (run : Fails invocation.run v error w) :
    Consistent invocation.intermediate invocation.output
      (strays ∪ strayed invocation.intermediate invocation.output v w) w := by
  have kept (same : w.fileAt? invocation.output = v.fileAt? invocation.output)
      (entries : Std.ExtTreeMap String ArchiveEntry)
      (h : Mirrored invocation.intermediate invocation.output entries strays v) :
      ∃ entries, Mirrored invocation.intermediate invocation.output entries
        (strays ∪ strayed invocation.intermediate invocation.output v w) w :=
    ⟨entries, h.strayed same⟩
  obtain ⟨step, breaks⟩ := Invocation.exists_breaks run
  cases breaks with
  | settings _ =>
    exact consistent.of_changes (.refl ∅ _) (Set.notMem_empty _) consistent.tidy (kept rfl)
  | reset _ hr => exact consistent.of_fails_reset hr
  | detection begun _ =>
    refine consistent.of_begun begun (.refl ∅ _) (Set.notMem_empty _) (Std.Refl.refl _) ?_
    rintro _ rfl
    exact kept rfl
  | @tasks filter cache u detection _ _ begun hd ht =>
    have normal := consistent.normal_of_detect begun hd
    obtain ⟨change, tidy⟩ := (TaskContext.changes_runTasks normal).of_fails ht
    have outside {place : Place} :=
      @TaskContext.not_mem_placesOf_of_not_below (invocation.context filter) _ place normal
    refine consistent.of_begun begun change (outside (Manifest.not_below_pathIn _ _)) tidy ?_
    rintro _ rfl
    exact kept (change.fileAt?_eq (outside (aside.not_below _)))
  | output begun hd ht hw => exact consistent.of_fails_output aside begun hd ht hw
  | manifest begun hd ht hw hs =>
    have after := consistent.of_fails_save aside begun hd ht hw hs
    exact after.of_changes (.refl ∅ _) (Set.notMem_empty _) after.tidy fun entries mirrored =>
      ⟨entries, mirrored.carry Set.subset_union_left rfl fun _ _ => Iff.rfl⟩

end Consistent

end MethodTrace
