import MethodTrace.Proofs.StoreContents

/-!
The units that are stored are the entries of the output, except for strays.

Tasks write to the store what they give to the output and remove from both what is gone. Only a run
that stops between the two leaves strays behind.
-/

namespace MethodTrace

open Workspace (Changes KeepsDirectories)

/-! ### What steps that fail leave alone -/

theorem Action.keepsDirectories_write {ε : Type} (error : ε) (path : String) (bytes : Bytes) :
    Leaves KeepsDirectories (Action.change error (·.write path bytes)) :=
  Action.leaves_change fun _ _ h => (Workspace.changes_write h).1.directories

theorem Action.keepsDirectories_rename {ε : Type} (error : ε) (source target : String) :
    Leaves KeepsDirectories (Action.change error (·.rename source target)) := by
  refine Action.leaves_change fun _ _ h => ?_
  obtain ⟨_, _, _, _, change⟩ := Workspace.changes_rename h
  exact change.directories

theorem Action.keepsDirectories_createDirectories {ε : Type} (error : ε) (path : String) :
    Leaves KeepsDirectories (Action.createDirectories error path) :=
  (Action.changes_of_createDirectories error path).mono fun _ _ h => h.directories

/-- What cannot be cleared is left alone. -/
theorem Action.eq_of_fails_clear {ε : Type} {error e : ε} {v w : Workspace}
    {operation : Workspace → Except FileFault Workspace}
    (h : Fails (Action.clear error operation) v e w) : w = v := by
  unfold clear at h
  have h := Fails.get_bind_iff.mp h
  split at h
  next => cases h
  next => exact (Fails.pure_iff.mp h).elim
  next => exact (Fails.throw_iff.mp h).2

theorem Assembly.keepsDirectories_publish (assembly : Assembly) (path : String) :
    Leaves KeepsDirectories (assembly.publish path) := by
  unfold publish
  extract_lets temporary rest
  have written : Leaves KeepsDirectories (assembly.writeTo temporary) :=
    (Action.keepsDirectories_write _ _ _).bind fun _ =>
      (Leaves.liftM _).bind fun _ => Action.keepsDirectories_write _ _ _
  have replaced : Leaves KeepsDirectories (assembly.replace temporary path) :=
    written.bind fun _ => Action.keepsDirectories_rename _ _ _
  have cleaned : Leaves KeepsDirectories
      (Action.changeIfPossible (·.remove temporary) : Action ArchiveError Unit) :=
    Action.leaves_changeIfPossible fun _ _ h => (Workspace.changes_remove h).1.directories
  have final : Leaves KeepsDirectories (rest ()) :=
    (replaced.tryCatch fun error => cleaned.bind fun _ => .throw error).bind fun _ => .pure _
  split
  next directory _ => exact (Action.keepsDirectories_createDirectories _ _).bind fun _ => final
  next => exact final

theorem Manifest.changes_of_fails_save {manifest : Manifest} {directory : String} {e : CacheError}
    {v w : Workspace} (h : Fails (manifest.save directory) v e w) :
    Changes {Place.named (temporaryPathIn directory)} v w := by
  have kept : Leaves KeepsDirectories (manifest.save directory) :=
    (Action.keepsDirectories_createDirectories _ _).bind fun _ =>
      (Action.keepsDirectories_write _ _ _).bind fun _ => Action.keepsDirectories_rename _ _ _
  exact (touches_of_fails_save h).changes (kept.of_fails h)

namespace Invocation

theorem changes_of_fails_writeOutput {invocation : Invocation} {store : UnitStore}
    {previous : Option Archive} {outcomes : List TaskOutcome} {error : RunError} {v w : Workspace}
    (h : Fails (invocation.writeOutput store previous outcomes) v error w) :
    Changes {Place.named (Assembly.temporaryPath invocation.output)} v w := by
  have published (start : Assembly) : Leaves KeepsDirectories (do
      let assembly ← outcomes.foldlM (applyOutcome store) start
      (assembly.publish invocation.output).adapt .archive) := by
    refine Leaves.bind ?_ fun assembly => (assembly.keepsDirectories_publish _).adapt
    exact (leaves_applyOutcomes store start outcomes).mono fun _ _ he => he ▸ Std.Refl.refl _
  have kept : Leaves KeepsDirectories (invocation.writeOutput store previous outcomes) := by
    unfold writeOutput
    extract_lets settings
    split
    · exact .pure _
    · exact published _
  exact (touches_of_fails_writeOutput h).changes (kept.of_fails h)

theorem changes_of_writeOutput {invocation : Invocation} {store : UnitStore}
    {previous : Option Archive} {outcomes : List TaskOutcome} {count : Nat} {v w : Workspace}
    (h : Runs (invocation.writeOutput store previous outcomes) v count w) :
    Changes {Place.named (Assembly.temporaryPath invocation.output),
      Place.named invocation.output} v w := by
  rcases publishes_of_writeOutput h with rfl | ⟨_, hp⟩
  · exact .refl _ _
  · exact (Assembly.publish_runs hp).2.2

end Invocation

/-! ### Where the files of a run are -/

/-- An output that is none of the files that are kept between runs. -/
structure Cache.Aside (directory output : String) : Prop where
  outside : Place.named output ∉ Cache.placesIn directory
  temporary : Place.named output ≠ Place.named (Manifest.temporaryPathIn directory)

section

variable {directory output : String}

theorem UnitStore.named_ofDirectory (directory version : String) :
    Place.named (ofDirectory directory version).root = Place.named directory ++ ["units"] :=
  Place.named_join_of_isStep (by decide)

theorem Manifest.not_below_pathIn (directory version : String) :
    ¬Place.named (UnitStore.ofDirectory directory version).root
      <+: Place.named (Manifest.pathIn directory) := by
  rw [UnitStore.named_ofDirectory, Manifest.named_pathIn, List.prefix_append_right_inj]
  decide

theorem Manifest.not_below_temporaryPathIn (directory version : String) :
    ¬Place.named (UnitStore.ofDirectory directory version).root
      <+: Place.named (Manifest.temporaryPathIn directory) := by
  rw [UnitStore.named_ofDirectory, Manifest.named_temporaryPathIn, List.prefix_append_right_inj]
  decide

namespace Cache.Aside

variable (aside : Cache.Aside directory output)
include aside

theorem ne_manifest : Place.named (Manifest.pathIn directory) ≠ Place.named output :=
  fun he => aside.outside (.inr he.symm)

theorem not_below (version : String) :
    ¬Place.named (UnitStore.ofDirectory directory version).root <+: Place.named output :=
  fun hp => aside.outside (.inl hp)

/-- The temporary file of the output is not in the store, since it is beside the output. -/
theorem not_below_temporary (version : String) :
    ¬Place.named (UnitStore.ofDirectory directory version).root
      <+: Place.named (Assembly.temporaryPath output) := by
  obtain ⟨base, name, ht, ho⟩ := Assembly.named_temporaryPath output
  intro hp
  rw [ht] at hp
  rcases List.prefix_concat_iff.mp hp with he | hp
  · rw [UnitStore.named_ofDirectory] at he
    have same := congrArg String.toList (List.singleton_inj.mp (List.append_inj_right' he rfl))
    simp at same
  · refine aside.not_below version ?_
    rcases ho with ho | ho
    · exact ho ▸ hp
    · exact ho ▸ hp.trans (List.prefix_append _ _)

theorem not_below_written (version : String) :
    ∀ place ∈ ({Place.named (Assembly.temporaryPath output), Place.named output} : Set Place),
      ¬Place.named (UnitStore.ofDirectory directory version).root <+: place := by
  rintro place (rfl | rfl)
  · exact aside.not_below_temporary version
  · exact aside.not_below version

end Cache.Aside

end

/-! ### What the steps of a run make of the store and of the output -/

/-- Entries under their own names, which are identities in canonical spelling. -/
def Assembly.NamedAsUnits (entries : Std.ExtTreeMap String ArchiveEntry) : Prop :=
  ∀ name (entry : ArchiveEntry), entries[name]? = some entry →
    entry.name = name ∧ Identity.IsNormal name

theorem Assembly.NamedAsUnits.named {entries : Std.ExtTreeMap String ArchiveEntry}
    (h : NamedAsUnits entries) : Named entries := by
  intro name entry he
  obtain ⟨rfl, normal⟩ := h name entry he
  exact ⟨rfl, normal.not_endsWith_slash⟩

/-- An output holds some entries, and those identities are stored that have an entry. Nothing is
said about strays. -/
structure Mirrored (directory output : String) (entries : Std.ExtTreeMap String ArchiveEntry)
    (strays : Set String) (w : Workspace) : Prop where
  output : w.fileAt? output = some (Archive.ofMap entries).toBytes
  fits : (Archive.ofMap entries).Fits
  named : Assembly.NamedAsUnits entries
  units : ∀ identity ∉ strays,
    identity ∈ (UnitStore.ofDirectory directory toolVersion).identities w ↔
      entries[identity]?.isSome = true

theorem Mirrored.carry {directory output : String} {entries : Std.ExtTreeMap String ArchiveEntry}
    {strays others : Set String} {v w : Workspace}
    (h : Mirrored directory output entries strays v) (hs : strays ⊆ others)
    (same : w.fileAt? output = v.fileAt? output)
    (units : ∀ identity ∉ others,
      identity ∈ (UnitStore.ofDirectory directory toolVersion).identities w ↔
        identity ∈ (UnitStore.ofDirectory directory toolVersion).identities v) :
    Mirrored directory output entries others w :=
  ⟨same.trans h.output, h.fits, h.named,
    fun identity hi => (units identity hi).trans (h.units identity fun hm => hi (hs hm))⟩

theorem ChangeKind.eq_removed {kind : ChangeKind} (hw : kind.needsWrite = false)
    (hn : kind ≠ .unchanged) : kind = .removed := by
  cases kind with
  | added => cases hw
  | modified => cases hw
  | removed => rfl
  | unchanged => exact absurd rfl hn

/-- There is a task only for what has been added, modified or removed. -/
theorem Detection.kind_ne_unchanged {w : Workspace} {invocation : Invocation} {cache : Cache}
    {full : Bool} {detection : Detection} {unit : BuildUnit}
    (h : detect w invocation cache full = .ok detection)
    (hu : unit ∈ detection.changes.actionable) : unit.kind ≠ .unchanged := by
  obtain ⟨scans, loose, _, _, _, hc⟩ := detect_eq_ok h
  rw [hc] at hu
  rcases mem_plan_iff.mp hu with ha | hm | ⟨other, _, hw, rfl⟩ | ⟨_, _, hg⟩ | ⟨hg, _⟩
  · obtain ⟨_, _, _, _, rfl⟩ := mem_added_iff.mp ha
    simp [memberUnit]
  · obtain ⟨_, _, _, _, rfl⟩ := mem_modified_iff.mp hm
    simp [memberUnit]
  · rw [← settle_needsWrite] at hw
    rintro hk
    rw [hk] at hw
    cases hw
  · simp [(uncoveredUnit?_eq_some hg).2.1]
  · rcases mem_gone_iff.mp hg with ⟨hr, _⟩ | ⟨_, hk⟩
    · obtain ⟨_, _, _, rfl⟩ := mem_removed_iff.mp hr
      simp
    · simp [hk]

theorem Detection.nodup_actionable {w : Workspace} {invocation : Invocation} {cache : Cache}
    {full : Bool} {detection : Detection} (h : detect w invocation cache full = .ok detection) :
    (detection.changes.actionable.map (·.identity)).Nodup := by
  obtain ⟨scans, loose, _, _, _, hc⟩ := detect_eq_ok h
  rw [hc]
  exact Invocation.nodup_work

namespace Invocation

variable {invocation : Invocation} {filter : TagFilter} {cache : Cache} {detection : Detection}
  {entries : Std.ExtTreeMap String ArchiveEntry} {strays : Set String} {previous : Option Archive}
  {units : List BuildUnit} {outcomes : List TaskOutcome} {count : Nat} {u v s t w : Workspace}

/-- What a run starts its tasks with: a tidy store, and entries for what is stored, except for
strays. -/
structure Founded (invocation : Invocation) (previous : Option Archive)
    (entries : Std.ExtTreeMap String ArchiveEntry) (strays : Set String) (u : Workspace) :
    Prop where
  tidy : (UnitStore.ofDirectory invocation.intermediate toolVersion).Tidy u
  built : (invocation.start previous).built = entries
  named : Assembly.NamedAsUnits entries
  units : ∀ identity ∉ strays,
    identity ∈ (UnitStore.ofDirectory invocation.intermediate toolVersion).identities u ↔
      entries[identity]?.isSome = true
  output : ∀ archive, previous = some archive →
    u.read invocation.output = .ok (Archive.ofMap entries).toBytes ∧ (Archive.ofMap entries).Fits

section Founded

variable {assembly : Assembly} (founded : invocation.Founded previous entries strays u)
  (updated : Updated (invocation.context filter) u (invocation.start previous) units assembly)
include founded updated

theorem Founded.built_of_untouched {name : String} (hn : ∀ unit ∈ units, unit.identity ≠ name) :
    assembly.built[name]? = entries[name]? := by
  rw [updated.built_of_untouched hn, founded.built]

variable (kinds : ∀ unit ∈ units, unit.kind ≠ .unchanged)
include kinds

/-- Every entry has the name of a unit, before the tasks and behind them. -/
theorem Founded.namedAsUnits (normal : ∀ unit ∈ units, Identity.IsNormal unit.identity) :
    Assembly.NamedAsUnits assembly.built := by
  intro name entry he
  by_cases hu : ∃ unit ∈ units, unit.identity = name
  · obtain ⟨unit, hu, rfl⟩ := hu
    cases hk : unit.kind.needsWrite with
    | true =>
      obtain ⟨_, content, _, _, hb⟩ := updated.built_of_written hu hk
      cases he.symm.trans hb
      exact ⟨rfl, normal unit hu⟩
    | false =>
      have removed := ChangeKind.eq_removed hk (kinds unit hu)
      cases he.symm.trans (updated.built_of_removed hu removed)
  · rw [founded.built_of_untouched updated (by simpa using hu)] at he
    exact founded.named name entry he

/-- But for strays, the store has a unit for each entry. -/
theorem Founded.mem_identities_iff (stocks : (invocation.context filter).Stocks units u s)
    {identity : String} (hs : identity ∉ strays) :
    identity ∈ (invocation.context filter).store.identities s ↔
      assembly.built[identity]?.isSome = true := by
  by_cases hu : ∃ unit ∈ units, unit.identity = identity
  · obtain ⟨unit, hu, rfl⟩ := hu
    cases hk : unit.kind.needsWrite with
    | true =>
      obtain ⟨_, content, _, _, hb⟩ := updated.built_of_written hu hk
      simp [hb, stocks.written unit hu hk]
    | false =>
      have removed := ChangeKind.eq_removed hk (kinds unit hu)
      simp [updated.built_of_removed hu removed, stocks.removed unit hu removed]
  · have apart : ∀ unit ∈ units, unit.identity ≠ identity := by simpa using hu
    rw [founded.built_of_untouched updated apart]
    exact (stocks.others identity apart).trans (founded.units identity hs)

end Founded

/-- Tasks that have been done and brought into the output leave a store that mirrors it. -/
theorem Founded.mirrored (founded : invocation.Founded previous entries strays u)
    (aside : Cache.Aside invocation.intermediate invocation.output)
    (normal : ∀ unit ∈ units, Identity.IsNormal unit.identity)
    (nodup : (units.map (·.identity)).Nodup) (kinds : ∀ unit ∈ units, unit.kind ≠ .unchanged)
    (ht : Runs ((invocation.context filter).runTasks units) u outcomes s)
    (hw : Runs (invocation.writeOutput (invocation.context filter).store previous outcomes)
      s count t) :
    ∃ entries, t.read invocation.output = .ok (Archive.ofMap entries).toBytes ∧
      Mirrored invocation.intermediate invocation.output entries strays t ∧
      (UnitStore.ofDirectory invocation.intermediate toolVersion).Tidy t := by
  obtain ⟨assembly, updated, written⟩ := writeOutput_runs length_version_lt normal nodup ht hw
  have tidy : (invocation.context filter).store.Tidy u := founded.tidy
  have stocks := TaskContext.stocks_of_runTasks tidy normal nodup ht
  have change := changes_of_writeOutput hw
  have outside := aside.not_below_written toolVersion
  have output : t.read invocation.output = .ok (Archive.ofMap assembly.built).toBytes ∧
      (Archive.ofMap assembly.built).Fits := by
    rcases written with ⟨archive, rfl, rfl, rfl⟩ | hr
    · have same : assembly.built = entries :=
        Std.ExtTreeMap.ext_getElem? fun _ => founded.built_of_untouched updated (by simp)
      rw [same]
      exact founded.output archive rfl
    · exact hr
  refine ⟨assembly.built, output.1,
    ⟨?_, output.2, founded.namedAsUnits updated kinds normal, fun identity hs => ?_⟩, ?_⟩
  · exact Workspace.fileAt?_eq_some_iff.mpr (Workspace.read_eq_ok_iff.mp output.1).2
  · -- The output has been written outside of the store.
    rw [UnitStore.identities_eq change outside]
    exact founded.mem_identities_iff updated kinds stocks hs
  · exact (UnitStore.staysTidy_of_apart change outside).tidy stocks.tidy

end Invocation

end MethodTrace
