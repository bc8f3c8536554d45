import MethodTrace.Proofs.KeptManifest
import MethodTrace.Proofs.MemberChanges
import MethodTrace.Proofs.UnitTasks

/-!
The steps of a run that succeeds, and what it leaves behind.
-/

namespace MethodTrace

theorem Workspace.read_of_none {w : Workspace} {path : String} (hr : w.Reaches path)
    (hn : w.node? (Place.named path) = none) : w.read path = .error .missing := by
  unfold read find
  rw [show w.place path = .ok (Place.named path) from hr]
  simp only [bind, Except.bind, hn]
  rfl

/-- The places at which something is kept between runs below a directory. -/
def Cache.placesIn (directory : String) : Set Place :=
  {place | Place.named (Path.join directory "units") <+: place
    ∨ place = Place.named (Manifest.pathIn directory)}

theorem Cache.clears_reset {cache next : Cache} {v w : Workspace}
    (h : Runs cache.reset v next w) :
    next = { cache with previous := .unknown } ∧ Workspace.Clears (placesIn cache.directory) v w := by
  unfold Cache.reset Manifest.remove at h
  obtain ⟨_, s, hm, h⟩ := Runs.bind_iff.mp h
  obtain ⟨_, t, hc, h⟩ := Runs.bind_iff.mp h
  obtain ⟨rfl, rfl⟩ := Runs.pure_iff.mp h
  refine ⟨rfl, ?_⟩
  have first : Workspace.Clears (placesIn cache.directory) v s := by
    rcases Action.clear_iff.mp hm with hm | ⟨_, rfl⟩
    · exact (Workspace.clears_remove hm).mono fun place hp => .inr hp
    · exact .refl _ _
  exact first.trans ((UnitStore.clears_clear hc).mono fun place hp => .inl hp)

namespace Invocation

variable {invocation : Invocation} {filter : TagFilter} {u v w : Workspace} {bytes : Bytes}

/-- What the tasks of an invocation have in common. -/
def context (invocation : Invocation) (filter : TagFilter) : TaskContext :=
  ⟨filter, invocation.settings.hooks, .ofDirectory invocation.intermediate toolVersion⟩

/-- The manifest that a run writes when it has found some fingerprints. -/
def manifest (invocation : Invocation) (filter : TagFilter) (members : Fingerprints) : Manifest :=
  ⟨toolVersion, invocation.settings.fingerprint filter, invocation.archives, members⟩

/-- What is kept of the previous run when a run begins. -/
def kept (invocation : Invocation) (v : Workspace) : Cache :=
  .ofDirectory v invocation.intermediate toolVersion

/-- The output on which a run builds. -/
def previous? (invocation : Invocation) (filter : TagFilter) (v : Workspace) : Option Archive :=
  invocation.previousOutput? v (invocation.kept v) (invocation.settings.fingerprint filter)

/-- What the archive of a run is made to hold before its tasks. -/
def start (invocation : Invocation) : Option Archive → Assembly
  | some archive => .ofArchive archive invocation.settings.archive
  | none => .empty invocation.settings.archive

/-- What is read at the path of the output behind a run that has published some bytes there. The
manifest is written later, so that it prevails where it has the same place. -/
def keptOutput (invocation : Invocation) (manifest : Manifest) (bytes : Bytes) :
    Except FileFault Bytes :=
  if Place.named invocation.output
      = Place.named (Manifest.temporaryPathIn invocation.intermediate) then .error .missing
  else if Place.named invocation.output = Place.named (Manifest.pathIn invocation.intermediate) then
    .ok manifest.fileBytes
  else .ok bytes

theorem previous?_eq_some {archive : Archive}
    (h : invocation.previous? filter v = some archive) :
    (∃ feed, invocation.changes = .listed feed) ∧
      Archive.ofFile v invocation.output = .ok archive := by
  unfold previous? previousOutput? at h
  split at h
  next feed hc _ =>
    refine ⟨⟨feed, hc⟩, ?_⟩
    cases hf : Archive.ofFile v invocation.output with
    | error error =>
      rw [hf] at h
      cases h
    | ok found =>
      rw [hf] at h
      cases h
      rfl
  next => cases h

theorem writeOutput_runs {context : TaskContext} {previous : Option Archive}
    {units : List BuildUnit} {outcomes : List TaskOutcome} {entries : Nat} {s : Workspace}
    (version : context.store.version.toList.length < 2 ^ 20)
    (normal : ∀ unit ∈ units, Identity.IsNormal unit.identity)
    (nodup : (units.map (·.identity)).Nodup) (ht : Runs (context.runTasks units) u outcomes s)
    (hw : Runs (invocation.writeOutput context.store previous outcomes) s entries w) :
    ∃ assembly, Updated context u (invocation.start previous) units assembly ∧
      ((∃ archive, previous = some archive ∧ units = [] ∧ w = u) ∨
        w.read invocation.output = .ok (Archive.ofMap assembly.built).toBytes ∧
          (Archive.ofMap assembly.built).Fits) := by
  unfold writeOutput at hw
  extract_lets settings at hw
  have published {start : Assembly} (he : start = invocation.start previous)
      (hw : Runs (do
        let assembly ← outcomes.foldlM (applyOutcome context.store) start
        (assembly.publish invocation.output).adapt .archive) s entries w) :
      ∃ assembly, Updated context u (invocation.start previous) units assembly ∧
      ((∃ archive, previous = some archive ∧ units = [] ∧ w = u) ∨
        w.read invocation.output = .ok (Archive.ofMap assembly.built).toBytes ∧
          (Archive.ofMap assembly.built).Fits) := by
    subst he
    obtain ⟨assembly, t, ha, hp⟩ := Runs.bind_iff.mp hw
    obtain ⟨rfl, updated⟩ := updated_of_runs version normal nodup ht ha
    obtain ⟨hr, fits, _⟩ := Assembly.publish_runs (Runs.adapt_iff.mp hp)
    exact ⟨assembly, updated, .inr ⟨hr, fits⟩⟩
  cases previous with
  | none => exact published rfl hw
  | some archive =>
    cases outcomes with
    | cons outcome outcomes => exact published rfl hw
    | nil =>
      obtain ⟨_, rfl⟩ := Runs.pure_iff.mp hw
      obtain ⟨rfl, rfl⟩ := TaskContext.eq_nil_of_runTasks normal nodup ht
      exact ⟨_, ⟨rfl, fun _ _ => rfl, by simp, by simp⟩, .inl ⟨archive, rfl, rfl, rfl⟩⟩

/-- A manifest that is committed is read back, and the output stays unless it has the same place. -/
theorem commit_runs {cache last : Cache} {manifest : Manifest}
    (hd : cache.directory = invocation.intermediate) (hr : v.read invocation.output = .ok bytes)
    (h : Runs (cache.commit manifest) v last w) :
    w.read (Manifest.pathIn invocation.intermediate) = .ok manifest.fileBytes ∧
      w.read invocation.output = invocation.keptOutput manifest bytes := by
  unfold Cache.commit at h
  obtain ⟨_, s, hs, h⟩ := Runs.bind_iff.mp h
  obtain ⟨rfl, rfl⟩ := Runs.pure_iff.mp h
  rw [hd] at hs
  obtain ⟨hm, hgone, change⟩ := Manifest.changes_save hs
  refine ⟨hm, ?_⟩
  have reaches := change.directories.reaches (Workspace.read_eq_ok_iff.mp hr).1
  unfold keptOutput
  split
  next ht => exact Workspace.read_of_none reaches (ht ▸ hgone)
  next ht =>
    split
    next hp =>
      have hf := (Workspace.read_eq_ok_iff.mp hm).2
      exact Workspace.read_eq_ok_iff.mpr ⟨reaches, hp ▸ hf⟩
    next hp => exact change.read (by simp [ht, hp]) hr

/-- What a run has done before it detects its units: it has looked at what is kept, and forgotten
that if it cannot build on it. -/
structure Begun (invocation : Invocation) (filter : TagFilter) (v : Workspace) (cache : Cache)
    (u : Workspace) : Prop where
  directory : cache.directory = invocation.intermediate
  version : cache.version = toolVersion
  reset : invocation.previous? filter v = none → Runs (invocation.kept v).reset v cache u
  kept : (invocation.previous? filter v).isSome = true → cache = invocation.kept v ∧ u = v

/-- The steps of a run that succeeds: it begins, detects what is to be done, does it, and keeps a
manifest. -/
theorem exists_steps {report : RunReport} (h : Runs invocation.run v report w) :
    ∃ filter cache u detection outcomes s entries t last,
      invocation.checkedFilter = .ok filter ∧
      report.fullRebuild = (invocation.previous? filter v).isNone ∧
      invocation.Begun filter v cache u ∧
      detect u invocation cache report.fullRebuild = .ok detection ∧
      Runs ((invocation.context filter).runTasks detection.changes.actionable) u outcomes s ∧
      Runs (invocation.writeOutput (invocation.context filter).store
        (invocation.previous? filter v) outcomes) s entries t ∧
      Runs (cache.commit (invocation.manifest filter detection.fingerprints)) t last w := by
  unfold run at h
  obtain ⟨filter, hf, h⟩ := Runs.liftM_bind_iff.mp h
  extract_lets settings at h
  have h := Runs.get_bind_iff.mp h
  extract_lets kept previous full rest at h
  suffices work : ∃ cache u, invocation.Begun filter v cache u ∧ Runs (rest cache) u report w by
    obtain ⟨cache, u, begun, hr⟩ := work
    have store : cache.store = (invocation.context filter).store := by
      rw [Cache.store, begun.directory, begun.version]
      rfl
    obtain ⟨detection, hdet, hr⟩ := Action.look_bind_iff.mp hr
    obtain ⟨outcomes, s, ht, hr⟩ := Runs.bind_iff.mp hr
    obtain ⟨entries, t, hw, hr⟩ := Runs.bind_iff.mp hr
    obtain ⟨last, x, hc, hr⟩ := Runs.bind_iff.mp hr
    obtain ⟨rfl, rfl⟩ := Runs.pure_iff.mp hr
    rw [store] at ht hw
    exact ⟨filter, cache, u, detection, outcomes, s, entries, t, last, hf, rfl, begun, hdet, ht, hw,
      Runs.adapt_iff.mp hc⟩
  split at h
  next hfull =>
    have none : invocation.previous? filter v = none := Option.isNone_iff_eq_none.mp hfull
    obtain ⟨cache, u, hr, hrest⟩ := Runs.bind_iff.mp h
    have reset := Runs.adapt_iff.mp hr
    obtain ⟨rfl, _⟩ := Cache.clears_reset reset
    exact ⟨_, u, ⟨rfl, rfl, fun _ => reset, fun hs => by simp [none] at hs⟩, hrest⟩
  next hfull =>
    refine ⟨kept, v, ⟨rfl, rfl, fun hn => ?_, fun _ => ⟨rfl, rfl⟩⟩, h⟩
    exact absurd (Option.isNone_iff_eq_none.mpr hn) hfull

/-- What has been cleared before a run detects what is to be done. -/
theorem run_runs {report : RunReport} (h : Runs invocation.run v report w) :
    ∃ filter cache u detection outcomes s entries t last,
      invocation.checkedFilter = .ok filter ∧
      report.fullRebuild = (invocation.previous? filter v).isNone ∧
      cache.directory = invocation.intermediate ∧ cache.version = toolVersion ∧
      (if report.fullRebuild then Workspace.Clears (Cache.placesIn invocation.intermediate) v u
        else cache = invocation.kept v ∧ u = v) ∧
      detect u invocation cache report.fullRebuild = .ok detection ∧
      Runs ((invocation.context filter).runTasks detection.changes.actionable) u outcomes s ∧
      Runs (invocation.writeOutput (invocation.context filter).store
        (invocation.previous? filter v) outcomes) s entries t ∧
      Runs (cache.commit (invocation.manifest filter detection.fingerprints)) t last w := by
  obtain ⟨filter, cache, u, detection, outcomes, s, entries, t, last, hf, hb, begun, steps⟩ :=
    exists_steps h
  refine ⟨filter, cache, u, detection, outcomes, s, entries, t, last, hf, hb, begun.directory,
    begun.version, ?_, steps⟩
  cases hp : invocation.previous? filter v with
  | none =>
    rw [hb, hp]
    exact (Cache.clears_reset (begun.reset hp)).2
  | some archive =>
    rw [hb, hp]
    exact begun.kept (by simp [hp])

end Invocation

end MethodTrace
