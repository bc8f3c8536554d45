import MethodTrace.Proofs.SharedIdentities

/-!
When incremental runs over directories leave what clean runs leave.

A run that builds on a previous one takes the first listed file of an identity, while a clean run
takes the first file that a walk through the directories meets. The outputs are the same exactly if
these give the same entries.
-/

namespace MethodTrace

namespace Invocation

open Detection

variable {invocation : Invocation} {filter : TagFilter} {contents : Set Bytes}
  {feed : List FileChange} {report : RunReport} {entries : Std.ExtTreeMap String ArchiveEntry}
  {t u v w : Workspace}

/-- What a run takes for the loose files that are concerned gives the entries that the first files
of their identities give. -/
def FirstWins (invocation : Invocation) (feed : List FileChange) (v : Workspace) : Prop :=
  ∀ filter identity, invocation.checkedFilter = .ok filter →
    (invocation.archivedAt v)[identity]? = none →
    Concerned (listedUnits invocation.directories feed) (invocation.kept v).fingerprints identity →
    (taken? v invocation.directories (listedUnits invocation.directories feed) identity).map
        (invocation.settings.entryFor filter identity)
      = (invocation.firstFile? v identity).map (invocation.settings.entryFor filter identity)

/-- What a run has taken makes a clean output exactly if the first files win. -/
theorem Took.clean_iff (h : invocation.Took filter feed v entries)
    (hf : invocation.checkedFilter = .ok filter) :
    invocation.Clean filter v entries ↔ invocation.FirstWins feed v := by
  constructor
  · intro clean filter' identity hf' hm hc
    have filters : filter' = filter := Except.ok.inj (hf'.symm.trans hf)
    subst filters
    rw [← h.concerned identity hm hc, clean identity, source?, hm]
  · intro first identity
    by_cases hc : (invocation.archivedAt v)[identity]? = none →
        ¬Concerned (listedUnits invocation.directories feed) (invocation.kept v).fingerprints identity
    · exact h.others identity hc
    · rw [Classical.not_imp, not_not] at hc
      rw [h.concerned identity hc.1 hc.2, first filter identity hf hc.1 hc.2, source?, hc.1]

/-- Workspaces of which the second is that behind a run for the inputs in the first: one that has
built everything anew, or one that has found the manifest and the output as such a run has left
them, has been told all changes since then, and has taken the first files. -/
inductive Built (invocation : Invocation) (contents : Set Bytes) : Workspace → Workspace → Prop
  | rebuilt {changes : InputChanges} {v w : Workspace} {report : RunReport}
    (named : invocation.WellNamed v) (members : invocation.MembersIn contents v)
    (run : Runs (invocation.withChanges changes).run v report w)
    (full : report.fullRebuild = true) : Built invocation contents v w
  | updated {feed : List FileChange} {t u v w : Workspace} {report : RunReport}
    (built : Built invocation contents t u) (same : invocation.SameResults u v)
    (members : invocation.MembersIn contents v) (lists : invocation.Lists feed t v)
    (first : invocation.FirstWins feed v)
    (run : Runs (invocation.withChanges (.listed feed)).run v report w)
    (partly : report.fullRebuild = false) : Built invocation contents v w

theorem LeftFrom.of_sameResults (h : invocation.LeftFrom filter t u)
    (same : invocation.SameResults u v) : invocation.LeftFrom filter t v := by
  obtain ⟨entries, clean, left⟩ := h
  exact ⟨entries, clean, left.of_sameResults same⟩

theorem toldApart_of_members (inj : Set.InjOn ContentHash.ofBytes contents)
    (before : invocation.MembersIn contents t) (now : invocation.MembersIn contents v) :
    ToldApart (invocation.archivedAt t) (invocation.archivedAt v) :=
  fun _ _ _ hb hn hash =>
    inj (content_mem_of_archivedAt before hb) (content_mem_of_archivedAt now hn) hash

/-- What holds behind one run holds behind the next one. -/
theorem Built.leftFrom (apart : invocation.Apart) (inj : Set.InjOn ContentHash.ofBytes contents)
    (h : invocation.Built contents t w) :
    invocation.MembersIn contents t ∧ ∃ filter, invocation.checkedFilter = .ok filter ∧
      invocation.LeftFrom filter t w := by
  induction h with
  | rebuilt named members run full => exact ⟨members, leftFrom_of_rebuild apart named run full⟩
  | updated _ same members lists first run partly ih =>
    obtain ⟨before, filter, hf, left⟩ := ih
    obtain ⟨entries, took, after⟩ := took_of_update apart (left.of_sameResults same) hf run partly
      (toldApart_of_members inj before members) lists
    exact ⟨members, filter, hf, entries, (took.clean_iff hf).mpr first, after⟩

theorem Clean.eq_iff {others : Std.ExtTreeMap String ArchiveEntry}
    (h : invocation.Clean filter t entries) : others = entries ↔ invocation.Clean filter t others := by
  constructor
  · rintro rfl
    exact h
  · intro clean
    apply Std.ExtTreeMap.ext_getElem?
    intro identity
    rw [h identity, clean identity]

theorem Took.named (h : invocation.Took filter feed v entries) : Assembly.Named entries := by
  intro name entry he
  have normal := h.normal name (by rw [he]; rfl)
  have shaped : ∃ content : Option Bytes, entries[name]?
      = content.map (invocation.settings.entryFor filter name) := by
    by_cases hc : (invocation.archivedAt v)[name]? = none →
        ¬Concerned (listedUnits invocation.directories feed) (invocation.kept v).fingerprints name
    · exact ⟨_, h.others name hc⟩
    · rw [Classical.not_imp, not_not] at hc
      exact ⟨_, h.concerned name hc.1 hc.2⟩
  obtain ⟨content, hs⟩ := shaped
  rw [he] at hs
  obtain ⟨bytes, _, rfl⟩ := Option.map_eq_some_iff.mp hs.symm
  exact ⟨rfl, normal.not_endsWith_slash⟩

/-- Where the manifest has another place, outputs are the same exactly if their entries are. -/
theorem Left.output_eq_iff {prints prints' : Fingerprints} {w' : Workspace}
    {entries' : Std.ExtTreeMap String ArchiveEntry} (h : invocation.Left filter prints entries w)
    (h' : invocation.Left filter prints' entries' w') (named : Assembly.Named entries)
    (named' : Assembly.Named entries')
    (apart : ∀ manifest bytes, invocation.keptOutput manifest bytes = .ok bytes) :
    w.read invocation.output = w'.read invocation.output ↔ entries = entries' := by
  rw [h.output, h'.output, apart, apart, Except.ok.injEq]
  constructor
  · intro same
    have archives := Archive.toBytes_inj h.fits h'.fits same
    rw [← Assembly.built_ofArchive named invocation.settings.archive, archives,
      Assembly.built_ofArchive named']
  · rintro rfl
    rfl

theorem archivedAt_congr (archives : ∀ path ∈ invocation.archives, v.read path = w.read path) :
    invocation.archivedAt v = invocation.archivedAt w := by
  have scans : ∀ paths : List String, (∀ path ∈ paths, v.read path = w.read path) →
      paths.mapM (scan v) = paths.mapM (scan w) := by
    intro paths
    induction paths with
    | nil => exact fun _ => rfl
    | cons path paths ih =>
      intro h
      have here : scan v path = scan w path := by
        unfold scan Archive.ofFile Workspace.readOr
        rw [h path (by simp)]
      rw [List.mapM_cons, List.mapM_cons, here, ih fun other ho => h other (by simp [ho])]
  rw [archivedAt, archivedAt, scans _ archives]

theorem source?_congr (archived : invocation.archivedAt v = invocation.archivedAt w)
    (files : ∀ root ∈ invocation.directories, v.filesUnder root = w.filesUnder root)
    (identity : String) : invocation.source? v identity = invocation.source? w identity := by
  rw [source?, source?, firstFile?, firstFile?, archived, looseFiles_congr files]

/-- A run that builds on a previous one leaves a clean output exactly if the first files win. -/
theorem output_eq_iff_firstWins {w' : Workspace} (apart : invocation.Apart)
    (before : invocation.LeftFrom filter t v) (hf : invocation.checkedFilter = .ok filter)
    (told : ToldApart (invocation.archivedAt t) (invocation.archivedAt v))
    (lists : invocation.Lists feed t v)
    (h : Runs (invocation.withChanges (.listed feed)).run v report w)
    (partly : report.fullRebuild = false) (clean : invocation.LeftFrom filter v w') :
    w.read invocation.output = w'.read invocation.output ↔ invocation.FirstWins feed v := by
  obtain ⟨_, _, _, _, _, _, _, _, _, _, hp, _⟩ := run_runs h
  rw [partly] at hp
  obtain ⟨archive, ha⟩ := Option.isSome_iff_exists.mp (Option.isNone_eq_false_iff.mp hp.symm)
  obtain ⟨entries, took, after⟩ := took_of_update apart before hf h partly told lists
  obtain ⟨_, _, found⟩ := before
  obtain ⟨entries', clean, after'⟩ := clean
  have places := found.keptOutput_eq (previous?_eq_some ha).2
  rw [after.output_eq_iff after' took.named clean.named places, clean.eq_iff, took.clean_iff hf]

/-- A run that is told what has changed since a run, and a clean run over the same inputs, leave
the same output exactly if the first builds everything anew as well or what it takes is what the
first files give. -/
theorem incremental_eq_clean_iff_firstWins {v' w' : Workspace} {report' : RunReport}
    (apart : invocation.Apart) (inj : Set.InjOn ContentHash.ofBytes contents)
    (built : invocation.Built contents t u) (same : invocation.SameResults u v)
    (members : invocation.MembersIn contents v) (named : invocation.WellNamed v)
    (lists : invocation.Lists feed t v)
    (archives : ∀ path ∈ invocation.archives, v'.read path = v.read path)
    (files : ∀ root ∈ invocation.directories, v'.filesUnder root = v.filesUnder root)
    (run : Runs (invocation.withChanges (.listed feed)).run v report w)
    (clean : Runs (invocation.withChanges .unknown).run v' report' w') :
    w.read invocation.output = w'.read invocation.output ↔
      report.fullRebuild = true ∨ invocation.FirstWins feed v := by
  obtain ⟨before, filter, hf, left⟩ := built.leftFrom apart inj
  have full : report'.fullRebuild = true := by
    obtain ⟨_, _, _, _, _, _, _, _, _, _, hp, _⟩ := run_runs clean
    rw [hp]
    rfl
  have named' : invocation.WellNamed v' := fun root hr file hm =>
    named root hr file (files root hr ▸ hm)
  obtain ⟨filter', hf', entries', anew, after'⟩ := leftFrom_of_rebuild apart named' clean full
  have filters : filter' = filter := Except.ok.inj (hf'.symm.trans hf)
  subst filters
  have archived := archivedAt_congr archives
  rw [archived] at after'
  have now : invocation.Clean filter' v entries' := by
    intro identity
    rw [anew identity, source?_congr archived files]
  cases partly : report.fullRebuild with
  | true =>
    obtain ⟨filter, hf, entries, first, after⟩ := leftFrom_of_rebuild apart named run partly
    have filters : filter' = filter := Except.ok.inj (hf'.symm.trans hf)
    subst filters
    have entries_eq := now.eq_iff.mpr first
    subst entries_eq
    simp [after.output, after'.output]
  | false =>
    rw [output_eq_iff_firstWins apart (left.of_sameResults same) hf
      (toldApart_of_members inj before members) lists run partly ⟨entries', now, after'⟩]
    simp

/-- A run that is told of a change of the first file of an identity leaves what a clean run
leaves. -/
theorem incremental_eq_clean_twoRoots :
    ∃ (t u v w v' w' : Workspace) (report report' : RunReport),
      twoRoots.Built ∅ t u ∧ twoRoots.Exact [⟨"a", "a/x", .modified⟩] t v ∧
      Runs (twoRoots.withChanges (.listed [⟨"a", "a/x", .modified⟩])).run v report w ∧
      report.fullRebuild = false ∧ Runs (twoRoots.withChanges .unknown).run v' report' w' ∧
      w.read "o" = w'.read "o" ∧ twoRoots.FirstWins [⟨"a", "a/x", .modified⟩] v := by
  have members (w : Workspace) : twoRoots.MembersIn ∅ w := by
    simp [MembersIn, twoRoots, withoutInputs]
  have path : ["a"] <+: ["a", "x"] := ⟨["x"], rfl⟩
  obtain ⟨u, w, earlier, report, first, full, now, same, run, partly, after⟩ :=
    @runs_change [99] [98] [97] 0 "a/x" ["a", "x"] ⟨"a", "a/x", .modified⟩ (.inl path)
      (by cbv) (fun _ h => h.insert_a [99]) (by cbv) (fun _ h => h.read_a)
  have built : ((Assembly.empty twoRoots.settings.archive).insert "x" [99]).toBytes ".o.tmp"
      = .ok (onlyEntry [99]) := by cbv
  obtain ⟨report', w', clean, _, _, anew, _⟩ :=
    runs_rebuild_twoRoots (pairs_paired [99] [98]) (by cbv) (by cbv) built
  have before : twoRoots.Built ∅ (paired [97] [98]) u :=
    .rebuilt (wellNamed_twoRoots (pairs_paired _ _)) (members _) first full
  have exact_feed : twoRoots.Exact [⟨"a", "a/x", .modified⟩] (paired [97] [98])
      (u.insert ["a", "x"] (.file [99])) := exact_twoRoots (pairs_paired _ _) now (by simp)
  have outputs : w.read "o" = w'.read "o" := after.trans anew.symm
  have files : ∀ root ∈ twoRoots.directories, (paired [99] [98]).filesUnder root
      = (u.insert ["a", "x"] (.file [99])).filesUnder root :=
    fun root hr => (now.filesUnder_eq (List.mem_pair.mp hr)).symm
  have wins := (incremental_eq_clean_iff_firstWins apart_twoRoots (by simp) before same (members _)
    (wellNamed_twoRoots now) exact_feed.lists (by simp [twoRoots, withoutInputs]) files run
    clean).mp outputs
  rw [partly] at wins
  exact ⟨_, u, _, w, _, w', report, report', before, exact_feed, run, partly, clean, outputs,
    wins.resolve_left (by decide)⟩

/-- A run that is told of a change of a file behind another one of its identity takes it, unlike a
clean run. -/
theorem not_incremental_eq_clean_of_exact : ¬∀ (invocation : Invocation) (contents : Set Bytes)
    (feed : List FileChange) (t u v w v' w' : Workspace) (earlier report report' : RunReport),
    invocation.directories ≠ [] → invocation.Apart → Set.InjOn ContentHash.ofBytes contents →
    invocation.MembersIn contents t → invocation.WellNamed t →
    Runs (invocation.withChanges .unknown).run t earlier u →
    invocation.SameResults u v → invocation.MembersIn contents v → invocation.WellNamed v →
    invocation.Exact feed t v →
    (∀ path ∈ invocation.archives, v'.read path = v.read path) →
    (∀ root ∈ invocation.directories, v'.filesUnder root = v.filesUnder root) →
    Runs (invocation.withChanges (.listed feed)).run v report w →
    Runs (invocation.withChanges .unknown).run v' report' w' →
    w.read invocation.output = w'.read invocation.output := by
  intro claim
  have members (w : Workspace) : twoRoots.MembersIn ∅ w := by
    simp [MembersIn, twoRoots, withoutInputs]
  have path : ["b"] <+: ["b", "x"] := ⟨["x"], rfl⟩
  obtain ⟨u, w, earlier, report, first, full, now, same, run, partly, after⟩ :=
    @runs_change [97] [99] [98] 1 "b/x" ["b", "x"] ⟨"b", "b/x", .modified⟩ (.inr path)
      (by cbv) (fun _ h => h.insert_b [99]) (by cbv) (fun _ h => h.read_b)
  have built : ((Assembly.empty twoRoots.settings.archive).insert "x" [97]).toBytes ".o.tmp"
      = .ok (onlyEntry [97]) := by cbv
  obtain ⟨report', w', clean, _, _, anew, _⟩ :=
    runs_rebuild_twoRoots (pairs_paired [97] [99]) (by cbv) (by cbv) built
  have exact_feed : twoRoots.Exact [⟨"b", "b/x", .modified⟩] (paired [97] [98])
      (u.insert ["b", "x"] (.file [99])) := exact_twoRoots (pairs_paired _ _) now (by simp)
  have files : ∀ root ∈ twoRoots.directories, (paired [97] [99]).filesUnder root
      = (u.insert ["b", "x"] (.file [99])).filesUnder root :=
    fun root hr => (now.filesUnder_eq (List.mem_pair.mp hr)).symm
  have outputs : w.read "o" = w'.read "o" := claim twoRoots ∅ _ _ u _ w _ w' earlier report report'
    (by simp [twoRoots]) apart_twoRoots (by simp) (members _) (wellNamed_twoRoots (pairs_paired _ _))
    first same (members _) (wellNamed_twoRoots now) exact_feed (by simp [twoRoots, withoutInputs])
    files run clean
  rw [after, anew, Except.ok.injEq] at outputs
  exact onlyEntry_ne outputs

end Invocation

end MethodTrace
