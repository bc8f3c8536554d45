import MethodTrace.Proofs.IncrementalRuns
import MethodTrace.Proofs.LooseUnits

/-!
What runs over directories leave.

A run that builds on a previous one takes what is listed for an identity. Everything else that it
leaves is what a clean run leaves.
-/

namespace MethodTrace

namespace Invocation

open Detection

variable {invocation : Invocation} {filter : TagFilter} {contents : Set Bytes}
  {changes : InputChanges} {feed : List FileChange} {report : RunReport} {identity : String}
  {entries : Std.ExtTreeMap String ArchiveEntry} {t u v w : Workspace}

/-- The units that the archives give. -/
def archivedAt (invocation : Invocation) (w : Workspace) : ArchivedUnits :=
  archivedUnits ((invocation.archives.mapM (scan w)).toOption.getD [])

theorem archivedAt_eq {scans : List (List ArchiveMember)}
    (h : invocation.archives.mapM (scan w) = .ok scans) :
    invocation.archivedAt w = archivedUnits scans := by
  rw [archivedAt, h]
  rfl

theorem isNormal_of_archivedAt {held : ArchivedUnit}
    (h : (invocation.archivedAt w)[identity]? = some held) : Identity.IsNormal identity := by
  cases hs : invocation.archives.mapM (scan w) with
  | error error =>
    rw [archivedAt, hs] at h
    simp [Except.toOption, archivedUnits] at h
  | ok scans =>
    rw [archivedAt_eq hs] at h
    exact isNormal_of_scans hs h

theorem content_mem_of_archivedAt {held : ArchivedUnit} (members : invocation.MembersIn contents w)
    (h : (invocation.archivedAt w)[identity]? = some held) : held.content ∈ contents := by
  cases hs : invocation.archives.mapM (scan w) with
  | error error =>
    rw [archivedAt, hs] at h
    simp [Except.toOption, archivedUnits] at h
  | ok scans =>
    rw [archivedAt_eq hs] at h
    exact content_mem_of_scans members hs h

theorem isNormal_of_firstFile? {bytes : Bytes}
    (h : invocation.firstFile? w identity = some bytes) : Identity.IsNormal identity := by
  obtain ⟨file, hf, _⟩ := Option.map_eq_some_iff.mp h
  have he : file.1 = identity := by simpa using List.find?_some hf
  obtain ⟨root, _, hm⟩ := List.mem_flatMap.mp (List.mem_of_find?_eq_some hf)
  obtain ⟨below, _, hl⟩ := List.mem_filterMap.mp hm
  obtain ⟨other, ha, rfl⟩ := Option.map_eq_some_iff.mp hl
  obtain ⟨unit, hu, hi⟩ := Option.map_eq_some_iff.mp ha
  have unit_ok : fileUnit root 0 below.1 = .ok unit := by
    cases hr : fileUnit root 0 below.1 with
    | error error =>
      rw [hr] at hu
      cases hu
    | ok found =>
      rw [hr] at hu
      cases hu
      rfl
  rw [← he, ← hi]
  exact (fileUnit_eq_ok unit_ok).2.1

/-- The content of an identity in the first input that has it. -/
def source? (invocation : Invocation) (w : Workspace) (identity : String) : Option Bytes :=
  match (invocation.archivedAt w)[identity]? with
  | some held => some held.content
  | none => invocation.firstFile? w identity

theorem isNormal_of_source? {bytes : Bytes} (h : invocation.source? w identity = some bytes) :
    Identity.IsNormal identity := by
  unfold source? at h
  split at h
  next hm => exact isNormal_of_archivedAt hm
  next => exact isNormal_of_firstFile? h

/-- The entries that a clean run writes for the inputs in a workspace. -/
def Clean (invocation : Invocation) (filter : TagFilter) (t : Workspace)
    (entries : Std.ExtTreeMap String ArchiveEntry) : Prop :=
  ∀ identity, entries[identity]?
    = (invocation.source? t identity).map (invocation.settings.entryFor filter identity)

/-- A run has left what a clean run leaves for the inputs in a workspace. -/
def LeftFrom (invocation : Invocation) (filter : TagFilter) (t w : Workspace) : Prop :=
  ∃ entries, invocation.Clean filter t entries ∧
    invocation.Left filter (fingerprintsOf (invocation.archivedAt t)) entries w

theorem named_of_normal {content? : String → Option Bytes}
    (h : ∀ identity, entries[identity]?
      = (content? identity).map (invocation.settings.entryFor filter identity))
    (normal : ∀ identity bytes, content? identity = some bytes → Identity.IsNormal identity) :
    Assembly.Named entries := by
  intro name entry he
  rw [h name] at he
  obtain ⟨bytes, hb, rfl⟩ := Option.map_eq_some_iff.mp he
  exact ⟨rfl, (normal name bytes hb).not_endsWith_slash⟩

theorem Clean.named (h : invocation.Clean filter t entries) : Assembly.Named entries :=
  named_of_normal h fun _ _ => isNormal_of_source?

/-- What is to be done is what loose units and members of archives call for. -/
theorem detect_work {cache : Cache} {full : Bool} {detection : Detection}
    (h : detect u (invocation.withChanges changes) cache full = .ok detection) :
    ∃ units, looseUnits u (invocation.withChanges changes) full = .ok units ∧
      detection.fingerprints = fingerprintsOf (invocation.archivedAt u) ∧
      detection.changes.actionable = invocation.work u (invocation.archivedAt u)
        (if full then ∅ else cache.fingerprints) units := by
  obtain ⟨scans, units, hs, hl, hf, hc⟩ := detect_eq_ok h
  have archived : invocation.archivedAt u = archivedUnits scans := archivedAt_eq hs
  refine ⟨units, hl, ?_, ?_⟩
  · rw [archived, hf]
  · rw [archived, hc]
    rfl

/-- A walk finds the first file of each identity. -/
theorem rel_find?_walked {units : List BuildUnit} {files : List (String × Bytes)}
    (h : List.Forall₂ (invocation.Walked w) units files) :
    Option.Rel (invocation.Walked w) (units.find? (·.identity == identity))
      (files.find? (·.1 == identity)) := by
  induction h with
  | nil => exact .none
  | @cons unit file units files walked _ ih =>
    rw [List.find?_cons, List.find?_cons, walked.identity]
    split
    · exact .some walked
    · exact ih

theorem taken?_walked {units : List BuildUnit} {unit : BuildUnit}
    (h : List.Forall₂ (invocation.Walked w) units (invocation.looseFiles w))
    (hu : unit ∈ units) (hi : unit.identity = identity) :
    taken? w invocation.directories units identity = invocation.firstFile? w identity := by
  have found := @rel_find?_walked _ identity _ _ _ h
  unfold taken? firstFile?
  cases hf : units.find? (·.identity == identity) with
  | none => exact absurd (List.find?_eq_none.mp hf unit hu) (by simp [hi])
  | some first =>
    rw [hf] at found
    cases hl : (invocation.looseFiles w).find? (·.1 == identity) with
    | none =>
      rw [hl] at found
      cases found
    | some file =>
      rw [hl] at found
      obtain ⟨walked⟩ := found
      obtain ⟨path, content, held, _⟩ := walked.content
      simp [content, held]

theorem firstFile?_eq_none_of_walked {units : List BuildUnit}
    (h : List.Forall₂ (invocation.Walked w) units (invocation.looseFiles w))
    (hu : ∀ unit ∈ units, unit.identity ≠ identity) :
    invocation.firstFile? w identity = none := by
  have found := @rel_find?_walked _ identity _ _ _ h
  have nothing : units.find? (·.identity == identity) = none := by
    rw [List.find?_eq_none]
    simpa using hu
  rw [nothing] at found
  unfold firstFile?
  cases hl : (invocation.looseFiles w).find? (·.1 == identity) with
  | none => rfl
  | some file =>
    rw [hl] at found
    cases found

theorem memberKind_empty (identity : String) (held : ArchivedUnit) :
    memberKind ∅ identity held = .added := by
  unfold memberKind Fingerprints.kindOf
  simp

theorem looseFiles_congr
    (h : ∀ root ∈ invocation.directories, v.filesUnder root = w.filesUnder root) :
    invocation.looseFiles v = invocation.looseFiles w := by
  unfold looseFiles
  exact List.flatMap_congr fun root hr => by rw [h root hr]

/-- What the inputs give does not change when a run forgets what is kept. -/
theorem inputs_of_clears (apart : invocation.Apart)
    (h : Workspace.Clears (Cache.placesIn invocation.intermediate) v u)
    {scans : List (List ArchiveMember)} (hs : invocation.archives.mapM (scan u) = .ok scans) :
    invocation.archivedAt u = invocation.archivedAt v ∧
      invocation.looseFiles u = invocation.looseFiles v := by
  have before := scans_of_reads (fun _ _ _ => h.shrinks.read) hs
  exact ⟨by rw [archivedAt_eq hs, archivedAt_eq before],
    looseFiles_congr fun root hr => apart.filesUnder h hr⟩

/-- Tasks for everything that a walk has met make a clean output of an empty one. -/
theorem clean_of_walked {units : List BuildUnit} {assembly : Assembly}
    (apart : invocation.Apart) (loose : ∀ unit ∈ units, Loose invocation.directories unit)
    (walked : List.Forall₂ (invocation.Walked u) units (invocation.looseFiles u))
    (normal : ∀ unit ∈ invocation.work u (invocation.archivedAt u) ∅ units,
      Identity.IsNormal unit.identity)
    (updated : Updated (invocation.context filter) u (invocation.start none)
      (invocation.work u (invocation.archivedAt u) ∅ units) assembly) :
    invocation.Clean filter u assembly.built := by
  intro identity
  unfold source?
  cases hm : (invocation.archivedAt u)[identity]? with
  | some held => exact built_of_changed updated hm (by simp [memberKind_empty])
  | none =>
    by_cases hu : ∃ unit ∈ units, unit.identity = identity
    · obtain ⟨unit, hu, hi⟩ := hu
      rw [← taken?_walked walked hu hi]
      exact built_of_concerned updated apart normal loose (by simp) hm (.inl ⟨unit, hu, hi⟩)
    · rw [firstFile?_eq_none_of_walked walked (by simpa using hu),
        built_of_unconcerned updated hm (by simpa [Concerned] using hu), built_start_none]
      simp

/-- A run that builds everything anew leaves what a clean run leaves. -/
theorem leftFrom_of_rebuild (apart : invocation.Apart) (named : invocation.WellNamed v)
    (h : Runs (invocation.withChanges changes).run v report w)
    (full : report.fullRebuild = true) :
    ∃ filter, invocation.checkedFilter = .ok filter ∧ invocation.LeftFrom filter v w := by
  obtain ⟨filter, cache, u, detection, outcomes, s, count, t, last, hf, hp, hc, _, hu, hdet, ht,
    hw, hcommit⟩ := run_runs h
  rw [full] at hp hu hdet
  obtain ⟨scans, _, hs, _⟩ := detect_eq_ok hdet
  obtain ⟨units, hl, prints, actions⟩ := detect_work hdet
  obtain ⟨archived, files⟩ := inputs_of_clears apart hu hs
  rw [if_pos rfl] at actions
  rw [actions] at ht
  rw [Option.isNone_iff_eq_none.mp hp.symm] at hw
  rw [prints, archived] at hcommit
  have walk : walkedUnits u invocation.directories = .ok units := by
    unfold looseUnits at hl
    split at hl
    next feed hc => exact absurd hc (by simp)
    next => exact hl
  have walked : List.Forall₂ (invocation.Walked u) units (invocation.looseFiles u) :=
    forall₂_walked (fun root hr file hm => named root hr file (apart.filesUnder hu hr ▸ hm)) walk
  have loose : ∀ unit ∈ units, Loose invocation.directories unit := by
    intro unit hm
    obtain ⟨file, _, walked⟩ := forall₂_exists_left walked.flip hm
    exact walked.loose
  have normal : ∀ unit ∈ invocation.work u (invocation.archivedAt u) ∅ units,
      Identity.IsNormal unit.identity :=
    normal_work loose (fun _ _ => isNormal_of_archivedAt) (by simp)
  obtain ⟨assembly, updated, left⟩ := left_of_steps hc normal nodup_work built_start_none (by simp)
    ht hw hcommit
  have clean := clean_of_walked apart loose walked normal updated
  refine ⟨filter, hf, assembly.built, ?_, left_withChanges.mp left⟩
  intro identity
  rw [clean identity, source?, source?, firstFile?, firstFile?, archived, files]

/-- For all files that differ between two workspaces, something is listed about their identities.
This is so in particular if all changes are listed. -/
def Lists (invocation : Invocation) (feed : List FileChange) (t v : Workspace) : Prop :=
  ∀ root ∈ invocation.directories, ∀ names bytes identity,
    identityAt? root names = some identity →
    ¬((names, bytes) ∈ t.filesUnder root ↔ (names, bytes) ∈ v.filesUnder root) →
    ∃ change ∈ feed, change.kind ≠ .unchanged ∧ identityOf change.relativePath = .ok identity

/-- What happened to a file that had some bytes, if it was there, and has others now. -/
def fate? : Option Bytes → Option Bytes → Option ChangeKind
  | none, none => none
  | none, some _ => some .added
  | some _, none => some .removed
  | some before, some now => if before = now then none else some .modified

/-- The bytes of the file to which names lead from an input directory. -/
def bytesUnder? (w : Workspace) (root : String) (names : List String) : Option Bytes :=
  ((w.filesUnder root).find? (·.1 == names)).map (·.2)

/-- A feed lists exactly the files under the input directories that have appeared, are gone or have
other bytes. -/
def Exact (invocation : Invocation) (feed : List FileChange) (t v : Workspace) : Prop :=
  ∀ change, change ∈ feed ↔ ∃ root ∈ invocation.directories, ∃ names kind,
    fate? (bytesUnder? t root names) (bytesUnder? v root names) = some kind ∧
      change = ⟨root, names.foldl Path.join root, kind⟩

theorem bytesUnder?_eq_some_iff {root : String} {names : List String} {bytes : Bytes} :
    bytesUnder? w root names = some bytes ↔ (names, bytes) ∈ w.filesUnder root := by
  unfold bytesUnder?
  rw [Option.map_eq_some_iff]
  constructor
  · rintro ⟨⟨other, content⟩, hf, rfl⟩
    have he : other = names := by simpa using List.find?_some hf
    exact he ▸ List.mem_of_find?_eq_some hf
  · intro hm
    cases hf : (w.filesUnder root).find? (·.1 == names) with
    | none => exact absurd (List.find?_eq_none.mp hf _ hm) (by simp)
    | some file =>
      obtain ⟨other, content⟩ := file
      have he : other = names := by simpa using List.find?_some hf
      subst he
      have found := Workspace.mem_filesUnder_iff.mp (List.mem_of_find?_eq_some hf)
      have held := Workspace.mem_filesUnder_iff.mp hm
      rw [found.2.1] at held
      simp only [Option.some.injEq, Node.file.injEq] at held
      exact ⟨_, rfl, held.2.1⟩

theorem exists_fate {before now : Option Bytes} (h : before ≠ now) :
    ∃ kind, fate? before now = some kind ∧ kind ≠ .unchanged := by
  cases before with
  | none =>
    cases now with
    | none => exact absurd rfl h
    | some bytes => exact ⟨.added, rfl, by decide⟩
  | some bytes =>
    cases now with
    | none => exact ⟨.removed, rfl, by decide⟩
    | some other =>
      have differ : bytes ≠ other := fun he => h (congrArg some he)
      exact ⟨.modified, if_neg differ, by decide⟩

theorem identityOf_of_identityAt? {root : String} {names : List String}
    (h : identityAt? root names = some identity) {kind : ChangeKind} :
    identityOf (FileChange.relativePath ⟨root, names.foldl Path.join root, kind⟩)
      = .ok identity := by
  unfold identityAt? fileUnit at h
  change identityOf ((Path.stripPrefix? (names.foldl Path.join root) root).getD
    (names.foldl Path.join root)) = _
  cases hi : identityOf ((Path.stripPrefix? (names.foldl Path.join root) root).getD
    (names.foldl Path.join root)) with
  | error error =>
    simp only [hi, bind, Except.bind] at h
    cases h
  | ok other =>
    simp only [hi, bind, Except.bind] at h
    cases h
    rfl

/-- An exact feed lists something for every file that differs. -/
theorem Exact.lists (h : invocation.Exact feed t v) :
    invocation.Lists feed t v := by
  intro root hr names bytes identity hi differs
  have other : bytesUnder? t root names ≠ bytesUnder? v root names := by
    intro same
    exact differs (by rw [← bytesUnder?_eq_some_iff, ← bytesUnder?_eq_some_iff, same])
  obtain ⟨kind, hf, hk⟩ := exists_fate other
  exact ⟨_, (h _).mpr ⟨root, hr, names, kind, hf, rfl⟩, hk, identityOf_of_identityAt? hi⟩

/-- What a listed change calls for has the identity of its path. -/
theorem exists_mem_of_listed {units : List BuildUnit} {change : FileChange}
    (h : feedUnits invocation.directories feed = .ok units) (hc : change ∈ feed)
    (hk : change.kind ≠ .unchanged) (hi : identityOf change.relativePath = .ok identity) :
    ∃ unit ∈ units, unit.identity = identity := by
  have read := h
  unfold feedUnits at read
  obtain ⟨found, hf, _⟩ := Except.map_eq_ok_iff.mp read
  obtain ⟨made, _, hu⟩ := forall₂_exists_left (Except.mapM_eq_ok_iff.mp hf).flip hc
  have calls : ∃ unit, made = some unit ∧ unit.identity = identity := by
    unfold feedUnit? at hu
    split at hu
    · cases hu
    next root index _ =>
      obtain ⟨other, ho, hu⟩ := Except.bind_eq_ok_iff.mp hu
      rw [hi] at ho
      cases ho
      cases kind : change.kind with
      | unchanged => exact absurd kind hk
      | removed =>
        rw [kind] at hu
        cases hu
        exact ⟨_, rfl, rfl⟩
      | added =>
        rw [kind] at hu
        cases hu
        exact ⟨_, rfl, rfl⟩
      | modified =>
        rw [kind] at hu
        cases hu
        exact ⟨_, rfl, rfl⟩
  obtain ⟨unit, rfl, he⟩ := calls
  exact ⟨unit, (mem_feedUnits_iff h).mpr ⟨change, hc, hu⟩, he⟩

/-- The first file of an identity about which nothing is listed is what it was. -/
theorem Lists.firstFile?_eq {units : List BuildUnit} (lists : invocation.Lists feed t v)
    (h : feedUnits invocation.directories feed = .ok units)
    (hu : ¬∃ unit ∈ units, unit.identity = identity) :
    invocation.firstFile? t identity = invocation.firstFile? v identity := by
  apply firstFile?_congr
  intro root hr names hi bytes
  by_contra differs
  obtain ⟨change, hc, hk, he⟩ := lists root hr names bytes identity hi differs
  exact hu (exists_mem_of_listed h hc hk he)

/-- What a run that builds on a previous one leaves: what it takes for the loose files that are
concerned, and everything else as a clean run leaves it. -/
structure Took (invocation : Invocation) (filter : TagFilter) (feed : List FileChange)
    (v : Workspace) (entries : Std.ExtTreeMap String ArchiveEntry) : Prop where
  concerned : ∀ identity, (invocation.archivedAt v)[identity]? = none →
    Concerned (listedUnits invocation.directories feed) (invocation.kept v).fingerprints identity →
    entries[identity]? = (taken? v invocation.directories
      (listedUnits invocation.directories feed) identity).map
        (invocation.settings.entryFor filter identity)
  others : ∀ identity, ((invocation.archivedAt v)[identity]? = none →
      ¬Concerned (listedUnits invocation.directories feed) (invocation.kept v).fingerprints
        identity) →
    entries[identity]?
      = (invocation.source? v identity).map (invocation.settings.entryFor filter identity)
  normal : ∀ identity, entries[identity]?.isSome = true → Identity.IsNormal identity

theorem LeftFrom.fingerprints_kept (h : invocation.LeftFrom filter t v) :
    (invocation.kept v).fingerprints = fingerprintsOf (invocation.archivedAt t) := by
  obtain ⟨entries, _, left⟩ := h
  exact left.fingerprints_kept

theorem loose_of_feedUnits {units : List BuildUnit}
    (h : feedUnits invocation.directories feed = .ok units) :
    ∀ unit ∈ units, Loose invocation.directories unit := by
  intro unit hu
  obtain ⟨change, _, hc⟩ := (mem_feedUnits_iff h).mp hu
  exact loose_of_feedUnit? hc

theorem isNormal_of_fingerprints
    (prints : (invocation.kept v).fingerprints = fingerprintsOf (invocation.archivedAt t))
    (hp : (invocation.kept v).fingerprints[identity]?.isSome = true) :
    Identity.IsNormal identity := by
  rw [prints, getElem?_fingerprintsOf, Option.isSome_map] at hp
  obtain ⟨held, hh⟩ := Option.isSome_iff_exists.mp hp
  exact isNormal_of_archivedAt hh

/-- What nothing listed concerns is brought up to date. -/
theorem built_of_not_concerned {archive : Option Archive} {assembly : Assembly}
    {units : List BuildUnit} (hl : feedUnits invocation.directories feed = .ok units)
    (prints : (invocation.kept v).fingerprints = fingerprintsOf (invocation.archivedAt t))
    (told : ToldApart (invocation.archivedAt t) (invocation.archivedAt v))
    (lists : invocation.Lists feed t v)
    (clean : invocation.Clean filter t (invocation.start archive).built)
    (updated : Updated (invocation.context filter) v (invocation.start archive)
      (invocation.work v (invocation.archivedAt v) (invocation.kept v).fingerprints units)
      assembly)
    (hc : (invocation.archivedAt v)[identity]? = none →
      ¬Concerned units (invocation.kept v).fingerprints identity) :
    assembly.built[identity]?
      = (invocation.source? v identity).map (invocation.settings.entryFor filter identity) := by
  cases hm : (invocation.archivedAt v)[identity]? with
  | some held =>
    have now : invocation.source? v identity = some held.content := by rw [source?, hm]
    by_cases hk : memberKind (invocation.kept v).fingerprints identity held = .unchanged
    · rw [built_of_unchanged updated hm hk, clean identity, now]
      rw [prints] at hk
      obtain ⟨before, hb, hash⟩ := eq_of_memberKind_eq_unchanged hk
      rw [source?, hb, ← told identity before held hb hm hash]
    · rw [built_of_changed updated hm hk, now]
      rfl
  | none =>
    have unconcerned := hc hm
    rw [built_of_unconcerned updated hm unconcerned, clean identity]
    obtain ⟨silent, unknown⟩ := not_or.mp unconcerned
    rw [prints, getElem?_fingerprintsOf, Option.isSome_map, Bool.not_eq_true,
      Option.isSome_eq_false_iff, Option.isNone_iff_eq_none] at unknown
    rw [source?, source?, hm, unknown]
    dsimp only
    rw [lists.firstFile?_eq hl silent]

/-- Tasks for what is listed and for members that have changed bring a clean output up to date,
except that they take listed files. -/
theorem took_of_updated {archive : Option Archive} {assembly : Assembly} {units : List BuildUnit}
    (apart : invocation.Apart)
    (hl : feedUnits invocation.directories feed = .ok units)
    (prints : (invocation.kept v).fingerprints = fingerprintsOf (invocation.archivedAt t))
    (told : ToldApart (invocation.archivedAt t) (invocation.archivedAt v))
    (lists : invocation.Lists feed t v)
    (clean : invocation.Clean filter t (invocation.start archive).built)
    (normal : ∀ unit ∈ invocation.work v (invocation.archivedAt v)
      (invocation.kept v).fingerprints units, Identity.IsNormal unit.identity)
    (updated : Updated (invocation.context filter) v (invocation.start archive)
      (invocation.work v (invocation.archivedAt v) (invocation.kept v).fingerprints units)
      assembly) : invocation.Took filter feed v assembly.built := by
  have loose := loose_of_feedUnits hl
  have others (identity : String) (hc : (invocation.archivedAt v)[identity]? = none →
      ¬Concerned units (invocation.kept v).fingerprints identity) :=
    built_of_not_concerned hl prints told lists clean updated hc
  refine ⟨?_, ?_, ?_⟩
  · intro identity hm hc
    rw [listedUnits_eq hl] at hc ⊢
    exact built_of_concerned updated apart normal loose (isNormal_of_fingerprints prints) hm hc
  · rw [listedUnits_eq hl]
    exact others
  · intro identity hs
    by_cases hc : (invocation.archivedAt v)[identity]? = none →
        ¬Concerned units (invocation.kept v).fingerprints identity
    · rw [others identity hc, Option.isSome_map] at hs
      obtain ⟨bytes, hb⟩ := Option.isSome_iff_exists.mp hs
      exact isNormal_of_source? hb
    · rw [Classical.not_imp, not_not] at hc
      rcases hc.2 with ⟨unit, hu, rfl⟩ | hp
      · exact (loose unit hu).normal
      · exact isNormal_of_fingerprints prints hp

/-- A run that builds on what a run has left takes what is listed and leaves everything else as a
clean run does. -/
theorem took_of_update (apart : invocation.Apart) (before : invocation.LeftFrom filter t v)
    (hf : invocation.checkedFilter = .ok filter)
    (h : Runs (invocation.withChanges (.listed feed)).run v report w)
    (partly : report.fullRebuild = false)
    (told : ToldApart (invocation.archivedAt t) (invocation.archivedAt v))
    (lists : invocation.Lists feed t v) :
    ∃ entries, invocation.Took filter feed v entries ∧
      invocation.Left filter (fingerprintsOf (invocation.archivedAt v)) entries w := by
  have prints := before.fingerprints_kept
  obtain ⟨entries, clean, left⟩ := before
  obtain ⟨filter', cache, u, detection, outcomes, s, count, x, last, hf', hp, hc, _, hu, hdet, ht,
    hw, hcommit⟩ := run_runs h
  have filters : filter = filter' := Except.ok.inj (hf.symm.trans hf')
  subst filters
  rw [partly] at hp hu hdet
  rw [if_neg (by decide)] at hu
  obtain ⟨rfl, rfl⟩ := hu
  obtain ⟨archive, ha⟩ := Option.isSome_iff_exists.mp (Option.isNone_eq_false_iff.mp hp.symm)
  obtain ⟨read, output⟩ := left.eq_of_ofFile (previous?_eq_some ha).2
  obtain ⟨units, hl, found, actions⟩ := detect_work hdet
  have feedUnits_ok : feedUnits invocation.directories feed = .ok units := hl
  rw [if_neg (by decide)] at actions
  rw [actions] at ht
  rw [ha] at hw
  rw [found] at hcommit
  have start : (invocation.start (some archive)).built = entries := by
    rw [read]
    exact Assembly.built_ofArchive clean.named _
  have normal : ∀ unit ∈ invocation.work u (invocation.archivedAt u)
      (invocation.kept u).fingerprints units, Identity.IsNormal unit.identity :=
    normal_work (loose_of_feedUnits feedUnits_ok) (fun _ _ => isNormal_of_archivedAt) fun _ =>
      isNormal_of_fingerprints prints
  have same : (invocation.withChanges (.listed feed)).start (some archive)
      = invocation.start (some archive) := rfl
  obtain ⟨assembly, updated, after⟩ := left_of_steps hc normal nodup_work (same ▸ start)
    (fun _ _ => ⟨output, left.fits⟩) ht hw hcommit
  rw [same] at updated
  exact ⟨assembly.built, took_of_updated apart feedUnits_ok prints told lists (start ▸ clean) normal
    updated, left_withChanges.mp after⟩

end Invocation

end MethodTrace
