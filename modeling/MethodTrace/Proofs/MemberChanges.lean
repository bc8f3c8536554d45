import MethodTrace.Run.Detection
import MethodTrace.Proofs.FileChanges
import MethodTrace.Proofs.Identities

/-!
The units that archives give to a run, and what has happened to them since the previous one.
-/

namespace MethodTrace

namespace Detection

variable {units : ArchivedUnits} {previous : Fingerprints} {unit : BuildUnit} {identity : String}

theorem isNormal_of_identityOf {path : String} (h : identityOf path = .ok identity) :
    Identity.IsNormal identity := by
  unfold identityOf at h
  split at h
  · cases h
  · split at h
    next hn =>
      cases h
      exact Identity.isNormal_of_normalize? hn
    · cases h

theorem isNormal_of_member {entry : ArchiveEntry} {found : ArchiveMember}
    (h : member entry = .ok found) : Identity.IsNormal found.identity := by
  unfold member at h
  obtain ⟨identity, hi, h⟩ := Except.bind_eq_ok_iff.mp h
  obtain ⟨content, _, h⟩ := Except.bind_eq_ok_iff.mp h
  cases h
  exact isNormal_of_identityOf hi

theorem isNormal_of_scan {w : Workspace} {path : String} {found : List ArchiveMember}
    (h : scan w path = .ok found) : ∀ member ∈ found, Identity.IsNormal member.identity := by
  unfold scan members at h
  obtain ⟨archive, _, h⟩ := Except.bind_eq_ok_iff.mp h
  intro member hm
  obtain ⟨entry, _, he⟩ := forall₂_exists_left (Except.mapM_eq_ok_iff.mp h) hm
  exact isNormal_of_member he

/-- What the members of an archive give for an identity: the first of them that has it. -/
def offered? (identity : String) (scanned : List ArchiveMember × Nat) : Option ArchivedUnit :=
  (scanned.1.find? (·.identity == identity)).map fun member => ⟨scanned.2, member.content⟩

/-- An archive gives what it has for an identity, unless that is taken. -/
theorem getElem?_claim (units : ArchivedUnits) (scanned : List ArchiveMember × Nat)
    (identity : String) :
    (claim units scanned)[identity]? = units[identity]?.or (offered? identity scanned) := by
  obtain ⟨members, index⟩ := scanned
  unfold claim offered?
  induction members generalizing units with
  | nil => simp
  | cons member members ih =>
    rw [List.foldl_cons, ih, Std.ExtTreeMap.getElem?_insertIfNew, List.find?_cons]
    by_cases he : member.identity = identity
    · subst he
      cases hu : units[member.identity]? with
      | none => simp [Std.ExtTreeMap.mem_iff_isSome_getElem?, hu]
      | some held => simp [Std.ExtTreeMap.mem_iff_isSome_getElem?, hu]
    · have other : compare member.identity identity ≠ .eq :=
        fun hc => he (Std.LawfulEqCmp.compare_eq_iff_eq.mp hc)
      rw [if_neg fun hc => other hc.1, beq_eq_false_iff_ne.mpr he]

/-- The first archive that has an identity gives it. -/
theorem getElem?_archivedUnits (scans : List (List ArchiveMember)) (identity : String) :
    (archivedUnits scans)[identity]? = scans.zipIdx.findSome? (offered? identity) := by
  have fold (list : List (List ArchiveMember × Nat)) (units : ArchivedUnits) :
      (list.foldl claim units)[identity]?
        = units[identity]?.or (list.findSome? (offered? identity)) := by
    induction list generalizing units with
    | nil => simp
    | cons scanned list ih =>
      rw [List.foldl_cons, ih, getElem?_claim, List.findSome?_cons]
      cases units[identity]? with
      | some held => rfl
      | none => cases offered? identity scanned <;> rfl
  rw [archivedUnits, fold]
  simp

/-- What archives give is the content of a member of one of them. -/
theorem exists_member_of_archivedUnits {scans : List (List ArchiveMember)} {held : ArchivedUnit}
    (h : (archivedUnits scans)[identity]? = some held) : ∃ found ∈ scans, ∃ member ∈ found,
      member.identity = identity ∧ member.content = held.content := by
  rw [getElem?_archivedUnits] at h
  obtain ⟨scanned, hs, h⟩ := List.exists_of_findSome?_eq_some h
  obtain ⟨member, hm, rfl⟩ := Option.map_eq_some_iff.mp h
  exact ⟨scanned.1, List.fst_mem_of_mem_zipIdx hs, member, List.mem_of_find?_eq_some hm,
    by simpa using List.find?_some hm, rfl⟩

theorem isNormal_of_scans {w : Workspace} {archives : List String}
    {scans : List (List ArchiveMember)} {held : ArchivedUnit}
    (hs : archives.mapM (scan w) = .ok scans) (hu : (archivedUnits scans)[identity]? = some held) :
    Identity.IsNormal identity := by
  obtain ⟨found, hf, member, hm, rfl, _⟩ := exists_member_of_archivedUnits hu
  obtain ⟨path, _, hp⟩ := forall₂_exists_left (Except.mapM_eq_ok_iff.mp hs) hf
  exact isNormal_of_scan hp member hm

theorem getElem?_fingerprintsOf (units : ArchivedUnits) (identity : String) :
    (fingerprintsOf units)[identity]?
      = units[identity]?.map fun held => ContentHash.ofBytes held.content := by
  rw [fingerprintsOf, Std.ExtTreeMap.getElem?_map]

/-- What has happened to a unit that archives give. -/
def memberKind (previous : Fingerprints) (identity : String) (held : ArchivedUnit) : ChangeKind :=
  previous.kindOf identity (ContentHash.ofBytes held.content)

theorem mem_ofKind_iff {kind : ChangeKind} :
    identity ∈ (fingerprintsOf units).ofKind previous kind ↔
      ∃ held, units[identity]? = some held ∧ memberKind previous identity held = kind := by
  simp only [Fingerprints.ofKind, List.mem_map, List.mem_filter, Prod.exists]
  constructor
  · rintro ⟨key, hash, ⟨hm, hk⟩, rfl⟩
    have hf := Std.ExtTreeMap.mem_toList_iff_getElem?_eq_some.mp hm
    rw [getElem?_fingerprintsOf] at hf
    obtain ⟨held, hu, rfl⟩ := Option.map_eq_some_iff.mp hf
    exact ⟨held, hu, by simpa [memberKind] using hk⟩
  · rintro ⟨held, hu, hk⟩
    refine ⟨identity, ContentHash.ofBytes held.content, ⟨?_, by simpa [memberKind] using hk⟩, rfl⟩
    rw [Std.ExtTreeMap.mem_toList_iff_getElem?_eq_some, getElem?_fingerprintsOf, hu]
    rfl

/-- The unit of a member, with its content if that is to be written. -/
def memberUnit (identity : String) (held : ArchivedUnit) (kind : ChangeKind) : BuildUnit :=
  ⟨identity, .archive held.archive, kind, if kind.needsWrite then .bytes held.content else .absent⟩

theorem archiveUnit?_eq_some_iff {kind : ChangeKind} :
    archiveUnit? units kind identity = some unit ↔
      ∃ held, units[identity]? = some held ∧ memberUnit identity held kind = unit := by
  have mapped : archiveUnit? units kind identity
      = units[identity]?.map fun held => memberUnit identity held kind := by
    unfold archiveUnit?
    cases units[identity]? with
    | none => rfl
    | some held => rfl
  rw [mapped, Option.map_eq_some_iff]

theorem mem_filterMap_archiveUnit? {kind : ChangeKind} :
    unit ∈ ((fingerprintsOf units).ofKind previous kind).filterMap (archiveUnit? units kind) ↔
      ∃ identity held, units[identity]? = some held ∧ memberKind previous identity held = kind ∧
        memberUnit identity held kind = unit := by
  simp only [List.mem_filterMap, mem_ofKind_iff, archiveUnit?_eq_some_iff]
  constructor
  · rintro ⟨identity, ⟨held, hu, hk⟩, other, ho, rfl⟩
    rw [hu] at ho
    cases ho
    exact ⟨identity, held, hu, hk, rfl⟩
  · rintro ⟨identity, held, hu, hk, rfl⟩
    exact ⟨identity, ⟨held, hu, hk⟩, held, hu, rfl⟩

/-- The changes of the members of archives since the run of some fingerprints. -/
def memberChanges (units : ArchivedUnits) (previous : Fingerprints) : ChangeSet :=
  archiveChanges units ((fingerprintsOf units).changesSince previous)

theorem mem_removed_iff :
    unit ∈ (memberChanges units previous).removed ↔ ∃ identity,
      previous[identity]?.isSome = true ∧ units[identity]? = none ∧
        unit = ⟨identity, .previous, .removed, .absent⟩ := by
  simp only [memberChanges, archiveChanges, Fingerprints.changesSince, List.mem_map,
    List.mem_filter, Std.ExtTreeMap.mem_keys, Bool.not_eq_true',
    Std.ExtTreeMap.contains_eq_isSome_getElem?, getElem?_fingerprintsOf, Option.isSome_map,
    Option.isSome_eq_false_iff, Option.isNone_iff_eq_none]
  constructor
  · rintro ⟨identity, ⟨hp, hu⟩, rfl⟩
    refine ⟨identity, ?_, hu, rfl⟩
    rwa [← Std.ExtTreeMap.contains_eq_isSome_getElem?, Std.ExtTreeMap.contains_iff_mem]
  · rintro ⟨identity, hp, hu, rfl⟩
    refine ⟨identity, ⟨?_, hu⟩, rfl⟩
    rwa [← Std.ExtTreeMap.contains_eq_isSome_getElem?, Std.ExtTreeMap.contains_iff_mem] at hp

theorem nodup_ofKind (current : Fingerprints) (kind : ChangeKind) :
    (current.ofKind previous kind).Nodup := by
  have keys : current.keys.Nodup := Std.ExtTreeMap.nodup_keys
  rw [← Std.ExtTreeMap.map_fst_toList_eq_keys] at keys
  exact keys.sublist (List.filter_sublist.map _)

theorem nodup_filterMap_archiveUnit? {kind : ChangeKind} {identities : List String}
    (h : identities.Nodup) :
    ((identities.filterMap (archiveUnit? units kind)).map (·.identity)).Nodup := by
  refine h.sublist ?_
  induction identities with
  | nil => simp
  | cons identity identities ih =>
    rw [List.nodup_cons] at h
    rw [List.filterMap_cons]
    split
    next => exact (ih h.2).cons _
    next unit hu =>
      obtain ⟨held, _, rfl⟩ := archiveUnit?_eq_some_iff.mp hu
      exact (ih h.2).cons_cons _

theorem mem_added_iff :
    unit ∈ (memberChanges units previous).added ↔ ∃ identity held, units[identity]? = some held ∧
      memberKind previous identity held = .added ∧ memberUnit identity held .added = unit :=
  mem_filterMap_archiveUnit?

theorem mem_modified_iff :
    unit ∈ (memberChanges units previous).modified ↔ ∃ identity held,
      units[identity]? = some held ∧ memberKind previous identity held = .modified ∧
        memberUnit identity held .modified = unit :=
  mem_filterMap_archiveUnit?

theorem memberKind_ne_removed (previous : Fingerprints) (identity : String) (held : ArchivedUnit) :
    memberKind previous identity held ≠ .removed := by
  unfold memberKind Fingerprints.kindOf
  split
  · decide
  · split
    · decide
    · decide

/-- A member that has changed is to be written. -/
theorem exists_memberUnit_of_changed {held : ArchivedUnit} (hh : units[identity]? = some held)
    (hk : memberKind previous identity held ≠ .unchanged) :
    ∃ kind : ChangeKind, kind.needsWrite = true ∧
      (memberUnit identity held kind ∈ (memberChanges units previous).added ∨
        memberUnit identity held kind ∈ (memberChanges units previous).modified) := by
  cases kind : memberKind previous identity held with
  | added => exact ⟨.added, rfl, .inl (mem_added_iff.mpr ⟨identity, held, hh, kind, rfl⟩)⟩
  | modified => exact ⟨.modified, rfl, .inr (mem_modified_iff.mpr ⟨identity, held, hh, kind, rfl⟩)⟩
  | removed => exact absurd kind (memberKind_ne_removed _ _ _)
  | unchanged => exact absurd kind hk

/-- What is unchanged since some units has the fingerprint of one of them. -/
theorem eq_of_memberKind_eq_unchanged {old : ArchivedUnits} {now : ArchivedUnit}
    (h : memberKind (fingerprintsOf old) identity now = .unchanged) :
    ∃ held, old[identity]? = some held ∧
      ContentHash.ofBytes held.content = ContentHash.ofBytes now.content := by
  unfold memberKind Fingerprints.kindOf at h
  rw [getElem?_fingerprintsOf] at h
  cases ho : old[identity]? with
  | none =>
    rw [ho] at h
    cases h
  | some held =>
    rw [ho] at h
    dsimp only [Option.map_some] at h
    split at h
    next he => exact ⟨held, rfl, he⟩
    next => cases h

/-- No member has two units for which something is to be done. -/
theorem nodup_actionable_memberChanges :
    ((memberChanges units previous).actionable.map (·.identity)).Nodup := by
  have removed : ((memberChanges units previous).removed.map (·.identity)).Nodup := by
    simp only [memberChanges, archiveChanges, List.map_map]
    have same : (fun identity => (⟨identity, .previous, .removed, .absent⟩ : BuildUnit).identity)
        = (id : String → String) := rfl
    rw [Function.comp_def, same, List.map_id]
    exact Std.ExtTreeMap.nodup_keys.sublist List.filter_sublist
  unfold ChangeSet.actionable
  rw [List.map_append, List.map_append, List.nodup_append, List.nodup_append]
  refine ⟨⟨nodup_filterMap_archiveUnit? (nodup_ofKind _ _),
    nodup_filterMap_archiveUnit? (nodup_ofKind _ _), ?_⟩, removed, ?_⟩
  · intro identity ha other hm he
    obtain ⟨_, hu, rfl⟩ := List.mem_map.mp ha
    obtain ⟨_, hv, rfl⟩ := List.mem_map.mp hm
    obtain ⟨_, held, hh, hk, rfl⟩ := mem_added_iff.mp hu
    obtain ⟨_, held', hh', hk', rfl⟩ := mem_modified_iff.mp hv
    cases he
    rw [hh] at hh'
    cases hh'
    rw [hk] at hk'
    cases hk'
  · intro identity hc other hr he
    obtain ⟨_, hv, rfl⟩ := List.mem_map.mp hr
    obtain ⟨_, _, hn, rfl⟩ := mem_removed_iff.mp hv
    cases he
    rcases List.mem_append.mp hc with hc | hc
    · obtain ⟨_, hu, he⟩ := List.mem_map.mp hc
      obtain ⟨_, held, hh, _, rfl⟩ := mem_added_iff.mp hu
      cases he
      rw [hn] at hh
      cases hh
    · obtain ⟨_, hu, he⟩ := List.mem_map.mp hc
      obtain ⟨_, held, hh, _, rfl⟩ := mem_modified_iff.mp hu
      cases he
      rw [hn] at hh
      cases hh

theorem removed_memberChanges_empty : (memberChanges units ∅).removed = [] := by
  rw [List.eq_nil_iff_forall_not_mem]
  intro unit hu
  obtain ⟨_, hp, _⟩ := mem_removed_iff.mp hu
  simp at hp

theorem modified_memberChanges_empty : (memberChanges units ∅).modified = [] := by
  rw [List.eq_nil_iff_forall_not_mem]
  intro unit hu
  obtain ⟨identity, held, _, hk, _⟩ := mem_modified_iff.mp hu
  have : (∅ : Fingerprints)[identity]? = none := by simp
  rw [memberKind, Fingerprints.kindOf, this] at hk
  cases hk

theorem withLoose_nil (changes : ChangeSet) : withLoose changes [] = changes := by
  simp [withLoose, mentions]

theorem withUncovered_nil (w : Workspace) (changes : ChangeSet) :
    withUncovered w [] changes = changes := by
  have none (unit : BuildUnit) : uncoveredUnit? w [] unit = none := by
    simp [uncoveredUnit?, uncovered?]
  simp [withUncovered, none]

end Detection

variable {w : Workspace} {invocation : Invocation} {cache : Cache} {full : Bool}
  {detection : Detection}

/-- What is detected is made of the members of the archives and the loose units. -/
theorem detect_eq_ok (h : detect w invocation cache full = .ok detection) :
    ∃ scans loose, invocation.archives.mapM (Detection.scan w) = .ok scans ∧
      Detection.looseUnits w invocation full = .ok loose ∧
      detection.fingerprints = Detection.fingerprintsOf (Detection.archivedUnits scans) ∧
      detection.changes = Detection.withUncovered w invocation.directories
        (Detection.withLoose
          (Detection.memberChanges (Detection.archivedUnits scans)
            (if full then ∅ else cache.fingerprints))
          (Detection.firstOfEach
            (.ofList (Detection.fingerprintsOf (Detection.archivedUnits scans)).keys) loose)) := by
  unfold detect at h
  obtain ⟨scans, hs, h⟩ := Except.bind_eq_ok_iff.mp h
  obtain ⟨loose, hl, h⟩ := Except.bind_eq_ok_iff.mp h
  cases h
  exact ⟨scans, loose, hs, hl, rfl, rfl⟩

/-- Without archives only loose units count, if no archive had any members before. -/
theorem detect_of_no_archives {units : List BuildUnit} (ha : invocation.archives = [])
    (hp : full = true ∨ cache.fingerprints = ∅)
    (hl : Detection.looseUnits w invocation full = .ok units) :
    detect w invocation cache full
      = .ok ⟨Detection.withUncovered w invocation.directories
          (Detection.withLoose {} (Detection.firstOfEach ∅ units)), ∅⟩ := by
  have previous : (if full then ∅ else cache.fingerprints) = ∅ := by
    rcases hp with rfl | hp
    · rfl
    · rw [hp, ite_self]
  unfold detect
  rw [hl, ha]
  dsimp only [bind, Except.bind, List.mapM_nil, pure, Except.pure]
  rw [previous]
  rfl

end MethodTrace
