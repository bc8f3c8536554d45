import MethodTrace.Proofs.ConfinedUnits
import MethodTrace.Proofs.SharedIdentities

/-!
The units of a run sorted by what happened to them.

A run reads its inputs in order: archives first, then directories. An identity belongs to the first
input that has it, and each identity is sorted into one list, whatever inputs, listed changes and
the previous run say about it.
-/

namespace MethodTrace

theorem exists_getElem?_of_findSome?_eq_some {α β : Type} {f : α → Option β} {xs : List α} {b : β}
    (h : xs.findSome? f = some b) : ∃ (index : Nat) (x : α), xs[index]? = some x ∧ f x = some b ∧
      ∀ earlier < index, ∀ y, xs[earlier]? = some y → f y = none := by
  obtain ⟨before, x, after, rfl, hx, nothing⟩ := List.findSome?_eq_some_iff.mp h
  refine ⟨before.length, x, by simp, hx, fun earlier lt y hy => nothing y ?_⟩
  rw [List.getElem?_append_left lt] at hy
  exact List.mem_of_getElem? hy

theorem exists_getElem?_of_forall₂ {α β : Type} {R : α → β → Prop} {xs : List α} {ys : List β}
    (h : List.Forall₂ R xs ys) {index : Nat} {x : α} (hx : xs[index]? = some x) :
    ∃ y, ys[index]? = some y ∧ R x y := by
  induction h generalizing index with
  | nil => simp at hx
  | @cons first other xs ys hr _ ih =>
    cases index with
    | zero =>
      obtain rfl : first = x := by simpa using hx
      exact ⟨other, rfl, hr⟩
    | succ index => exact ih (by simpa using hx)

/-- The order of inputs. -/
def Origin.Before : Origin → Origin → Prop
  | .archive index, .archive other => index < other
  | .archive _, .directory _ => True
  | .directory index, .directory other => index < other
  | _, _ => False

namespace Invocation

open Detection

variable {invocation : Invocation} {w : Workspace} {identity : String} {index : Nat}

/-- The content of the first member of an identity in an input archive. -/
def memberAt? (invocation : Invocation) (w : Workspace) (index : Nat) (identity : String) :
    Option Bytes := do
  let path ← invocation.archives[index]?
  let members ← (scan w path).toOption
  let member ← members.find? (·.identity == identity)
  return member.content

/-- An input has an identity: an archive in a member of it, a directory in a file below it. -/
def Has (invocation : Invocation) (w : Workspace) (identity : String) : Origin → Prop
  | .archive index => (invocation.memberAt? w index identity).isSome = true
  | .directory index => ∃ root, invocation.directories[index]? = some root ∧
    ∃ file ∈ w.filesUnder root, identityAt? root file.1 = some identity
  | .previous => False

/-- An input is the first one that has an identity. -/
structure ComesFrom (invocation : Invocation) (w : Workspace) (identity : String)
    (origin : Origin) : Prop where
  has : invocation.Has w identity origin
  first : ∀ other, other.Before origin → ¬invocation.Has w identity other

variable {scans : List (List ArchiveMember)} {members : ArchivedUnits} {held : ArchivedUnit}

theorem memberAt?_eq (hs : invocation.archives.mapM (scan w) = .ok scans) (index : Nat)
    (identity : String) : invocation.memberAt? w index identity
      = scans[index]?.bind fun found =>
          (found.find? (·.identity == identity)).map (·.content) := by
  have each := Except.mapM_eq_ok_iff.mp hs
  unfold memberAt?
  cases hp : invocation.archives[index]? with
  | none =>
    have past : scans[index]? = none := by
      rw [List.getElem?_eq_none_iff] at hp ⊢
      rwa [← each.length_eq]
    rw [past]
    rfl
  | some path =>
    obtain ⟨found, hf, read⟩ := exists_getElem?_of_forall₂ each hp
    simp only [bind, Option.bind, read, hf, Except.toOption]
    cases found.find? (·.identity == identity) <;> rfl

/-- What archives give for an identity is the member of the first archive that has it. -/
theorem memberAt?_of_archived (hs : invocation.archives.mapM (scan w) = .ok scans)
    (h : (archivedUnits scans)[identity]? = some held) :
    invocation.memberAt? w held.archive identity = some held.content ∧
      ∀ earlier < held.archive, invocation.memberAt? w earlier identity = none := by
  rw [getElem?_archivedUnits] at h
  obtain ⟨index, scanned, hx, offers, nothing⟩ := exists_getElem?_of_findSome?_eq_some h
  rw [List.getElem?_zipIdx, Nat.zero_add] at hx
  obtain ⟨found, hf, rfl⟩ := Option.map_eq_some_iff.mp hx
  obtain ⟨member, hm, rfl⟩ := Option.map_eq_some_iff.mp offers
  dsimp only at hm ⊢
  refine ⟨by rw [memberAt?_eq hs, hf, Option.bind_some, hm]; rfl, fun earlier lt => ?_⟩
  rw [memberAt?_eq hs]
  cases he : scans[earlier]? with
  | none => rfl
  | some other =>
    have offers := nothing earlier lt (other, earlier) (by simp [he])
    rw [offered?, Option.map_eq_none_iff] at offers
    rw [Option.bind_some, offers]
    rfl

theorem exists_archived (hs : invocation.archives.mapM (scan w) = .ok scans)
    (h : invocation.Has w identity (.archive index)) :
    ∃ held, (archivedUnits scans)[identity]? = some held := by
  rw [← Option.isSome_iff_exists, getElem?_archivedUnits, List.findSome?_isSome_iff]
  change (invocation.memberAt? w index identity).isSome = true at h
  rw [memberAt?_eq hs, Option.isSome_bind, Option.any_eq_true] at h
  obtain ⟨found, hf, h⟩ := h
  refine ⟨(found, index), List.mem_of_getElem? (i := index) (by simp [hf]), ?_⟩
  simpa [offered?] using h

/-- The unit that archives give for an identity comes from the first input that has it. -/
theorem comesFrom_of_archived (hs : invocation.archives.mapM (scan w) = .ok scans)
    (h : (archivedUnits scans)[identity]? = some held) :
    invocation.ComesFrom w identity (.archive held.archive) := by
  obtain ⟨here, nothing⟩ := memberAt?_of_archived hs h
  refine ⟨show (invocation.memberAt? w held.archive identity).isSome = true by rw [here]; rfl, ?_⟩
  intro other before has
  cases other with
  | archive earlier =>
    change (invocation.memberAt? w earlier identity).isSome = true at has
    rw [nothing earlier before] at has
    cases has
  | directory => exact before
  | previous => exact before

/-- The fingerprints of members are those of the first archives that have them. -/
theorem fingerprint_iff (hs : invocation.archives.mapM (scan w) = .ok scans) {hash : ContentHash} :
    (fingerprintsOf (archivedUnits scans))[identity]? = some hash ↔
      ∃ index content, invocation.ComesFrom w identity (.archive index) ∧
        invocation.memberAt? w index identity = some content ∧ hash = ContentHash.ofBytes content := by
  rw [getElem?_fingerprintsOf]
  constructor
  · intro h
    obtain ⟨held, hh, rfl⟩ := Option.map_eq_some_iff.mp h
    exact ⟨held.archive, held.content, comesFrom_of_archived hs hh, (memberAt?_of_archived hs hh).1,
      rfl⟩
  · rintro ⟨index, content, comes, here, rfl⟩
    obtain ⟨held, hh⟩ := exists_archived hs comes.has
    obtain ⟨there, nothing⟩ := memberAt?_of_archived hs hh
    have same : held.archive = index := by
      rcases Nat.lt_trichotomy held.archive index with less | same | more
      · exact absurd (comesFrom_of_archived hs hh).has (comes.first _ less)
      · exact same
      · rw [nothing index more] at here
        cases here
    rw [same, here] at there
    rw [hh, Option.map_some, Option.some.inj there]

theorem not_has_archive (hs : invocation.archives.mapM (scan w) = .ok scans)
    (h : (archivedUnits scans)[identity]? = none) (index : Nat) :
    ¬invocation.Has w identity (.archive index) := by
  intro has
  obtain ⟨held, hh⟩ := exists_archived hs has
  rw [h] at hh
  cases hh

section Walks

variable {units list : List BuildUnit} {unit : BuildUnit} {root : String}

theorem origin_of_fileUnit {names : List String} (h : fileUnit root index names = .ok unit) :
    unit.origin = .directory index := by
  obtain ⟨_, _, h⟩ := Except.bind_eq_ok_iff.mp h
  cases h
  rfl

theorem forall₂_rootUnits (h : rootUnits w root index = .ok list) :
    List.Forall₂ (fun file unit => fileUnit root index file.1 = .ok unit) (w.filesUnder root)
      list := by
  rw [rootUnits_eq] at h
  exact Except.mapM_eq_ok_iff.mp h

/-- The units of a walk are those of the input directories, one after another. -/
theorem exists_lists_of_walked (h : walkedUnits w invocation.directories = .ok units) :
    ∃ lists : List (List BuildUnit), units = lists.flatten ∧
      (∀ (index : Nat) list, lists[index]? = some list → ∃ root,
        invocation.directories[index]? = some root ∧ rootUnits w root index = .ok list) ∧
      ∀ (index : Nat) root, invocation.directories[index]? = some root → ∃ list,
        lists[index]? = some list ∧ rootUnits w root index = .ok list := by
  obtain ⟨lists, hl, rfl⟩ := Except.map_eq_ok_iff.mp h
  have each := Except.mapM_eq_ok_iff.mp hl
  refine ⟨lists, rfl, fun index list hx => ?_, fun index root hr => ?_⟩
  · obtain ⟨place, hp, found⟩ := exists_getElem?_of_forall₂ each.flip hx
    rw [List.getElem?_zipIdx, Nat.zero_add] at hp
    obtain ⟨root, hr, rfl⟩ := Option.map_eq_some_iff.mp hp
    exact ⟨root, hr, found⟩
  · have place : invocation.directories.zipIdx[index]? = some (root, index) := by simp [hr]
    obtain ⟨list, hx, found⟩ := exists_getElem?_of_forall₂ each place
    exact ⟨list, hx, found⟩

theorem exists_mem_of_has (h : rootUnits w root index = .ok list) {file : List String × Bytes}
    (hf : file ∈ w.filesUnder root) (hi : identityAt? root file.1 = some identity) :
    ∃ unit ∈ list, unit.identity = identity := by
  obtain ⟨unit, hu, made⟩ := forall₂_exists_left (forall₂_rootUnits h).flip hf
  have same := (fileUnit_eq_ok made).1
  rw [hi] at same
  exact ⟨unit, hu, (Option.some.inj same).symm⟩

theorem exists_mem_walked (h : walkedUnits w invocation.directories = .ok units)
    (has : invocation.Has w identity (.directory index)) :
    ∃ unit ∈ units, unit.identity = identity := by
  obtain ⟨lists, rfl, _, there⟩ := exists_lists_of_walked h
  obtain ⟨root, hr, file, hf, hi⟩ := has
  obtain ⟨list, hx, found⟩ := there index root hr
  obtain ⟨unit, hu, he⟩ := exists_mem_of_has found hf hi
  exact ⟨unit, List.mem_flatten.mpr ⟨list, List.mem_of_getElem? hx, hu⟩, he⟩

/-- The first unit of a walk for an identity comes from the first directory that has it. -/
theorem comesFrom_of_walked (h : walkedUnits w invocation.directories = .ok units)
    (absent : ∀ index, ¬invocation.Has w identity (.archive index))
    (hf : units.find? (·.identity == identity) = some unit) :
    invocation.ComesFrom w identity unit.origin := by
  obtain ⟨lists, rfl, here, there⟩ := exists_lists_of_walked h
  rw [List.find?_flatten] at hf
  obtain ⟨index, list, hx, found, nothing⟩ := exists_getElem?_of_findSome?_eq_some hf
  obtain ⟨root, hr, made⟩ := here index list hx
  obtain ⟨file, hm, hu⟩ := forall₂_exists_left (forall₂_rootUnits made)
    (List.mem_of_find?_eq_some found)
  have he : unit.identity = identity := by simpa using List.find?_some found
  rw [origin_of_fileUnit hu]
  refine ⟨⟨root, hr, file, hm, he ▸ (fileUnit_eq_ok hu).1⟩, ?_⟩
  intro other before has
  cases other with
  | archive earlier => exact absent earlier has
  | directory earlier =>
    obtain ⟨otherRoot, ho, otherFile, hof, hoi⟩ := has
    obtain ⟨otherList, hol, otherMade⟩ := there earlier otherRoot ho
    obtain ⟨first, hfirst, same⟩ := exists_mem_of_has otherMade hof hoi
    have none := List.find?_eq_none.mp (nothing earlier before otherList hol) first hfirst
    simp [same] at none
  | previous => exact has

theorem kind_of_mem_walked (h : walkedUnits w invocation.directories = .ok units)
    (hu : unit ∈ units) : unit.kind = .added := by
  obtain ⟨lists, rfl, here, _⟩ := exists_lists_of_walked h
  obtain ⟨list, hm, hu⟩ := List.mem_flatten.mp hu
  obtain ⟨index, hx⟩ := List.mem_iff_getElem?.mp hm
  obtain ⟨root, _, made⟩ := here index list hx
  obtain ⟨file, _, found⟩ := forall₂_exists_left (forall₂_rootUnits made) hu
  exact (fileUnit_eq_ok found).2.2.1

end Walks

end Invocation

namespace Detection

variable {w : Workspace} {directories : List String} {members : ArchivedUnits}
  {previous : Fingerprints} {loose : List BuildUnit} {unit : BuildUnit} {identity : String}
  {held : ArchivedUnit}

theorem kind_of_mem_memberChanges {kind : ChangeKind}
    (h : unit ∈ (memberChanges members previous).ofKind kind) : unit.kind = kind := by
  cases kind with
  | added =>
    obtain ⟨_, _, _, _, rfl⟩ := mem_added_iff.mp h
    rfl
  | modified =>
    obtain ⟨_, _, _, _, rfl⟩ := mem_modified_iff.mp h
    rfl
  | removed =>
    obtain ⟨_, _, _, rfl⟩ := mem_removed_iff.mp h
    rfl
  | unchanged =>
    obtain ⟨_, _, _, _, rfl⟩ := mem_filterMap_archiveUnit?.mp h
    rfl

/-- Every list has the units of its kind. -/
theorem kind_of_mem_sorted {kind : ChangeKind}
    (h : unit ∈ (sorted w directories members previous loose).ofKind kind) : unit.kind = kind := by
  have filed {kind : ChangeKind}
      (h : unit ∈ (withLoose (memberChanges members previous) loose).ofKind kind) :
      unit.kind = kind := by
    rw [ofKind_withLoose, List.mem_append] at h
    rcases h with h | h
    · have kept : unit ∈ (memberChanges members previous).ofKind kind := by
        cases kind with
        | removed => exact List.mem_of_mem_filter h
        | _ => exact h
      exact kind_of_mem_memberChanges kept
    · simpa using (List.mem_filter.mp h).2
  cases kind with
  | added => exact @filed .added h
  | modified =>
    rcases List.mem_append.mp h with h | h
    · exact @filed .modified h
    · obtain ⟨other, _, hu⟩ := List.mem_filterMap.mp h
      exact (uncoveredUnit?_eq_some hu).2.1
  | removed => exact @filed .removed (List.mem_of_mem_filter h)
  | unchanged => exact @filed .unchanged h

/-- No identity is sorted twice. -/
theorem nodup_sorted (distinct : (loose.map (·.identity)).Nodup)
    (changed : ∀ unit ∈ loose, unit.kind ≠ .unchanged)
    (apart : ∀ unit ∈ loose, members[unit.identity]? = none) :
    ((sorted w directories members previous loose).units.map (·.identity)).Nodup := by
  have lists : (sorted w directories members previous loose).units
      = plan w directories members previous loose ++ (memberChanges members previous).unchanged :=
    congrArg (_ ++ ·) (unchanged_sorted changed)
  rw [lists, List.map_append, List.nodup_append]
  refine ⟨nodup_plan distinct apart, nodup_filterMap_archiveUnit? (nodup_ofKind _ _), ?_⟩
  intro identity hi other ho he
  obtain ⟨unit, hp, rfl⟩ := List.mem_map.mp hi
  obtain ⟨found, hf, rfl⟩ := List.mem_map.mp ho
  obtain ⟨_, held, hh, hk, rfl⟩ := mem_filterMap_archiveUnit?.mp hf
  dsimp only [memberUnit] at he
  subst he
  rcases changed_of_mem_plan apart hp with ⟨now, hn, differs⟩ | ⟨hn, _⟩
  · rw [hh] at hn
    cases hn
    exact differs hk
  · rw [hh] at hn
    cases hn

/-- A member is sorted by what has happened to it. -/
theorem memberUnit_mem_sorted (changed : ∀ unit ∈ loose, unit.kind ≠ .unchanged)
    (hm : members[identity]? = some held) :
    memberUnit identity held (memberKind previous identity held)
      ∈ (sorted w directories members previous loose).units := by
  rw [ChangeSet.mem_units_iff]
  cases hk : memberKind previous identity held with
  | added =>
    exact .inl (mem_plan_iff.mpr (.inl (mem_added_iff.mpr ⟨identity, held, hm, hk, rfl⟩)))
  | modified =>
    exact .inl (mem_plan_iff.mpr (.inr (.inl (mem_modified_iff.mpr ⟨identity, held, hm, hk, rfl⟩))))
  | removed => exact absurd hk (memberKind_ne_removed _ _ _)
  | unchanged => exact .inr ((mem_unchanged changed).mpr ⟨identity, held, hm, hk, rfl⟩)

/-- What is removed is neither a member nor a loose file. -/
theorem absent_of_mem_removed (apart : ∀ unit ∈ loose, members[unit.identity]? = none)
    (h : unit ∈ (sorted w directories members previous loose).removed) :
    members[unit.identity]? = none ∧ uncovered? w directories unit.identity = none := by
  obtain ⟨hg, hu⟩ := List.mem_filter.mp h
  refine ⟨?_, uncoveredUnit?_eq_none (Option.isNone_iff_eq_none.mp hu)⟩
  have lost : unit ∈ gone (memberChanges members previous) loose := by
    have lists : (withLoose (memberChanges members previous) loose).removed
        = gone (memberChanges members previous) loose := ofKind_withLoose _ _ .removed
    rwa [← lists]
  rcases mem_gone_iff.mp lost with ⟨hr, _⟩ | ⟨hl, _⟩
  · obtain ⟨_, _, hn, rfl⟩ := mem_removed_iff.mp hr
    exact hn
  · exact apart unit hl

theorem uncovered?_eq_none_iff : uncovered? w directories identity = none ↔
    ∀ root ∈ directories, w.isFile (Path.descend root identity) = false := by
  unfold uncovered?
  rw [List.findSome?_eq_none_iff]
  constructor
  · intro h root hr
    obtain ⟨index, hi⟩ := List.mem_iff_getElem?.mp hr
    have nothing := h (root, index) (List.mem_zipIdx_iff_getElem?.mpr hi)
    simpa using nothing
  · rintro h ⟨root, index⟩ hm
    simp [h root (List.fst_mem_of_mem_zipIdx hm)]

/-- Without a previous run everything is new. -/
theorem mem_sorted_empty (added : ∀ unit ∈ loose, unit.kind = .added) :
    unit ∈ (sorted w directories members ∅ loose).units ↔
      (∃ identity held, members[identity]? = some held ∧ memberUnit identity held .added = unit) ∨
        unit ∈ loose := by
  have changed : ∀ unit ∈ loose, unit.kind ≠ .unchanged := fun unit hu => by simp [added unit hu]
  have settled (other : BuildUnit) : settle (memberChanges members ∅) other = other := by
    simp [settle, removed_memberChanges_empty, mentions]
  constructor
  · intro h
    rcases ChangeSet.mem_units_iff.mp h with h | h
    · rcases mem_plan_iff.mp h with ha | hm | ⟨other, ho, _, rfl⟩ | ⟨other, hg, _⟩ | ⟨hg, _⟩
      · obtain ⟨identity, held, hh, _, he⟩ := mem_added_iff.mp ha
        exact .inl ⟨identity, held, hh, he⟩
      · simp [modified_memberChanges_empty] at hm
      · exact .inr ((settled other).symm ▸ ho)
      · rcases mem_gone_iff.mp hg with ⟨hr, _⟩ | ⟨hl, hk⟩
        · simp [removed_memberChanges_empty] at hr
        · simp [added other hl] at hk
      · rcases mem_gone_iff.mp hg with ⟨hr, _⟩ | ⟨hl, hk⟩
        · simp [removed_memberChanges_empty] at hr
        · simp [added unit hl] at hk
    · obtain ⟨identity, held, _, hk, _⟩ := (mem_unchanged changed).mp h
      simp [Invocation.memberKind_empty] at hk
  · rintro (⟨identity, held, hh, rfl⟩ | hl)
    · have there := @memberUnit_mem_sorted w directories members ∅ loose identity held changed hh
      rwa [Invocation.memberKind_empty] at there
    · refine ChangeSet.mem_units_iff.mpr (.inl (mem_plan_iff.mpr (.inr (.inr (.inl ⟨unit, hl, ?_,
        settled unit⟩)))))
      rw [added unit hl]
      rfl

/-- The units that have been detected are sorted: each identity once, into the list of its kind. -/
structure Partitions (w : Workspace) (invocation : Invocation) (full : Bool)
    (detection : Detection) : Prop where
  nodup : (detection.changes.units.map (·.identity)).Nodup
  kinds : ∀ kind, ∀ unit ∈ detection.changes.ofKind kind, unit.kind = kind
  /-- What an archive has comes from the first archive that has it and is not removed. -/
  archived : ∀ identity index, invocation.Has w identity (.archive index) →
    ∃ unit ∈ detection.changes.units, unit.identity = identity ∧ unit.kind ≠ .removed ∧
      invocation.ComesFrom w identity unit.origin
  /-- The fingerprints are those of the members of the first archives. -/
  fingerprints : ∀ identity hash, detection.fingerprints[identity]? = some hash ↔
    ∃ index content, invocation.ComesFrom w identity (.archive index) ∧
      invocation.memberAt? w index identity = some content ∧ hash = ContentHash.ofBytes content
  /-- What is removed is in no archive, nor is there a file for it in any directory. -/
  removed : ∀ unit ∈ detection.changes.removed,
    (∀ index, ¬invocation.Has w unit.identity (.archive index)) ∧
      ∀ root ∈ invocation.directories, w.isFile (Path.descend root unit.identity) = false
  /-- If everything is built anew, all inputs are added, each identity from the first input. -/
  anew : full = true →
    (∀ unit ∈ detection.changes.units,
      unit.kind = .added ∧ invocation.ComesFrom w unit.identity unit.origin) ∧
    ∀ identity origin, invocation.Has w identity origin →
      ∃ unit ∈ detection.changes.units, unit.identity = identity

section

variable {invocation : Invocation} {scans : List (List ArchiveMember)} {units : List BuildUnit}
  (hs : invocation.archives.mapM (scan w) = .ok scans)
include hs

/-- Behind archives and a walk each unit comes from the first input that has its identity. -/
theorem comesFrom_of_mem (hw : walkedUnits w invocation.directories = .ok units)
    (h : unit ∈ (sorted w invocation.directories (archivedUnits scans) ∅
      (Invocation.first (archivedUnits scans) units)).units) :
    unit.kind = .added ∧ invocation.ComesFrom w unit.identity unit.origin := by
  have added : ∀ unit ∈ Invocation.first (archivedUnits scans) units, unit.kind = .added :=
    fun unit hu => Invocation.kind_of_mem_walked hw (Invocation.mem_first hu).1
  rcases (mem_sorted_empty added).mp h with ⟨identity, held, hh, rfl⟩ | hl
  · exact ⟨rfl, Invocation.comesFrom_of_archived hs hh⟩
  · exact ⟨added unit hl, Invocation.comesFrom_of_walked hw
      (Invocation.not_has_archive hs (Invocation.mem_first hl).2) (Invocation.eq_of_mem_first hl)⟩

/-- Archives and a walk miss nothing that the inputs have. -/
theorem exists_mem_sorted_of_has (hw : walkedUnits w invocation.directories = .ok units) {origin : Origin}
    (has : invocation.Has w identity origin) :
    ∃ unit ∈ (sorted w invocation.directories (archivedUnits scans) ∅
      (Invocation.first (archivedUnits scans) units)).units, unit.identity = identity := by
  have added : ∀ unit ∈ Invocation.first (archivedUnits scans) units, unit.kind = .added :=
    fun unit hu => Invocation.kind_of_mem_walked hw (Invocation.mem_first hu).1
  cases hm : (archivedUnits scans)[identity]? with
  | some held => exact ⟨_, (mem_sorted_empty added).mpr (.inl ⟨identity, held, hm, rfl⟩), rfl⟩
  | none =>
    cases origin with
    | archive index => exact absurd has (Invocation.not_has_archive hs hm index)
    | directory index =>
      obtain ⟨unit, hu, he⟩ := Invocation.exists_mem_walked hw has
      cases hf : units.find? (·.identity == identity) with
      | none => exact absurd (List.find?_eq_none.mp hf unit hu) (by simp [he])
      | some first =>
        exact ⟨first, (mem_sorted_empty added).mpr (.inr (Invocation.mem_first_of_find? hm hf)),
          by simpa using List.find?_some hf⟩
    | previous => exact has.elim

end

end Detection

variable {w : Workspace} {invocation : Invocation} {cache : Cache} {full : Bool}
  {detection : Detection}

/-- What is detected is a partition, whatever the previous run has left. -/
theorem detect_partitions (h : detect w invocation cache full = .ok detection) :
    detection.Partitions w invocation full := by
  obtain ⟨scans, loose, hs, hl, prints, hc⟩ := detect_eq_ok h
  generalize hp : (if full then ∅ else cache.fingerprints) = previous at hc
  change detection.changes = Detection.sorted w invocation.directories
    (Detection.archivedUnits scans) previous
    (Invocation.first (Detection.archivedUnits scans) loose) at hc
  have changed : ∀ unit ∈ Invocation.first (Detection.archivedUnits scans) loose,
      unit.kind ≠ .unchanged :=
    fun unit hu => (Detection.normal_of_looseUnits hl unit (Invocation.mem_first hu).1).2.1
  have apart : ∀ unit ∈ Invocation.first (Detection.archivedUnits scans) loose,
      (Detection.archivedUnits scans)[unit.identity]? = none :=
    fun unit hu => (Invocation.mem_first hu).2
  refine ⟨?_, ?_, ?_, ?_, ?_, ?_⟩
  · rw [hc]
    exact Detection.nodup_sorted (Detection.nodup_firstOfEach _ _) changed apart
  · intro kind unit hu
    rw [hc] at hu
    exact Detection.kind_of_mem_sorted hu
  · intro identity index has
    obtain ⟨held, hh⟩ := Invocation.exists_archived hs has
    rw [hc]
    exact ⟨_, Detection.memberUnit_mem_sorted changed hh, rfl, Detection.memberKind_ne_removed _ _ _,
      Invocation.comesFrom_of_archived hs hh⟩
  · intro identity hash
    rw [prints]
    exact Invocation.fingerprint_iff hs
  · intro unit hu
    rw [hc] at hu
    obtain ⟨absent, covered⟩ := Detection.absent_of_mem_removed apart hu
    exact ⟨Invocation.not_has_archive hs absent, Detection.uncovered?_eq_none_iff.mp covered⟩
  · rintro rfl
    have walk : Detection.walkedUnits w invocation.directories = .ok loose := by
      rw [← hl]
      unfold Detection.looseUnits
      cases invocation.changes <;> rfl
    obtain rfl : ∅ = previous := hp
    rw [hc]
    exact ⟨fun unit => Detection.comesFrom_of_mem hs walk,
      fun identity origin => Detection.exists_mem_sorted_of_has hs walk⟩

/-- Detection succeeds where the archives and what is loose can be read. -/
theorem exists_detect {scans : List (List ArchiveMember)} {loose : List BuildUnit}
    (hs : invocation.archives.mapM (Detection.scan w) = .ok scans)
    (hl : Detection.looseUnits w invocation full = .ok loose) (cache : Cache) :
    ∃ detection, detect w invocation cache full = .ok detection :=
  ⟨_, Except.bind_eq_ok_iff.mpr ⟨scans, hs, Except.bind_eq_ok_iff.mpr ⟨loose, hl, rfl⟩⟩⟩

namespace Invocation

/-- Two archives and a directory that all have `x`. -/
def shelf : Workspace :=
  ((((Workspace.empty.insert ["j"] (.file (onlyEntry [99]))).insert ["k"]
    (.file (onlyEntry [97]))).insert ["a"] .directory).insert ["a", "x"] (.file [98])).insert
    ["a", "y"] (.file [])

def overShelf : Invocation := { withoutInputs with archives := ["j", "k"], directories := ["a"] }

/-- What a run has kept that had the member `z`. -/
def keptShelf : Cache := ⟨"m", toolVersion, .known (keeping "z")⟩

theorem detect_partitions_shelf : ∃ partly anew,
    detect shelf overShelf keptShelf false = .ok partly ∧
      detect shelf overShelf keptShelf true = .ok anew ∧
      partly.Partitions shelf overShelf false ∧ anew.Partitions shelf overShelf true := by
  have scans : overShelf.archives.mapM (Detection.scan shelf)
      = .ok [[⟨"x", [99]⟩], [⟨"x", [97]⟩]] := by cbv
  have walked : Detection.walkedUnits shelf ["a"] = .ok [⟨"x", .directory 0, .added, .file "a/x"⟩,
      ⟨"y", .directory 0, .added, .file "a/y"⟩] := by cbv
  obtain ⟨partly, hp⟩ := @exists_detect shelf overShelf false _ _ scans walked keptShelf
  obtain ⟨anew, ha⟩ := @exists_detect shelf overShelf true _ _ scans walked keptShelf
  exact ⟨partly, anew, hp, ha, detect_partitions hp, detect_partitions ha⟩

end Invocation

end MethodTrace
