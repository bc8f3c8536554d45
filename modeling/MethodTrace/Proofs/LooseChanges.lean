import MethodTrace.Proofs.MemberChanges

/-!
What a run has to do for loose files beside the members of its archives.
-/

namespace MethodTrace

namespace Detection

variable {w : Workspace} {directories : List String} {changes : ChangeSet}
  {units loose : List BuildUnit} {unit : BuildUnit} {identity : String}
  {seen : Std.ExtTreeSet String}

theorem mem_firstOfEach (h : unit ∈ firstOfEach seen units) :
    unit ∈ units ∧ seen.contains unit.identity = false := by
  induction units generalizing seen with
  | nil => cases h
  | cons first units ih =>
    rw [firstOfEach] at h
    split at h
    · obtain ⟨hm, hs⟩ := ih h
      exact ⟨List.mem_cons_of_mem _ hm, hs⟩
    next hn =>
      rcases List.mem_cons.mp h with rfl | h
      · exact ⟨List.mem_cons_self, Bool.eq_false_iff.mpr hn⟩
      · obtain ⟨hm, hs⟩ := ih h
        rw [Std.ExtTreeSet.contains_insert, Bool.or_eq_false_iff] at hs
        exact ⟨List.mem_cons_of_mem _ hm, hs.2⟩

/-- Of the units of an identity the first one is taken, unless the identity has been seen. -/
theorem find?_firstOfEach (seen : Std.ExtTreeSet String) (units : List BuildUnit)
    (identity : String) : (firstOfEach seen units).find? (·.identity == identity)
      = if seen.contains identity then none else units.find? (·.identity == identity) := by
  induction units generalizing seen with
  | nil => simp [firstOfEach]
  | cons first units ih =>
    rw [firstOfEach]
    by_cases he : first.identity = identity
    · subst he
      split
      next hs => rw [ih, if_pos hs]
      next hs => rw [List.find?_cons, List.find?_cons, beq_self_eq_true]
    · have other : (first.identity == identity) = false := beq_eq_false_iff_ne.mpr he
      have kept : (seen.insert first.identity).contains identity = seen.contains identity := by
        rw [Std.ExtTreeSet.contains_insert]
        simp [he]
      rw [List.find?_cons, other]
      split
      next hs => exact ih seen
      next hs =>
        rw [List.find?_cons, other]
        exact (ih _).trans (by rw [kept])

theorem nodup_firstOfEach (seen : Std.ExtTreeSet String) (units : List BuildUnit) :
    ((firstOfEach seen units).map (·.identity)).Nodup := by
  induction units generalizing seen with
  | nil => simp [firstOfEach]
  | cons first units ih =>
    rw [firstOfEach]
    split
    · exact ih seen
    · rw [List.map_cons, List.nodup_cons]
      refine ⟨?_, ih _⟩
      intro hm
      obtain ⟨other, ho, he⟩ := List.mem_map.mp hm
      have := (mem_firstOfEach ho).2
      rw [he] at this
      simp at this

/-- A loose unit as it is filed: one that an archive no longer has replaces the unit of that. -/
def settle (changes : ChangeSet) (unit : BuildUnit) : BuildUnit :=
  if unit.kind = .added ∧ mentions changes.removed unit.identity then
    { unit with kind := .modified }
  else unit

theorem settle_identity (changes : ChangeSet) (unit : BuildUnit) :
    (settle changes unit).identity = unit.identity := by
  unfold settle
  split
  · rfl
  · rfl

theorem settle_content (changes : ChangeSet) (unit : BuildUnit) :
    (settle changes unit).content = unit.content := by
  unfold settle
  split
  · rfl
  · rfl

theorem settle_needsWrite (changes : ChangeSet) (unit : BuildUnit) :
    (settle changes unit).kind.needsWrite = unit.kind.needsWrite := by
  unfold settle
  split
  next h =>
    rw [h.1]
    rfl
  · rfl

theorem settle_of_removed (changes : ChangeSet) (h : unit.kind = .removed) :
    settle changes unit = unit := by
  unfold settle
  rw [if_neg (by simp [h])]

theorem ofKind_push (set : ChangeSet) (unit : BuildUnit) (kind : ChangeKind) :
    (set.push unit).ofKind kind = set.ofKind kind ++ [unit].filter (·.kind = kind) := by
  cases hk : unit.kind <;> cases kind <;> simp [ChangeSet.push, ChangeSet.ofKind, hk]

/-- Units are filed under their kinds behind those that are there. -/
theorem ofKind_foldl_push (units : List BuildUnit) (set : ChangeSet) (kind : ChangeKind) :
    (units.foldl ChangeSet.push set).ofKind kind
      = set.ofKind kind ++ units.filter (·.kind = kind) := by
  induction units generalizing set with
  | nil => simp
  | cons unit units ih =>
    rw [List.foldl_cons, ih, ofKind_push, List.append_assoc, ← List.filter_append,
      List.singleton_append]

/-- Loose units are filed behind the units of archives, of which those stay removed that no loose unit
mentions. -/
theorem ofKind_withLoose (changes : ChangeSet) (loose : List BuildUnit) (kind : ChangeKind) :
    (withLoose changes loose).ofKind kind
      = ChangeSet.ofKind { changes with
          removed := changes.removed.filter fun unit => !mentions loose unit.identity } kind
        ++ (loose.map (settle changes)).filter (·.kind = kind) :=
  ofKind_foldl_push _ _ kind

/-- The units that are gone: those of archives about which nothing is listed, and those that are
listed as removed. -/
def gone (changes : ChangeSet) (loose : List BuildUnit) : List BuildUnit :=
  changes.removed.filter (fun unit => !mentions loose unit.identity)
    ++ (loose.map (settle changes)).filter (·.kind = .removed)

/-- The lists of what is to be done. -/
theorem withUncovered_withLoose (w : Workspace) (directories : List String) (changes : ChangeSet)
    (loose : List BuildUnit) :
    (withUncovered w directories (withLoose changes loose)).actionable
      = changes.added ++ (loose.map (settle changes)).filter (·.kind = .added)
        ++ (changes.modified ++ (loose.map (settle changes)).filter (·.kind = .modified)
          ++ (gone changes loose).filterMap (uncoveredUnit? w directories))
        ++ (gone changes loose).filter fun unit => (uncoveredUnit? w directories unit).isNone := by
  have added : (withLoose changes loose).added = _ := ofKind_withLoose changes loose .added
  have modified : (withLoose changes loose).modified = _ := ofKind_withLoose changes loose .modified
  have removed : (withLoose changes loose).removed = _ := ofKind_withLoose changes loose .removed
  simp only [ChangeSet.ofKind] at added modified removed
  simp only [withUncovered, ChangeSet.actionable, added, modified, removed, gone]

theorem mentions_iff : mentions units identity = true ↔ ∃ unit ∈ units, unit.identity = identity := by
  simp [mentions]

theorem uncoveredUnit?_eq_some {found : BuildUnit}
    (h : uncoveredUnit? w directories unit = some found) :
    found.identity = unit.identity ∧ found.kind = .modified ∧
      ∃ index path, uncovered? w directories unit.identity = some (index, path) ∧
        found.content = .file path := by
  unfold uncoveredUnit? at h
  obtain ⟨⟨index, path⟩, hu, h⟩ := Option.bind_eq_some_iff.mp h
  cases h
  exact ⟨rfl, rfl, index, path, hu, rfl⟩

theorem uncoveredUnit?_eq_none (h : uncoveredUnit? w directories unit = none) :
    uncovered? w directories unit.identity = none := by
  unfold uncoveredUnit? at h
  cases hu : uncovered? w directories unit.identity with
  | none => rfl
  | some found =>
    rw [hu] at h
    cases h

/-- Units that are gone keep their identities when they are sorted by what comes out for them. -/
theorem perm_gone (w : Workspace) (directories : List String) (units : List BuildUnit) :
    ((units.filterMap (uncoveredUnit? w directories)
      ++ units.filter fun unit => (uncoveredUnit? w directories unit).isNone).map (·.identity)).Perm
      (units.map (·.identity)) := by
  induction units with
  | nil => simp
  | cons unit units ih =>
    cases hu : uncoveredUnit? w directories unit with
    | some found =>
      rw [List.filterMap_cons, hu, List.filter_cons_of_neg (by simp [hu])]
      rw [List.cons_append, List.map_cons, List.map_cons, (uncoveredUnit?_eq_some hu).1]
      exact ih.cons _
    | none =>
      rw [List.filterMap_cons, hu, List.filter_cons_of_pos (by simp [hu]), List.map_cons]
      rw [List.map_append, List.map_cons]
      rw [List.map_append] at ih
      exact List.perm_middle.trans (ih.cons _)

variable {members : ArchivedUnits} {previous : Fingerprints} {index : Nat} {path : String}

/-- What a run has to do for the members of its archives and for loose units. -/
def plan (w : Workspace) (directories : List String) (members : ArchivedUnits)
    (previous : Fingerprints) (loose : List BuildUnit) : List BuildUnit :=
  (withUncovered w directories (withLoose (memberChanges members previous) loose)).actionable

/-- An identity that is gone: it is listed as removed, or an archive has had it and nothing is
listed about it. -/
def Gone (members : ArchivedUnits) (previous : Fingerprints) (loose : List BuildUnit)
    (identity : String) : Prop :=
  (∃ unit ∈ loose, unit.identity = identity ∧ unit.kind = .removed) ∨
    (∀ unit ∈ loose, unit.identity ≠ identity) ∧ members[identity]? = none ∧
      previous[identity]?.isSome = true

theorem mem_gone_iff {changes : ChangeSet} : unit ∈ gone changes loose ↔
    (unit ∈ changes.removed ∧ ∀ other ∈ loose, other.identity ≠ unit.identity) ∨
      unit ∈ loose ∧ unit.kind = .removed := by
  have mentioned : (!mentions loose unit.identity) = true ↔
      ∀ other ∈ loose, other.identity ≠ unit.identity := by
    rw [Bool.not_eq_true', Bool.eq_false_iff, ne_eq, mentions_iff]
    simp
  have listed : unit ∈ (loose.map (settle changes)).filter (·.kind = .removed) ↔
      unit ∈ loose ∧ unit.kind = .removed := by
    rw [List.mem_filter, List.mem_map, decide_eq_true_eq]
    constructor
    · rintro ⟨⟨other, ho, rfl⟩, hk⟩
      have kept : settle changes other = other := by
        unfold settle at hk ⊢
        split at hk
        · cases hk
        next hn => rw [if_neg hn]
      rw [kept] at hk ⊢
      exact ⟨ho, hk⟩
    · rintro ⟨ho, hk⟩
      exact ⟨⟨unit, ho, settle_of_removed changes hk⟩, hk⟩
  rw [gone, List.mem_append, List.mem_filter, mentioned, listed]

theorem exists_mem_gone_iff : (∃ unit ∈ gone (memberChanges members previous) loose,
    unit.identity = identity) ↔ Gone members previous loose identity := by
  constructor
  · rintro ⟨unit, hm, rfl⟩
    rcases mem_gone_iff.mp hm with ⟨hr, hl⟩ | ⟨hl, hk⟩
    · obtain ⟨other, hp, hn, rfl⟩ := mem_removed_iff.mp hr
      exact .inr ⟨hl, hn, hp⟩
    · exact .inl ⟨unit, hl, rfl, hk⟩
  · rintro (⟨unit, hl, he, hk⟩ | ⟨hl, hn, hp⟩)
    · exact ⟨unit, mem_gone_iff.mpr (.inr ⟨hl, hk⟩), he⟩
    · exact ⟨_, mem_gone_iff.mpr (.inl ⟨mem_removed_iff.mpr ⟨identity, hp, hn, rfl⟩, hl⟩), rfl⟩

theorem kind_of_mem_gone (h : unit ∈ gone (memberChanges members previous) loose) :
    unit.kind = .removed := by
  rcases mem_gone_iff.mp h with ⟨hr, _⟩ | ⟨_, hk⟩
  · obtain ⟨other, _, _, rfl⟩ := mem_removed_iff.mp hr
    rfl
  · exact hk

theorem mem_plan_iff : unit ∈ plan w directories members previous loose ↔
    unit ∈ (memberChanges members previous).added ∨
    unit ∈ (memberChanges members previous).modified ∨
    (∃ other ∈ loose, other.kind.needsWrite = true ∧
      settle (memberChanges members previous) other = unit) ∨
    (∃ other ∈ gone (memberChanges members previous) loose,
      uncoveredUnit? w directories other = some unit) ∨
    unit ∈ gone (memberChanges members previous) loose ∧
      uncoveredUnit? w directories unit = none := by
  have written : (unit ∈ (loose.map (settle (memberChanges members previous))).filter
        (·.kind = .added) ∨
      unit ∈ (loose.map (settle (memberChanges members previous))).filter (·.kind = .modified)) ↔
      ∃ other ∈ loose, other.kind.needsWrite = true ∧
        settle (memberChanges members previous) other = unit := by
    rw [List.mem_filter, List.mem_filter, ← and_or_left, List.mem_map]
    simp only [decide_eq_true_eq]
    constructor
    · rintro ⟨⟨other, ho, rfl⟩, hk⟩
      refine ⟨other, ho, ?_, rfl⟩
      rw [← settle_needsWrite (memberChanges members previous)]
      rcases hk with hk | hk
      · rw [hk]
        rfl
      · rw [hk]
        rfl
    · rintro ⟨other, ho, hw, rfl⟩
      refine ⟨⟨other, ho, rfl⟩, ?_⟩
      rw [← settle_needsWrite (memberChanges members previous)] at hw
      cases hk : (settle (memberChanges members previous) other).kind with
      | added => exact .inl rfl
      | modified => exact .inr rfl
      | removed =>
        rw [hk] at hw
        cases hw
      | unchanged =>
        rw [hk] at hw
        cases hw
  have hidden : unit ∈ (gone (memberChanges members previous) loose).filter
        (fun other => (uncoveredUnit? w directories other).isNone) ↔
      unit ∈ gone (memberChanges members previous) loose ∧
        uncoveredUnit? w directories unit = none := by
    rw [List.mem_filter, Option.isNone_iff_eq_none]
  rw [plan, withUncovered_withLoose, ← written, ← hidden, ← List.mem_filterMap]
  simp only [List.mem_append]
  apply Iff.of_eq
  ac_rfl

/-- The loose units that are filed under some kind. -/
def filed (units : List BuildUnit) : List BuildUnit :=
  units.filter (·.kind = .added) ++ units.filter (·.kind = .modified)
    ++ units.filter (·.kind = .removed)

theorem mem_of_mem_filed (h : unit ∈ filed units) : unit ∈ units := by
  rcases List.mem_append.mp h with h | h
  · rcases List.mem_append.mp h with h | h
    · exact List.mem_of_mem_filter h
    · exact List.mem_of_mem_filter h
  · exact List.mem_of_mem_filter h

theorem nodup_filed (h : (units.map (·.identity)).Nodup) :
    ((filed units).map (·.identity)).Nodup := by
  have each (kind : ChangeKind) :
      ((units.filter (·.kind = kind)).map (·.identity)).Nodup :=
    h.sublist (List.filter_sublist.map _)
  have kinds {first second : BuildUnit} {k l : ChangeKind} (hf : first ∈ units.filter (·.kind = k))
      (hs : second ∈ units.filter (·.kind = l)) (he : first.identity = second.identity) :
      k = l := by
    rw [List.mem_filter, decide_eq_true_eq] at hf hs
    rw [← hf.2, ← hs.2, List.inj_on_of_nodup_map h hf.1 hs.1 he]
  unfold filed
  rw [List.map_append, List.map_append, List.nodup_append, List.nodup_append]
  refine ⟨⟨each _, each _, ?_⟩, each _, ?_⟩
  · intro identity ha other hm he
    obtain ⟨first, hf, rfl⟩ := List.mem_map.mp ha
    obtain ⟨second, hs, rfl⟩ := List.mem_map.mp hm
    exact absurd (kinds hf hs he) (by decide)
  · intro identity hc other hr he
    obtain ⟨second, hs, rfl⟩ := List.mem_map.mp hr
    rcases List.mem_append.mp hc with hc | hc
    · obtain ⟨first, hf, rfl⟩ := List.mem_map.mp hc
      exact absurd (kinds hf hs he) (by decide)
    · obtain ⟨first, hf, rfl⟩ := List.mem_map.mp hc
      exact absurd (kinds hf hs he) (by decide)

/-- What is to be done is so for members about which nothing is listed and for loose units. -/
theorem perm_plan (w : Workspace) (directories : List String) (members : ArchivedUnits)
    (previous : Fingerprints) (loose : List BuildUnit) :
    ((plan w directories members previous loose).map (·.identity)).Perm
      (((memberChanges members previous).added ++ (memberChanges members previous).modified
        ++ (memberChanges members previous).removed.filter fun unit =>
          !mentions loose unit.identity).map (·.identity)
      ++ (filed (loose.map (settle (memberChanges members previous)))).map (·.identity)) := by
  have sorted := perm_gone w directories (gone (memberChanges members previous) loose)
  rw [List.perm_iff_count] at sorted ⊢
  intro identity
  have same := sorted identity
  rw [plan, withUncovered_withLoose]
  simp only [filed, gone, List.map_append, List.count_append] at same ⊢
  omega

theorem nodup_plan (distinct : (loose.map (·.identity)).Nodup)
    (apart : ∀ unit ∈ loose, members[unit.identity]? = none) :
    ((plan w directories members previous loose).map (·.identity)).Nodup := by
  have settled : (loose.map (settle (memberChanges members previous))).map (·.identity)
      = loose.map (·.identity) := by
    rw [List.map_map]
    exact List.map_congr_left fun unit _ => settle_identity _ unit
  rw [(perm_plan w directories members previous loose).nodup_iff, List.nodup_append]
  refine ⟨?_, nodup_filed (settled ▸ distinct), ?_⟩
  · refine (@nodup_actionable_memberChanges members previous).sublist ?_
    exact ((List.Sublist.refl _).append List.filter_sublist).map _
  · intro identity hm other hl he
    obtain ⟨unit, hu, rfl⟩ := List.mem_map.mp hm
    obtain ⟨found, hf, rfl⟩ := List.mem_map.mp hl
    obtain ⟨listed, here, rfl⟩ := List.mem_map.mp (mem_of_mem_filed hf)
    rw [settle_identity] at he
    have absent := apart listed here
    rw [← he] at absent
    rcases List.mem_append.mp hu with hu | hu
    · rcases List.mem_append.mp hu with hu | hu
      · obtain ⟨_, held, hh, _, rfl⟩ := mem_added_iff.mp hu
        exact absurd (absent.symm.trans hh) (by simp)
      · obtain ⟨_, held, hh, _, rfl⟩ := mem_modified_iff.mp hu
        exact absurd (absent.symm.trans hh) (by simp)
    · have silent := (List.mem_filter.mp hu).2
      rw [Bool.not_eq_true', Bool.eq_false_iff] at silent
      exact silent (mentions_iff.mpr ⟨listed, here, he.symm⟩)

/-- What is to be done concerns members that have changed, and of the other identities those that
are listed or that archives have had. -/
theorem changed_of_mem_plan (apart : ∀ unit ∈ loose, members[unit.identity]? = none)
    (h : unit ∈ plan w directories members previous loose) :
    (∃ held, members[unit.identity]? = some held ∧
      memberKind previous unit.identity held ≠ .unchanged) ∨
    members[unit.identity]? = none ∧ ((∃ other ∈ loose, other.identity = unit.identity) ∨
      previous[unit.identity]?.isSome = true) := by
  have lost {other : BuildUnit} (hm : other ∈ gone (memberChanges members previous) loose)
      (he : unit.identity = other.identity) :
      members[unit.identity]? = none ∧ ((∃ other ∈ loose, other.identity = unit.identity) ∨
        previous[unit.identity]?.isSome = true) := by
    rw [he]
    rcases mem_gone_iff.mp hm with ⟨hr, _⟩ | ⟨hl, _⟩
    · obtain ⟨identity, hp, hn, rfl⟩ := mem_removed_iff.mp hr
      exact ⟨hn, .inr hp⟩
    · exact ⟨apart other hl, .inl ⟨other, hl, rfl⟩⟩
  rcases mem_plan_iff.mp h with ha | hm | ⟨other, ho, _, rfl⟩ | ⟨other, ho, hu⟩ | ⟨hg, _⟩
  · obtain ⟨identity, held, hh, hk, rfl⟩ := mem_added_iff.mp ha
    exact .inl ⟨held, hh, fun hn => absurd (hk.symm.trans hn) (by decide)⟩
  · obtain ⟨identity, held, hh, hk, rfl⟩ := mem_modified_iff.mp hm
    exact .inl ⟨held, hh, fun hn => absurd (hk.symm.trans hn) (by decide)⟩
  · rw [settle_identity]
    exact .inr ⟨apart other ho, .inl ⟨other, ho, rfl⟩⟩
  · exact .inr (lost ho (uncoveredUnit?_eq_some hu).1)
  · exact .inr (lost hg rfl)

end Detection

end MethodTrace
