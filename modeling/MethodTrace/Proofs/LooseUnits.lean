import MethodTrace.Proofs.LooseChanges
import MethodTrace.Proofs.LooseFiles
import MethodTrace.Proofs.RunResults

/-!
What a run makes of loose units.
-/

namespace MethodTrace

namespace Detection

variable {v w : Workspace} {directories : List String} {unit : BuildUnit} {identity path : String}

/-- A path that leads to somewhere below one of some directories. -/
def Below (directories : List String) (path : String) : Prop :=
  ∃ root ∈ directories, Place.named root <+: Place.named path

/-- A unit for a file below one of some directories, or for one that is gone. -/
structure Loose (directories : List String) (unit : BuildUnit) : Prop where
  normal : Identity.IsNormal unit.identity
  content : unit.kind = .removed ∧ unit.content = .absent ∨
    unit.kind.needsWrite = true ∧ ∃ path, unit.content = .file path ∧ Below directories path

theorem identityOf_eq_ok {raw : String} (h : identityOf raw = .ok identity) :
    Path.isAbsolute raw = false ∧ Identity.normalize? raw = some identity := by
  unfold identityOf at h
  split at h
  · cases h
  next hs =>
    rw [Bool.or_eq_true, not_or, Bool.not_eq_true] at hs
    refine ⟨hs.1, ?_⟩
    split at h
    next hn =>
      cases h
      exact hn
    · cases h

/-- A path that has an identity leads to somewhere below the directory from which it is followed. -/
theorem below_join {root raw : String} (hr : root ∈ directories)
    (h : identityOf raw = .ok identity) : Below directories (Path.join root raw) := by
  obtain ⟨relative, normal⟩ := identityOf_eq_ok h
  refine ⟨root, hr, ?_⟩
  rw [Place.named_join relative]
  exact Place.prefix_foldl_after (Identity.up_not_mem_of_normalize? normal)

/-- The unit of a listed change has the identity of a path from one of the directories. -/
theorem feedUnit?_eq_some {change : FileChange}
    (h : feedUnit? directories change = .ok (some unit)) :
    ∃ root ∈ directories, ∃ raw, identityOf raw = .ok unit.identity ∧
      (unit.kind = .removed ∧ unit.content = .absent ∨
        unit.kind.needsWrite = true ∧ unit.content = .file (Path.join root raw)) := by
  unfold feedUnit? at h
  split at h
  · cases h
  next root index hf =>
    have hr : root ∈ directories := List.fst_mem_of_mem_zipIdx (List.mem_of_find?_eq_some hf)
    obtain ⟨identity, hi, h⟩ := Except.bind_eq_ok_iff.mp h
    cases hk : change.kind with
    | unchanged =>
      rw [hk] at h
      cases h
    | removed =>
      rw [hk] at h
      cases h
      exact ⟨root, hr, _, hi, .inl ⟨rfl, rfl⟩⟩
    | added =>
      rw [hk] at h
      cases h
      exact ⟨root, hr, _, hi, .inr ⟨rfl, rfl⟩⟩
    | modified =>
      rw [hk] at h
      cases h
      exact ⟨root, hr, _, hi, .inr ⟨rfl, rfl⟩⟩

theorem loose_of_feedUnit? {change : FileChange}
    (h : feedUnit? directories change = .ok (some unit)) : Loose directories unit := by
  obtain ⟨root, hr, raw, hi, content⟩ := feedUnit?_eq_some h
  exact ⟨isNormal_of_identityOf hi, content.imp_right fun ⟨hw, hc⟩ => ⟨hw, _, hc, below_join hr hi⟩⟩

theorem mem_feedUnits_iff {feed : List FileChange} {units : List BuildUnit}
    (h : feedUnits directories feed = .ok units) :
    unit ∈ units ↔ ∃ change ∈ feed, feedUnit? directories change = .ok (some unit) := by
  unfold feedUnits at h
  obtain ⟨found, hf, rfl⟩ := Except.map_eq_ok_iff.mp h
  have each := Except.mapM_eq_ok_iff.mp hf
  rw [List.reduceOption_mem_iff]
  constructor
  · intro hm
    exact forall₂_exists_left each hm
  · rintro ⟨change, hc, hu⟩
    obtain ⟨other, ho, he⟩ := forall₂_exists_left each.flip hc
    rw [hu] at he
    cases he
    exact ho

/-- The units of a change feed, if it can be understood. -/
def listedUnits (directories : List String) (feed : List FileChange) : List BuildUnit :=
  (feedUnits directories feed).toOption.getD []

theorem listedUnits_eq {feed : List FileChange} {units : List BuildUnit}
    (h : feedUnits directories feed = .ok units) : listedUnits directories feed = units := by
  rw [listedUnits, h]
  rfl

theorem below_of_uncovered? {index : Nat} (normal : Identity.IsNormal identity)
    (h : uncovered? w directories identity = some (index, path)) : Below directories path := by
  unfold uncovered? at h
  obtain ⟨⟨root, position⟩, hm, h⟩ := List.exists_of_findSome?_eq_some h
  dsimp only at h
  split at h
  · cases h
    refine ⟨root, List.fst_mem_of_mem_zipIdx hm, ?_⟩
    rw [Place.named_descend_of_isNormal normal]
    exact List.prefix_append _ _
  · cases h

/-- The content that a run takes for an identity of loose units: that of the first unit, or of the
file that comes out if that is gone. -/
def taken? (w : Workspace) (directories : List String) (units : List BuildUnit)
    (identity : String) : Option Bytes :=
  match (units.find? (·.identity == identity)).map BuildUnit.content with
  | some (.file path) => w.fileAt? path
  | _ => (uncovered? w directories identity).bind fun found => w.fileAt? found.2

/-- Something is listed about an identity, or archives have had it. -/
def Concerned (units : List BuildUnit) (previous : Fingerprints) (identity : String) : Prop :=
  (∃ unit ∈ units, unit.identity = identity) ∨ previous[identity]?.isSome = true

end Detection

namespace Invocation

open Detection

variable {invocation : Invocation} {filter : TagFilter} {u v w : Workspace} {unit : BuildUnit}
  {units : List BuildUnit} {identity path : String} {members : ArchivedUnits}
  {previous : Fingerprints} {archive : Option Archive} {assembly : Assembly}

/-- The input directories neither hold what is kept between runs nor lie in it. -/
def Apart (invocation : Invocation) : Prop :=
  ∀ root ∈ invocation.directories, ∀ place, place ∈ Place.trail root ∨ Place.named root <+: place →
    place ∉ Cache.placesIn invocation.intermediate

theorem Walked.loose {file : String × Bytes} (h : invocation.Walked w unit file) :
    Loose invocation.directories unit := by
  obtain ⟨path, content, _, below⟩ := h.content
  exact ⟨h.identity ▸ h.normal, .inr ⟨by rw [h.kind]; rfl, path, content, below⟩⟩

/-- The files under the input directories stay when a run forgets what is kept. -/
theorem Apart.filesUnder (apart : invocation.Apart)
    (h : Workspace.Clears (Cache.placesIn invocation.intermediate) v u) {root : String}
    (hr : root ∈ invocation.directories) : u.filesUnder root = v.filesUnder root :=
  Workspace.filesUnder_congr (fun place hp => h.node? (apart root hr place (.inl hp)))
    fun place hp => h.others place (apart root hr place (.inr hp))

/-- No unit is stored where a path leads that stays below the input directories. -/
theorem Apart.not_mem_placesOf (apart : invocation.Apart)
    (below : Below invocation.directories path)
    (normal : ∀ unit ∈ units, Identity.IsNormal unit.identity) :
    Place.named path ∉ (invocation.context filter).store.placesOf units := by
  rintro ⟨unit, hu, he⟩
  obtain ⟨root, hr, hp⟩ := below
  refine apart root hr _ (.inr hp) (.inl ?_)
  rw [← he, UnitStore.unitPath, Place.named_descend_of_isNormal (normal unit hu)]
  exact List.prefix_append _ _

/-- What is loaded from below the input directories while units are written was there before. -/
theorem Apart.fileAt?_of_load {s : Workspace} {content : Bytes} (apart : invocation.Apart)
    (below : Below invocation.directories path) (hc : unit.content = .file path)
    (normal : ∀ unit ∈ units, Identity.IsNormal unit.identity)
    (changes : Workspace.Changes ((invocation.context filter).store.placesOf units) u s)
    (hl : unit.load s = .ok content) : u.fileAt? path = some content := by
  unfold BuildUnit.load at hl
  rw [hc] at hl
  obtain ⟨_, hn⟩ := Workspace.read_eq_ok_iff.mp (Except.mapError_eq_ok_iff.mp hl)
  have place : Place.named path ∉ (invocation.context filter).store.placesOf units :=
    apart.not_mem_placesOf below normal
  exact Workspace.fileAt?_eq_some_iff.mpr ((changes.files _ place content).mp hn)

/-- The first loose unit of each identity that is not among some members. -/
def first (members : ArchivedUnits) (units : List BuildUnit) : List BuildUnit :=
  firstOfEach (.ofList (fingerprintsOf members).keys) units

theorem contains_keys_iff (members : ArchivedUnits) (identity : String) :
    (Std.ExtTreeSet.ofList (fingerprintsOf members).keys).contains identity
      = members[identity]?.isSome := by
  rw [Bool.eq_iff_iff]
  simp [Std.ExtTreeSet.contains_ofList, fingerprintsOf]

theorem mem_first (h : unit ∈ first members units) :
    unit ∈ units ∧ members[unit.identity]? = none := by
  obtain ⟨hm, hs⟩ := mem_firstOfEach h
  rw [contains_keys_iff, Option.isSome_eq_false_iff, Option.isNone_iff_eq_none] at hs
  exact ⟨hm, hs⟩

theorem mem_first_of_find? (hm : members[identity]? = none)
    (hf : units.find? (·.identity == identity) = some unit) : unit ∈ first members units := by
  have found := find?_firstOfEach (.ofList (fingerprintsOf members).keys) units identity
  rw [contains_keys_iff, hm, if_neg (by simp), hf] at found
  exact List.mem_of_find?_eq_some found

theorem eq_of_mem_first (h : unit ∈ first members units) :
    units.find? (·.identity == unit.identity) = some unit := by
  have found := find?_firstOfEach (.ofList (fingerprintsOf members).keys) units unit.identity
  rw [contains_keys_iff, (mem_first h).2, if_neg (by simp)] at found
  rw [← found]
  cases hf : (first members units).find? (·.identity == unit.identity) with
  | none => exact absurd (List.find?_eq_none.mp hf unit h) (by simp)
  | some other =>
    have same : other.identity = unit.identity := by
      simpa using List.find?_some hf
    rw [first] at h hf
    rw [hf, List.inj_on_of_nodup_map (nodup_firstOfEach _ _) (List.mem_of_find?_eq_some hf) h same]

/-- What a run does for its members and its loose units. -/
def work (invocation : Invocation) (w : Workspace) (members : ArchivedUnits)
    (previous : Fingerprints) (units : List BuildUnit) : List BuildUnit :=
  plan w invocation.directories members previous (first members units)

theorem nodup_work :
    ((invocation.work w members previous units).map (·.identity)).Nodup :=
  nodup_plan (nodup_firstOfEach _ _) fun _ h => (mem_first h).2

/-- What a run does concerns members that have changed, and of the other identities those about
which something is listed or that archives have had. -/
theorem changed_of_mem_work (h : unit ∈ invocation.work w members previous units) :
    (∃ held, members[unit.identity]? = some held ∧
      memberKind previous unit.identity held ≠ .unchanged) ∨
    members[unit.identity]? = none ∧ Concerned units previous unit.identity := by
  rcases changed_of_mem_plan (fun _ h => (mem_first h).2) h with hm | ⟨hn, hc⟩
  · exact .inl hm
  · refine .inr ⟨hn, ?_⟩
    rcases hc with ⟨other, ho, he⟩ | hp
    · exact .inl ⟨other, (mem_first ho).1, he⟩
    · exact .inr hp

theorem normal_work (loose : ∀ unit ∈ units, Loose invocation.directories unit)
    (hm : ∀ (identity : String) (held : ArchivedUnit), members[identity]? = some held →
      Identity.IsNormal identity)
    (hp : ∀ identity, previous[identity]?.isSome = true → Identity.IsNormal identity) :
    ∀ unit ∈ invocation.work w members previous units, Identity.IsNormal unit.identity := by
  intro unit h
  rcases changed_of_mem_work h with ⟨held, hh, _⟩ | ⟨_, ⟨other, ho, he⟩ | hs⟩
  · exact hm _ held hh
  · exact he ▸ (loose other ho).normal
  · exact hp _ hs

section

variable (updated : Updated (invocation.context filter) u (invocation.start archive)
  (invocation.work u members previous units) assembly)
include updated

/-- A member that has changed is written. -/
theorem built_of_changed {held : ArchivedUnit} (hm : members[identity]? = some held)
    (hk : memberKind previous identity held ≠ .unchanged) :
    assembly.built[identity]? = some (invocation.settings.entryFor filter identity held.content) := by
  obtain ⟨kind, hw, due⟩ := exists_memberUnit_of_changed hm hk
  refine updated.built_of_member (mem_plan_iff.mpr ?_) hw
  rcases due with added | modified
  · exact .inl added
  · exact .inr (.inl modified)

/-- A member that has not changed stays. -/
theorem built_of_unchanged {held : ArchivedUnit} (hm : members[identity]? = some held)
    (hk : memberKind previous identity held = .unchanged) :
    assembly.built[identity]? = (invocation.start archive).built[identity]? := by
  apply updated.built_of_untouched
  rintro unit hu rfl
  rcases changed_of_mem_work hu with ⟨other, ho, hc⟩ | ⟨hn, _⟩
  · rw [hm] at ho
    cases ho
    exact hc hk
  · rw [hm] at hn
    cases hn

/-- What is not among the members stays if nothing concerns it. -/
theorem built_of_unconcerned (hm : members[identity]? = none)
    (hc : ¬Concerned units previous identity) :
    assembly.built[identity]? = (invocation.start archive).built[identity]? := by
  apply updated.built_of_untouched
  rintro unit hu rfl
  rcases changed_of_mem_work hu with ⟨other, ho, _⟩ | ⟨_, h⟩
  · rw [hm] at ho
    cases ho
  · exact hc h

variable (apart : invocation.Apart)
  (normal : ∀ unit ∈ invocation.work u members previous units, Identity.IsNormal unit.identity)
include apart normal

theorem built_of_file (hu : unit ∈ invocation.work u members previous units)
    (hk : unit.kind.needsWrite = true) (hc : unit.content = .file path)
    (below : Below invocation.directories path) : assembly.built[unit.identity]?
      = (u.fileAt? path).map (invocation.settings.entryFor filter unit.identity) := by
  obtain ⟨s, content, changes, hl, he⟩ := updated.built_of_written hu hk
  rw [he, apart.fileAt?_of_load below hc normal changes hl]
  rfl

/-- An identity that is gone gets the file that comes out for it, if there is one. -/
theorem built_of_gone (hn : Identity.IsNormal identity)
    (h : Gone members previous (first members units) identity) : assembly.built[identity]?
      = ((uncovered? u invocation.directories identity).bind fun found => u.fileAt? found.2).map
        (invocation.settings.entryFor filter identity) := by
  obtain ⟨unit, hg, rfl⟩ := exists_mem_gone_iff.mpr h
  cases hu : uncoveredUnit? u invocation.directories unit with
  | some found =>
    have here := mem_plan_iff.mpr (.inr (.inr (.inr (.inl ⟨unit, hg, hu⟩))))
    obtain ⟨he, hk, index, path, hp, hc⟩ := uncoveredUnit?_eq_some hu
    have built := built_of_file updated apart normal here (by rw [hk]; rfl) hc
      (below_of_uncovered? hn hp)
    rw [he] at built
    rw [built, hp]
    rfl
  | none =>
    have here := mem_plan_iff.mpr (.inr (.inr (.inr (.inr ⟨hg, hu⟩))))
    rw [updated.built_of_removed here (kind_of_mem_gone hg), uncoveredUnit?_eq_none hu]
    rfl

/-- An identity that is not among the members but concerned gets what is taken for it. -/
theorem built_of_concerned (loose : ∀ unit ∈ units, Loose invocation.directories unit)
    (hp : previous[identity]?.isSome = true → Identity.IsNormal identity)
    (hm : members[identity]? = none) (hc : Concerned units previous identity) :
    assembly.built[identity]? = (taken? u invocation.directories units identity).map
      (invocation.settings.entryFor filter identity) := by
  cases hf : units.find? (·.identity == identity) with
  | some unit =>
    have here := mem_first_of_find? hm hf
    have he : unit.identity = identity := by simpa using List.find?_some hf
    have hl := loose unit (List.mem_of_find?_eq_some hf)
    rcases hl.content with ⟨hk, absent⟩ | ⟨hw, path, file, below⟩
    · have gone : Gone members previous (first members units) identity :=
        .inl ⟨unit, here, he, hk⟩
      rw [built_of_gone updated apart normal (he ▸ hl.normal) gone, taken?, hf]
      simp [absent]
    · have planned : settle (memberChanges members previous) unit
          ∈ invocation.work u members previous units :=
        mem_plan_iff.mpr (.inr (.inr (.inl ⟨unit, here, hw, rfl⟩)))
      have built := built_of_file updated apart normal planned
        (by rw [settle_needsWrite]; exact hw) (by rw [settle_content]; exact file) below
      rw [settle_identity, he] at built
      rw [built, taken?, hf]
      simp [file]
  | none =>
    have silent : ∀ unit ∈ units, unit.identity ≠ identity := by
      simpa using List.find?_eq_none.mp hf
    rcases hc with ⟨unit, hu, he⟩ | hs
    · exact absurd he (silent unit hu)
    · have gone : Gone members previous (first members units) identity :=
        .inr ⟨fun unit hu => silent unit (mem_first hu).1, hm, hs⟩
      rw [built_of_gone updated apart normal (hp hs) gone, taken?, hf]
      rfl

end

end Invocation

end MethodTrace
