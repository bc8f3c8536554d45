import MethodTrace.Proofs.ConfinedUnits
import MethodTrace.Proofs.FeedPaths

/-!
What is detected for a file that a change feed lists.

A change leads to one unit of the feed, wherever it stands there. The unit is written unless an
archive has its identity or an earlier change has led to it. Another spelling of its path goes
through to the end and changes nothing else, as units are found by their identities and kinds only.
-/

namespace MethodTrace

variable {ε α β γ δ : Type}

/-- Contents that are equal, or files at a path that may be spelled in two ways. -/
def Content.Same : Content → Content → Prop
  | .file first, .file second => Path.same first second = true
  | first, second => first = second

/-- Units that agree but for the spelling of the path at which their content is. -/
structure BuildUnit.Same (first second : BuildUnit) : Prop where
  identity : first.identity = second.identity
  origin : first.origin = second.origin
  kind : first.kind = second.kind
  content : first.content.Same second.content

/-- Changes that list the same units in each place. -/
def ChangeSet.Same (first second : ChangeSet) : Prop :=
  ∀ kind, List.Forall₂ BuildUnit.Same (first.ofKind kind) (second.ofKind kind)

structure Detection.Same (first second : Detection) : Prop where
  changes : first.changes.Same second.changes
  fingerprints : first.fingerprints = second.fingerprints

/-- Two computations fail with the same error, or have results in some relation. -/
def Except.Agree (R : α → β → Prop) (first : Except ε α) (second : Except ε β) : Prop :=
  (∃ error, first = .error error ∧ second = .error error) ∨
    ∃ a b, first = .ok a ∧ second = .ok b ∧ R a b

namespace Except.Agree

variable {R : α → β → Prop} {S : γ → δ → Prop}

theorem bind {first : Except ε α} {second : Except ε β} {f : α → Except ε γ} {g : β → Except ε δ}
    (h : Except.Agree R first second) (hf : ∀ a b, R a b → Except.Agree S (f a) (g b)) :
    Except.Agree S (first >>= f) (second >>= g) := by
  obtain ⟨error, rfl, rfl⟩ | ⟨a, b, rfl, rfl, hr⟩ := h
  · exact .inl ⟨error, rfl, rfl⟩
  · exact hf a b hr

theorem refl {R : α → α → Prop} (hr : ∀ a, R a a) (x : Except ε α) : Except.Agree R x x := by
  cases x with
  | error error => exact .inl ⟨error, rfl, rfl⟩
  | ok a => exact .inr ⟨a, a, rfl, rfl, hr a⟩

theorem map {first : Except ε α} {second : Except ε β} {f : α → γ} {g : β → δ}
    (h : Except.Agree R first second) (hf : ∀ a b, R a b → S (f a) (g b)) :
    Except.Agree S (f <$> first) (g <$> second) := by
  obtain ⟨error, rfl, rfl⟩ | ⟨a, b, rfl, rfl, hr⟩ := h
  · exact .inl ⟨error, rfl, rfl⟩
  · exact .inr ⟨_, _, rfl, rfl, hf a b hr⟩

theorem mapM {f : α → Except ε γ} {g : β → Except ε δ} {xs : List α} {ys : List β}
    (h : List.Forall₂ (fun x y => Except.Agree S (f x) (g y)) xs ys) :
    Except.Agree (List.Forall₂ S) (xs.mapM f) (ys.mapM g) := by
  induction h with
  | nil => exact .inr ⟨[], [], rfl, rfl, .nil⟩
  | cons first _ ih =>
    rw [List.mapM_cons, List.mapM_cons]
    refine first.bind fun a b hr => ih.bind fun as bs hrs => ?_
    exact .inr ⟨_, _, rfl, rfl, .cons hr hrs⟩

end Except.Agree

theorem Content.Same.refl (content : Content) : content.Same content := by
  cases content with
  | bytes data => rfl
  | file path => simp [Content.Same, Path.same]
  | absent => rfl

theorem BuildUnit.Same.refl (unit : BuildUnit) : unit.Same unit :=
  ⟨rfl, rfl, rfl, .refl _⟩

theorem BuildUnit.Same.refl_option (unit? : Option BuildUnit) :
    Option.Rel BuildUnit.Same unit? unit? := by
  cases unit? with
  | none => exact .none
  | some unit => exact .some (.refl unit)

theorem BuildUnit.Same.refl_list (units : List BuildUnit) : List.Forall₂ BuildUnit.Same units units :=
  List.forall₂_same.mpr fun unit _ => .refl unit

namespace Detection

variable {first second : ChangeSet} {units others : List BuildUnit} {unit other : BuildUnit}
  {w : Workspace} {directories : List String}

theorem firstOfEach_same (h : List.Forall₂ BuildUnit.Same units others)
    (seen : Std.ExtTreeSet String) :
    List.Forall₂ BuildUnit.Same (firstOfEach seen units) (firstOfEach seen others) := by
  induction h generalizing seen with
  | nil => exact .nil
  | @cons unit other _ _ same _ ih =>
    rw [firstOfEach, firstOfEach, same.identity]
    split
    next => exact ih seen
    next => exact .cons same (ih _)

theorem mentions_same (h : List.Forall₂ BuildUnit.Same units others) (identity : String) :
    mentions units identity = mentions others identity := by
  unfold mentions
  induction h with
  | nil => rfl
  | cons same _ ih => rw [List.any_cons, List.any_cons, ih, same.identity]

theorem settle_same (changes : ChangeSet) (h : unit.Same other) :
    (settle changes unit).Same (settle changes other) := by
  have alike : (unit.kind = .added ∧ mentions changes.removed unit.identity) ↔
      other.kind = .added ∧ mentions changes.removed other.identity := by
    rw [h.kind, h.identity]
  unfold settle
  by_cases filed : unit.kind = .added ∧ mentions changes.removed unit.identity
  · rw [if_pos filed, if_pos (alike.mp filed)]
    exact ⟨h.identity, h.origin, rfl, h.content⟩
  · rw [if_neg filed, if_neg (mt alike.mpr filed)]
    exact h

theorem rel_filter_same {p q : BuildUnit → Bool}
    (hp : ∀ unit other, unit.Same other → p unit = q other)
    (h : List.Forall₂ BuildUnit.Same units others) :
    List.Forall₂ BuildUnit.Same (units.filter p) (others.filter q) :=
  List.rel_filter (fun _ _ same => Bool.eq_iff_iff.mp (hp _ _ same)) h

/-- Units that agree are filed alike beside what archives give. -/
theorem withLoose_same (changes : ChangeSet) (h : List.Forall₂ BuildUnit.Same units others) :
    (withLoose changes units).Same (withLoose changes others) := by
  intro kind
  have mentioned : (fun unit : BuildUnit => !mentions units unit.identity)
      = fun unit => !mentions others unit.identity := by
    funext unit
    rw [mentions_same h]
  have settled : List.Forall₂ BuildUnit.Same (units.map (settle changes))
      (others.map (settle changes)) :=
    List.rel_map (fun _ _ same => settle_same changes same) h
  rw [ofKind_withLoose, ofKind_withLoose, mentioned]
  apply List.rel_append (BuildUnit.Same.refl_list _)
  apply rel_filter_same _ settled
  intro unit other same
  rw [same.kind]

/-- What comes out where a unit is gone depends on its identity only. -/
theorem uncoveredUnit?_same (h : unit.Same other) :
    uncoveredUnit? w directories unit = uncoveredUnit? w directories other := by
  unfold uncoveredUnit?
  rw [h.identity]

theorem withUncovered_same (h : first.Same second) :
    (withUncovered w directories first).Same (withUncovered w directories second) := by
  intro kind
  cases kind with
  | added => exact h .added
  | modified =>
    apply List.rel_append (h .modified)
    apply List.rel_filterMap _ (h .removed)
    intro unit other same
    rw [uncoveredUnit?_same same]
    exact BuildUnit.Same.refl_option _
  | removed =>
    apply rel_filter_same _ (h .removed)
    intro unit other same
    rw [uncoveredUnit?_same same]
  | unchanged => exact h .unchanged

end Detection

/-- What is detected is the same but for the spelling of paths if that holds of the loose units. -/
theorem detect_agree {w : Workspace} {invocation other : Invocation} {cache : Cache} {full : Bool}
    (archives : invocation.archives = other.archives)
    (directories : invocation.directories = other.directories)
    (h : Except.Agree (List.Forall₂ BuildUnit.Same) (Detection.looseUnits w invocation full)
      (Detection.looseUnits w other full)) :
    Except.Agree Detection.Same (detect w invocation cache full) (detect w other cache full) := by
  unfold detect
  rw [archives, directories]
  refine (Except.Agree.refl (R := (· = ·)) (fun _ => rfl) _).bind ?_
  rintro scans _ rfl
  refine h.bind fun units others same => .inr ⟨_, _, rfl, rfl, ?_, rfl⟩
  exact Detection.withUncovered_same
    (Detection.withLoose_same _ (Detection.firstOfEach_same same _))

theorem BuildUnit.fileAt?_of_load {unit : BuildUnit} {path : String} {w : Workspace} {bytes : Bytes}
    (content : unit.content.Same (.file path)) (h : unit.load w = .ok bytes) :
    w.fileAt? path = some bytes := by
  unfold BuildUnit.load at h
  cases hc : unit.content with
  | bytes data => simp [hc, Content.Same] at content
  | absent => simp [hc, Content.Same] at content
  | file spelled =>
    rw [hc] at content h
    obtain ⟨-, held⟩ := Workspace.read_eq_ok_iff.mp (Except.mapError_eq_ok_iff.mp h)
    rw [Path.named_of_same content] at held
    exact Workspace.fileAt?_eq_some_iff.mpr held

namespace Detection

variable {directories : List String} {first second change : FileChange}
  {before after : List FileChange} {units others : List BuildUnit} {unit : BuildUnit}
  {root path identity : String} {index : Nat} {w : Workspace} {invocation : Invocation}
  {cache : Cache} {full : Bool} {detection : Detection} {kind : ChangeKind}

/-- Changes that lead to units that agree may stand for each other in a feed. -/
theorem feedUnits_agree (h : Except.Agree (Option.Rel BuildUnit.Same)
      (feedUnit? directories first) (feedUnit? directories second)) :
    Except.Agree (List.Forall₂ BuildUnit.Same)
      (feedUnits directories (before ++ first :: after))
      (feedUnits directories (before ++ second :: after)) := by
  have alike (changes : List FileChange) : List.Forall₂ (fun first second =>
      Except.Agree (Option.Rel BuildUnit.Same) (feedUnit? directories first)
        (feedUnit? directories second)) changes changes :=
    List.forall₂_same.mpr fun _ _ => .refl BuildUnit.Same.refl_option _
  refine (Except.Agree.mapM (List.rel_append (alike before) (.cons h (alike after)))).map ?_
  intro founds others related
  exact List.rel_filterMap (fun _ _ same => same) related

theorem listedUnit?_same {spelled respelled : String} (h : Path.same spelled respelled = true) :
    Option.Rel BuildUnit.Same (listedUnit? kind identity index spelled)
      (listedUnit? kind identity index respelled) := by
  cases kind with
  | unchanged => exact .none
  | removed => exact .some (.refl _)
  | added => exact .some ⟨rfl, rfl, rfl, h⟩
  | modified => exact .some ⟨rfl, rfl, rfl, h⟩

theorem listedUnit?_of_needsWrite (h : kind.needsWrite = true) :
    listedUnit? kind identity index path
      = some ⟨identity, .directory index, kind, .file path⟩ := by
  cases kind with
  | added => rfl
  | modified => rfl
  | removed => cases h
  | unchanged => cases h

/-- Changes of a kind that lead to the same file lead to units that agree. -/
theorem LeadsTo.agree (hf : LeadsTo directories first index identity path)
    (hs : LeadsTo directories second index identity path) (kinds : first.kind = second.kind) :
    Except.Agree (Option.Rel BuildUnit.Same) (feedUnit? directories first)
      (feedUnit? directories second) := by
  obtain ⟨spelled, same, hf⟩ := hf
  obtain ⟨respelled, other, hs⟩ := hs
  rw [Path.same, beq_iff_eq] at same other
  refine .inr ⟨_, _, hf, hs, ?_⟩
  rw [kinds]
  exact listedUnit?_same (beq_iff_eq.mpr (same.trans other.symm))

/-- In a feed, a change may stand for another one. -/
def Alike (directories : List String) (first second : FileChange) : Prop :=
  ∀ (w : Workspace) (invocation : Invocation) (cache : Cache) (full : Bool)
    (before after : List FileChange), invocation.directories = directories →
    Except.Agree Detection.Same
      (detect w (invocation.withChanges (.listed (before ++ first :: after))) cache full)
      (detect w (invocation.withChanges (.listed (before ++ second :: after))) cache full)

theorem LeadsTo.alike (hf : LeadsTo directories first index identity path)
    (hs : LeadsTo directories second index identity path) (kinds : first.kind = second.kind) :
    Alike directories first second := by
  rintro w invocation cache full before after rfl
  refine detect_agree ?_ ?_ ?_
  · rfl
  · rfl
  · cases full with
    | true => exact .refl BuildUnit.Same.refl_list _
    | false => exact feedUnits_agree (hf.agree hs kinds)

/-- The units of a feed in the order of their changes. -/
theorem feedUnits_append_cons (h : feedUnits directories (before ++ change :: after) = .ok units) :
    ∃ earlier unit? later, feedUnits directories before = .ok earlier ∧
      feedUnit? directories change = .ok unit? ∧ units = earlier ++ unit?.toList ++ later := by
  unfold feedUnits at h
  obtain ⟨founds, hf, rfl⟩ := Except.map_eq_ok_iff.mp h
  rw [List.mapM_append] at hf
  obtain ⟨earlier, he, hf⟩ := Except.bind_eq_ok_iff.mp hf
  obtain ⟨rest, hr, hf⟩ := Except.bind_eq_ok_iff.mp hf
  cases hf
  rw [List.mapM_cons] at hr
  obtain ⟨unit?, hu, hr⟩ := Except.bind_eq_ok_iff.mp hr
  obtain ⟨later, -, hr⟩ := Except.bind_eq_ok_iff.mp hr
  cases hr
  refine ⟨earlier.reduceOption, unit?, later.reduceOption, ?_, hu, ?_⟩
  · exact Except.map_eq_ok_iff.mpr ⟨earlier, he, rfl⟩
  · cases unit? with
    | none => simp [List.reduceOption_append, List.reduceOption_cons_of_none]
    | some unit => simp [List.reduceOption_append, List.reduceOption_cons_of_some]

/-- A file at a path is written as a unit from an input directory. -/
def Written (detection : Detection) (index : Nat) (identity path : String) : Prop :=
  ∃ unit ∈ detection.changes.actionable, unit.identity = identity ∧
    unit.origin = .directory index ∧ unit.kind.needsWrite = true ∧
    unit.content.Same (.file path) ∧
    ∀ w bytes, unit.load w = .ok bytes → w.fileAt? path = some bytes

theorem settle_origin (changes : ChangeSet) (unit : BuildUnit) :
    (settle changes unit).origin = unit.origin := by
  unfold settle
  split
  · rfl
  · rfl

/-- The first unit of a feed that has an identity is written, if no archive has the identity. -/
theorem written_of_find? {loose : List BuildUnit}
    (h : detect w invocation cache full = .ok detection)
    (hl : looseUnits w invocation full = .ok loose)
    (absent : detection.fingerprints[identity]? = none)
    (hf : loose.find? (·.identity == identity) = some unit)
    (origin : unit.origin = .directory index) (write : unit.kind.needsWrite = true)
    (content : unit.content.Same (.file path)) : Written detection index identity path := by
  obtain ⟨scans, found, -, hu, prints, changes⟩ := detect_eq_ok h
  rw [hl] at hu
  cases hu
  rw [prints, getElem?_fingerprintsOf, Option.map_eq_none_iff] at absent
  have taken := Invocation.mem_first_of_find? absent hf
  have named : unit.identity = identity := by
    simpa using List.find?_some hf
  refine ⟨settle (memberChanges (archivedUnits scans) (if full then ∅ else cache.fingerprints)) unit,
    ?_, ?_, ?_, ?_, ?_, ?_⟩
  · rw [changes]
    exact mem_plan_iff.mpr (.inr (.inr (.inl ⟨unit, taken, write, rfl⟩)))
  · rw [settle_identity, named]
  · rw [settle_origin, origin]
  · rw [settle_needsWrite, write]
  · rw [settle_content]
    exact content
  · intro w bytes load
    apply BuildUnit.fileAt?_of_load _ load
    rw [settle_content]
    exact content

/-- A change is detected as a file: the feed has a unit for it, which is written unless an archive
has its identity or an earlier change has led to a unit of that. -/
structure Detects (directories : List String) (change : FileChange) (index : Nat)
    (identity path : String) : Prop where
  listed : LeadsTo directories change index identity path
  written : change.kind.needsWrite = true →
    ∀ (w : Workspace) (invocation : Invocation) (cache : Cache) (before after : List FileChange)
      (detection : Detection), invocation.directories = directories →
      detect w (invocation.withChanges (.listed (before ++ change :: after))) cache false
        = .ok detection →
      detection.fingerprints[identity]? = none →
      (∀ unit ∈ listedUnits directories before, unit.identity ≠ identity) →
      Written detection index identity path

theorem LeadsTo.detects (h : LeadsTo directories change index identity path) :
    Detects directories change index identity path := by
  refine ⟨h, fun write w invocation cache before after detection hd detected absent earlier => ?_⟩
  subst hd
  obtain ⟨spelled, same, hu⟩ := h
  let unit : BuildUnit := ⟨identity, .directory index, change.kind, .file spelled⟩
  have writes : listedUnit? change.kind identity index spelled = some unit :=
    listedUnit?_of_needsWrite write
  obtain ⟨-, loose, -, hl, -⟩ := detect_eq_ok detected
  have feed : feedUnits invocation.directories (before ++ change :: after) = .ok loose := hl
  obtain ⟨others, unit?, later, hb, hc, rfl⟩ := feedUnits_append_cons feed
  rw [hu, writes] at hc
  cases hc
  rw [listedUnits_eq hb] at earlier
  have none : others.find? (·.identity == identity) = none := by
    rw [List.find?_eq_none]
    intro unit hm
    simpa using earlier unit hm
  have first : (others ++ [unit] ++ later).find? (·.identity == identity) = some unit := by
    rw [List.append_assoc, List.find?_append, none]
    simp [unit]
  exact written_of_find? detected hl absent first rfl write same

/-- A listed file is detected as what it is if it is named with its directory in front, and also if
it is named from its directory and not mistaken for one of the other kind. Either name may stand for
the other. -/
theorem detects_of_path_or_join (listed : root ∈ directories)
    (relative : Path.isAbsolute path = false) (unrooted : Unrooted path)
    (hi : Identity.normalize? path = some identity) :
    ∃ found index, directories[index]? = some found ∧ Path.same found root = true ∧ ∀ kind,
      Detects directories ⟨root, Path.join root path, kind⟩ index identity (Path.join root path) ∧
      (Unmistaken root path →
        Detects directories ⟨root, path, kind⟩ index identity (Path.join root path) ∧
        Alike directories ⟨root, path, kind⟩ ⟨root, Path.join root path, kind⟩) := by
  obtain ⟨found, index, hf, there, same⟩ := exists_find? listed
  refine ⟨found, index, there, beq_iff_eq.mpr same, fun kind => ?_⟩
  have joined : LeadsTo directories ⟨root, Path.join root path, kind⟩ index identity
      (Path.join root path) :=
    leadsTo_of_respells hf same relative hi (respells_join unrooted relative)
  refine ⟨joined.detects, fun unmistaken => ?_⟩
  have plain : LeadsTo directories ⟨root, path, kind⟩ index identity (Path.join root path) :=
    leadsTo_of_respells hf same relative hi (respells_path unmistaken unrooted relative)
  exact ⟨plain.detects, plain.alike joined rfl⟩

/-- A run over two directories for which a file of the second one is listed. -/
def overTwo : Invocation :=
  { Invocation.withoutInputs with
    directories := ["c", "d"]
    changes := .listed [⟨"d", "a/x", .modified⟩] }

theorem detects_of_path_or_join_second : ∃ found index, ["c", "d"][index]? = some found ∧
    Path.same found "d" = true ∧
    (∀ kind, Detects ["c", "d"] ⟨"d", "d/a/x", kind⟩ index "a/x" "d/a/x" ∧
      Detects ["c", "d"] ⟨"d", "a/x", kind⟩ index "a/x" "d/a/x" ∧
      Alike ["c", "d"] ⟨"d", "a/x", kind⟩ ⟨"d", "d/a/x", kind⟩) ∧
    ∃ detection, detect .empty overTwo ⟨"m", toolVersion, .unknown⟩ false = .ok detection ∧
      Written detection index "a/x" "d/a/x" := by
  have joined : Path.join "d" "a/x" = "d/a/x" := by cbv
  have relative : Path.isAbsolute "a/x" = false := by cbv
  have unrooted : Unrooted "a/x" := by
    have steps : Path.steps "a/x" = ["a", "x"] := by cbv
    simp [Unrooted, steps]
  have unmistaken : Unmistaken "d" "a/x" := .inr (by decide)
  obtain ⟨found, index, there, same, each⟩ :=
    @detects_of_path_or_join ["c", "d"] "d" "a/x" "a/x" (by decide) relative unrooted (by decide)
  rw [joined] at each
  have loose : looseUnits .empty overTwo false
      = .ok [⟨"a/x", .directory 1, .modified, .file "d/a/x"⟩] := by cbv
  have nothing : (Cache.mk "m" toolVersion .unknown).fingerprints = ∅ := rfl
  have detected := detect_of_no_archives rfl (.inr nothing) loose
  have plain := ((each .modified).2 unmistaken).1
  refine ⟨found, index, there, same, fun kind => ⟨(each kind).1, (each kind).2 unmistaken⟩,
    _, detected, ?_⟩
  apply plain.written rfl .empty overTwo _ [] [] _ rfl detected
  · simp
  · have silent : listedUnits ["c", "d"] [] = [] := rfl
    simp [silent]

/-- A directory with a directory of the same name and a file in that. -/
def nested : Workspace :=
  ((Workspace.empty.insert ["d"] .directory).insert ["d", "d"] .directory).insert ["d", "d", "x"]
    (.file [97])

/-- The name of a file from its directory may begin with that of the directory, and is then taken
for the name of another file. -/
theorem not_detects_of_path_or_join : ¬∀ (w : Workspace) (directories : List String)
    (root path identity : String) (content : Bytes), root ∈ directories →
    Path.isAbsolute path = false → ".." ∉ Path.steps path →
    w.read (Path.join root path) = .ok content → Identity.normalize? path = some identity →
    ∃ index, ∀ kind,
      Detects directories ⟨root, path, kind⟩ index identity (Path.join root path) ∧
      Detects directories ⟨root, Path.join root path, kind⟩ index identity
        (Path.join root path) := by
  intro claim
  have relative : Path.isAbsolute "d/x" = false := by cbv
  have read : nested.read (Path.join "d" "d/x") = .ok [97] := by cbv
  obtain ⟨index, each⟩ := claim nested ["d"] "d" "d/x" "d/x" [97] (by decide) relative (by decide)
    read (by decide)
  have unmistaken := unmistaken_of_leadsTo (by decide) relative rfl (each .modified).1.listed
  revert unmistaken
  unfold Unmistaken
  decide

end Detection

end MethodTrace
