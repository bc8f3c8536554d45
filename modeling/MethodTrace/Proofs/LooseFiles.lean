import MethodTrace.Run.Detection
import MethodTrace.Proofs.MemberChanges

/-!
The files under the input directories, in the order in which a run meets them.
-/

namespace MethodTrace

namespace Place

/-- The places through which a path leads, from the first one to its own. -/
def trail (path : String) : List Place :=
  (Path.segments path.toList).scanl after (if Path.isAbsolute path then ["/"] else [])

theorem namesFrom?_eq_some {directory place : Place} {names : List String}
    (h : directory.namesFrom? place = some names) :
    place = directory ++ names ∧ names.head? ≠ some ".." ∧ names.head? ≠ some "/" := by
  unfold namesFrom? at h
  split at h
  next hp =>
    obtain ⟨rest, rfl⟩ := List.isPrefixOf_iff_prefix.mp hp
    rw [List.drop_left] at h
    split at h
    · cases h
    · cases h
    next hup hroot =>
      cases h
      refine ⟨rfl, ?_, ?_⟩
      · rintro hn
        obtain ⟨rest, rfl⟩ := List.head?_eq_some_iff.mp hn
        exact hup rest rfl
      · rintro hn
        obtain ⟨rest, rfl⟩ := List.head?_eq_some_iff.mp hn
        exact hroot rest rfl
  next => cases h

end Place

namespace Workspace

variable {v w : Workspace} {place : Place} {root : String} {names : List String} {bytes : Bytes}

/-- Where a path leads depends only on what is on the way. -/
theorem place_congr (h : ∀ place ∈ Place.trail root, v.node? place = w.node? place) :
    v.place root = w.place root := by
  have steps : ∀ (steps : List String) (place : Place),
      (∀ other ∈ steps.scanl Place.after place, v.node? other = w.node? other) →
        steps.foldlM v.follow place = steps.foldlM w.follow place := by
    intro steps
    induction steps with
    | nil => exact fun _ _ => rfl
    | cons step steps ih =>
      intro place h
      rw [List.scanl_cons] at h
      have here := h place (by simp)
      have same : v.follow place step = w.follow place step := by
        unfold follow
        rw [here]
      rw [List.foldlM_cons, List.foldlM_cons, same]
      cases hf : w.follow place step with
      | error fault => rfl
      | ok next =>
        have after := (follow_eq_ok hf).2
        exact ih next fun other ho => h other (List.mem_cons_of_mem _ (after ▸ ho))
  unfold Workspace.place followAll
  rw [steps _ _ h]

/-- The files under an input directory, which may be missing, with the names that lead to them. -/
def filesUnder (w : Workspace) (root : String) : List (List String × Bytes) :=
  match w.place root with
  | .error _ => []
  | .ok place => w.filesBelow place

theorem mem_filesBelow_iff :
    (names, bytes) ∈ w.filesBelow place ↔ w.nodes[place ++ names]? = some (.file bytes) ∧
      place.namesFrom? (place ++ names) = some names := by
  unfold filesBelow
  simp only [List.mem_filterMap, Prod.exists]
  constructor
  · rintro ⟨other, node, hm, h⟩
    cases node with
    | directory => cases h
    | file content =>
      obtain ⟨found, hf, he⟩ := Option.map_eq_some_iff.mp h
      cases he
      have ho := (Place.namesFrom?_eq_some hf).1
      subst ho
      exact ⟨Std.ExtTreeMap.mem_toList_iff_getElem?_eq_some.mp hm, hf⟩
  · rintro ⟨hm, hf⟩
    exact ⟨_, _, Std.ExtTreeMap.mem_toList_iff_getElem?_eq_some.mpr hm, by simp [hf]⟩

theorem mem_filesUnder_iff :
    (names, bytes) ∈ w.filesUnder root ↔ w.Reaches root ∧
      w.nodes[Place.named root ++ names]? = some (.file bytes) ∧
        (Place.named root).namesFrom? (Place.named root ++ names) = some names := by
  unfold filesUnder
  split
  next fault h =>
    constructor
    · intro h
      cases h
    · rintro ⟨hr, _⟩
      rw [show w.place root = .ok (Place.named root) from hr] at h
      cases h
  next place h =>
    obtain ⟨hr, rfl⟩ := place_eq_ok_iff.mp h
    rw [mem_filesBelow_iff]
    exact ⟨fun h => ⟨hr, h⟩, fun h => h.2⟩

/-- One file comes before another under a directory. -/
def Before (root : String) (first second : List String × Bytes) : Prop :=
  compare (Place.named root ++ first.1) (Place.named root ++ second.1) = .lt

instance (root : String) : Std.Irrefl (Before root) where
  irrefl file := by simp [Before, Std.ReflCmp.compare_self]

instance (root : String) : Std.Antisymm (Before root) where
  antisymm first second h h' := by
    have := Std.OrientedCmp.gt_of_lt (show compare _ _ = _ from h)
    rw [show compare _ _ = _ from h'] at this
    cases this

theorem pairwise_filesUnder (w : Workspace) (root : String) :
    (w.filesUnder root).Pairwise (Before root) := by
  unfold filesUnder
  split
  · exact .nil
  next place h =>
    obtain ⟨_, rfl⟩ := place_eq_ok_iff.mp h
    unfold filesBelow
    rw [List.pairwise_filterMap]
    refine Std.ExtTreeMap.ordered_keys_toList.imp ?_
    rintro ⟨first, node⟩ ⟨second, other⟩ hlt file hf file' hf'
    cases node with
    | directory => cases hf
    | file bytes =>
      cases other with
      | directory => cases hf'
      | file bytes' =>
        obtain ⟨names, hn, rfl⟩ := Option.map_eq_some_iff.mp hf
        obtain ⟨names', hn', rfl⟩ := Option.map_eq_some_iff.mp hf'
        rw [(Place.namesFrom?_eq_some hn).1, (Place.namesFrom?_eq_some hn').1] at hlt
        exact hlt

/-- The files under a directory depend only on what is on the way to it and below it. -/
theorem filesUnder_congr (way : ∀ place ∈ Place.trail root, v.node? place = w.node? place)
    (below : ∀ place, Place.named root <+: place → v.nodes[place]? = w.nodes[place]?) :
    v.filesUnder root = w.filesUnder root := by
  have reaches : v.Reaches root ↔ w.Reaches root := by
    unfold Reaches
    rw [place_congr way]
  refine (v.pairwise_filesUnder root).eq_of_mem_iff (w.pairwise_filesUnder root) ?_
  rintro ⟨names, bytes⟩
  rw [mem_filesUnder_iff, mem_filesUnder_iff, reaches, below _ (List.prefix_append _ _)]

/-- The files with names of some kind are met in the same order wherever they are the same. -/
theorem filter_filesUnder_congr {p : List String → Bool}
    (h : ∀ names bytes, p names = true →
      ((names, bytes) ∈ v.filesUnder root ↔ (names, bytes) ∈ w.filesUnder root)) :
    (v.filesUnder root).filter (fun file => p file.1)
      = (w.filesUnder root).filter (fun file => p file.1) := by
  refine ((pairwise_filesUnder v root).filter _).eq_of_mem_iff
    ((pairwise_filesUnder w root).filter _) ?_
  rintro ⟨names, bytes⟩
  rw [List.mem_filter, List.mem_filter]
  constructor
  · rintro ⟨hm, hp⟩
    exact ⟨(h names bytes hp).mp hm, hp⟩
  · rintro ⟨hm, hp⟩
    exact ⟨(h names bytes hp).mpr hm, hp⟩

end Workspace

theorem findSome?_congr {α β : Type} {f g : α → Option β} {xs : List α}
    (h : ∀ x ∈ xs, f x = g x) : xs.findSome? f = xs.findSome? g := by
  induction xs with
  | nil => rfl
  | cons x xs ih =>
    rw [List.findSome?_cons, List.findSome?_cons, h x (by simp), ih fun y hy => h y (by simp [hy])]

/-- A text that can be the name of a file in a directory. -/
structure IsName (text : String) : Prop where
  ne_empty : text ≠ ""
  ne_dot : text ≠ "."
  ne_up : text ≠ ".."
  slash_not_mem : '/' ∉ text.toList

theorem Place.named_foldl_join {names : List String} {root : String}
    (h : ∀ name ∈ names, IsName name) :
    Place.named (names.foldl Path.join root) = Place.named root ++ names := by
  induction names generalizing root with
  | nil => simp
  | cons name names ih =>
    have hn := h name (by simp)
    have relative := Path.isAbsolute_eq_false hn.slash_not_mem
    have step : Place.named (Path.join root name) = Place.named root ++ [name] := by
      rw [Place.named_join relative, Path.segments_of_not_mem hn.slash_not_mem,
        String.ofList_toList]
      simp [Place.after, Path.isBlank, hn.ne_empty, hn.ne_dot, hn.ne_up]
    rw [List.foldl_cons, ih fun other ho => h other (by simp [ho]), step, List.append_assoc,
      List.singleton_append]

/-- The bytes of the file to which a path leads, whether or not it can be followed. -/
def Workspace.fileAt? (w : Workspace) (path : String) : Option Bytes :=
  match w.node? (Place.named path) with
  | some (.file bytes) => some bytes
  | _ => none

theorem Workspace.fileAt?_eq_some_iff {w : Workspace} {path : String} {bytes : Bytes} :
    w.fileAt? path = some bytes ↔ w.node? (Place.named path) = some (.file bytes) := by
  unfold fileAt?
  split
  next content h => simp [h]
  next h =>
    constructor
    · intro hn
      cases hn
    · intro hn
      exact absurd hn (h bytes)

namespace Invocation

open Detection

variable {invocation : Invocation} {v w : Workspace} {identity : String}

/-- The identity of a file under an input directory. -/
def identityAt? (root : String) (names : List String) : Option String :=
  (fileUnit root 0 names).toOption.map (·.identity)

/-- A file under an input directory with its identity. -/
def looseFile? (root : String) (file : List String × Bytes) : Option (String × Bytes) :=
  (identityAt? root file.1).map fun identity => (identity, file.2)

/-- The files under the input directories with their identities, in the order of a walk. -/
def looseFiles (invocation : Invocation) (w : Workspace) : List (String × Bytes) :=
  invocation.directories.flatMap fun root => (w.filesUnder root).filterMap (looseFile? root)

/-- The content of the first file of an identity under the input directories. -/
def firstFile? (invocation : Invocation) (w : Workspace) (identity : String) : Option Bytes :=
  ((invocation.looseFiles w).find? (·.1 == identity)).map (·.2)

/-- The files under the input directories are below them and have names that files can have. -/
def WellNamed (invocation : Invocation) (w : Workspace) : Prop :=
  ∀ root ∈ invocation.directories, ∀ file ∈ w.filesUnder root,
    file.1 ≠ [] ∧ ∀ name ∈ file.1, IsName name

/-- A unit stands for a file that a walk has met. -/
structure Walked (invocation : Invocation) (w : Workspace) (unit : BuildUnit)
    (file : String × Bytes) : Prop where
  identity : unit.identity = file.1
  normal : Identity.IsNormal file.1
  kind : unit.kind = .added
  content : ∃ path, unit.content = .file path ∧ w.fileAt? path = some file.2 ∧
    ∃ root ∈ invocation.directories, Place.named root <+: Place.named path

theorem rootUnits_eq (w : Workspace) (root : String) (index : Nat) :
    rootUnits w root index = (w.filesUnder root).mapM fun (names, _) => fileUnit root index names := by
  unfold rootUnits Workspace.filesUnder
  cases w.place root with
  | error fault => rfl
  | ok place => rfl

theorem fileUnit_eq_ok {root : String} {index : Nat} {names : List String} {unit : BuildUnit}
    (h : fileUnit root index names = .ok unit) :
    identityAt? root names = some unit.identity ∧ Identity.IsNormal unit.identity ∧
      unit.kind = .added ∧ unit.content = .file (names.foldl Path.join root) := by
  unfold fileUnit at h
  obtain ⟨identity, hi, h⟩ := Except.bind_eq_ok_iff.mp h
  cases h
  refine ⟨?_, isNormal_of_identityOf hi, rfl, rfl⟩
  unfold identityAt? fileUnit
  simp only [hi, bind, Except.bind]
  rfl

/-- A file under an input directory is there. -/
theorem fileAt?_of_mem {root : String} {names : List String} {bytes : Bytes}
    (h : (names, bytes) ∈ w.filesUnder root) (hn : names ≠ []) (hw : ∀ name ∈ names, IsName name) :
    w.fileAt? (names.foldl Path.join root) = some bytes := by
  obtain ⟨_, hm, _⟩ := Workspace.mem_filesUnder_iff.mp h
  obtain ⟨name, rest, rfl⟩ := List.exists_cons_of_ne_nil hn
  have first := hw name (by simp)
  have top : (Place.named root ++ name :: rest).isTop = false := by
    unfold Place.isTop
    rw [Bool.or_eq_false_iff]
    constructor
    · simp [first.ne_up]
    · rw [beq_eq_false_iff_ne]
      intro he
      have slash : name = "/" := by
        have : name ∈ ["/"] := he ▸ by simp
        simpa using this
      exact first.slash_not_mem (by simp [slash])
  rw [Workspace.fileAt?_eq_some_iff, Place.named_foldl_join hw, Workspace.node?, top]
  exact hm

theorem forall₂_walked_root {root : String} {index : Nat} {units : List BuildUnit}
    (named : invocation.WellNamed w) (hr : root ∈ invocation.directories)
    (h : rootUnits w root index = .ok units) :
    List.Forall₂ (invocation.Walked w) units ((w.filesUnder root).filterMap (looseFile? root)) := by
  have each : ∀ (files : List (List String × Bytes)) (units : List BuildUnit),
      (∀ file ∈ files, file ∈ w.filesUnder root) →
      (files.mapM fun (names, _) => fileUnit root index names) = .ok units →
      List.Forall₂ (invocation.Walked w) units (files.filterMap (looseFile? root)) := by
    intro files
    induction files with
    | nil =>
      intro units _ h
      cases h
      exact .nil
    | cons file files ih =>
      intro units hm h
      obtain ⟨names, bytes⟩ := file
      rw [List.mapM_cons] at h
      obtain ⟨unit, hu, h⟩ := Except.bind_eq_ok_iff.mp h
      obtain ⟨others, ho, h⟩ := Except.bind_eq_ok_iff.mp h
      cases h
      obtain ⟨identity, normal, kind, content⟩ := fileUnit_eq_ok hu
      have there := hm (names, bytes) (by simp)
      obtain ⟨below, names'⟩ := named root hr _ there
      have loose : looseFile? root (names, bytes) = some (unit.identity, bytes) := by
        rw [looseFile?, identity]
        rfl
      rw [List.filterMap_cons, loose]
      refine .cons ⟨rfl, normal, kind, _, content, fileAt?_of_mem there below names', root, hr, ?_⟩
        (ih others (fun other ho => hm other (by simp [ho])) ho)
      rw [Place.named_foldl_join names']
      exact List.prefix_append _ _
  rw [rootUnits_eq] at h
  exact each _ _ (fun _ h => h) h

/-- The units of a walk stand for the files that it meets, in their order. -/
theorem forall₂_walked {units : List BuildUnit} (named : invocation.WellNamed w)
    (h : walkedUnits w invocation.directories = .ok units) :
    List.Forall₂ (invocation.Walked w) units (invocation.looseFiles w) := by
  unfold walkedUnits at h
  obtain ⟨lists, hl, rfl⟩ := Except.map_eq_ok_iff.mp h
  have each : ∀ (roots : List (String × Nat)) (lists : List (List BuildUnit)),
      (∀ root ∈ roots, root.1 ∈ invocation.directories) →
      (roots.mapM fun root => rootUnits w root.1 root.2) = .ok lists →
      List.Forall₂ (invocation.Walked w) lists.flatten ((roots.map (·.1)).flatMap fun root =>
        (w.filesUnder root).filterMap (looseFile? root)) := by
    intro roots
    induction roots with
    | nil =>
      intro lists _ h
      cases h
      exact .nil
    | cons root roots ih =>
      intro lists hm h
      rw [List.mapM_cons] at h
      obtain ⟨first, hf, h⟩ := Except.bind_eq_ok_iff.mp h
      obtain ⟨others, ho, h⟩ := Except.bind_eq_ok_iff.mp h
      cases h
      rw [List.map_cons, List.flatMap_cons, List.flatten_cons]
      exact List.rel_append (forall₂_walked_root named (hm root (by simp)) hf)
        (ih others (fun other ho => hm other (by simp [ho])) ho)
  have walked := each _ lists (fun root hr => List.fst_mem_of_mem_zipIdx hr) hl
  rwa [List.zipIdx_map_fst] at walked

/-- The first file of an identity is the first one under the first directory that has any. -/
theorem firstFile?_eq (invocation : Invocation) (w : Workspace) (identity : String) :
    invocation.firstFile? w identity = invocation.directories.findSome? fun root =>
      ((w.filesUnder root).filter fun file => identityAt? root file.1 == some identity).head?.map
        (·.2) := by
  have each (root : String) (files : List (List String × Bytes)) :
      ((files.filterMap (looseFile? root)).find? (·.1 == identity)).map (·.2)
        = (files.filter fun file => identityAt? root file.1 == some identity).head?.map (·.2) := by
    induction files with
    | nil => rfl
    | cons file files ih =>
      cases ha : identityAt? root file.1 with
      | none =>
        have loose : looseFile? root file = none := by simp [looseFile?, ha]
        rw [List.filterMap_cons, loose, List.filter_cons, ha]
        exact ih
      | some other =>
        have loose : looseFile? root file = some (other, file.2) := by simp [looseFile?, ha]
        rw [List.filterMap_cons, loose, List.filter_cons, List.find?_cons, ha]
        by_cases he : other = identity
        · simp [he]
        · rw [if_neg (by simpa using he)]
          simp only [beq_eq_false_iff_ne.mpr he]
          exact ih
  unfold firstFile? looseFiles
  rw [List.find?_flatMap, List.map_findSome?]
  congr 1
  funext root
  exact each root _

/-- The first files of an identity are the same where all its files are the same. -/
theorem firstFile?_congr (h : ∀ root ∈ invocation.directories, ∀ names,
    identityAt? root names = some identity → ∀ bytes,
      ((names, bytes) ∈ v.filesUnder root ↔ (names, bytes) ∈ w.filesUnder root)) :
    invocation.firstFile? v identity = invocation.firstFile? w identity := by
  rw [firstFile?_eq, firstFile?_eq]
  apply findSome?_congr
  intro root hr
  rw [@Workspace.filter_filesUnder_congr v w root
    (fun names => identityAt? root names == some identity)
    fun names bytes hp => h root hr names (by simpa using hp) bytes]

end Invocation

end MethodTrace
