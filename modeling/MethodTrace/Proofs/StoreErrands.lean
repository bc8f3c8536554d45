import MethodTrace.Proofs.ConfinedUnits
import MethodTrace.Proofs.MadeDirectories

/-!
What it takes to write or to remove the file of a unit, and what that changes.
-/

namespace MethodTrace

namespace Workspace

variable {v w : Workspace} {place above : Place} {node : Node} {segments : List String}
  {start : Place}

/-- Everything that is there is in a directory. -/
def Rooted (w : Workspace) : Prop :=
  ∀ place step node, w.node? (place ++ [step]) = some node → w.node? place = some .directory

/-- Whatever leads to something that is there is a directory. -/
theorem Rooted.directory (h : w.Rooted) (hn : w.node? place = some node) (hp : above <+: place)
    (ne : above ≠ place) : w.node? above = some .directory := by
  obtain ⟨rest, rfl⟩ := hp
  induction rest using List.reverseRecOn generalizing node with
  | nil => simp at ne
  | append_singleton front last ih =>
    rw [← List.append_assoc] at hn
    have inner := h _ _ _ hn
    by_cases hf : front = []
    · subst hf
      simpa using inner
    · exact ih inner (by simpa using hf)

theorem Rooted.insert {name : String} (h : w.Rooted) (hd : w.node? above = some .directory)
    (top : (above ++ [name]).isTop = false)
    (free : node = .directory ∨ w.node? (above ++ [name]) ≠ some .directory) :
    (w.insert (above ++ [name]) node).Rooted := by
  have kept {place : Place} (hp : w.node? place = some .directory) :
      (w.insert (above ++ [name]) node).node? place = some .directory := by
    rw [node?_insert top]
    split
    next he =>
      subst he
      exact free.elim (congrArg some) (absurd hp)
    next => exact hp
  intro place step other hn
  rw [node?_insert top] at hn
  split at hn
  next he =>
    obtain ⟨rfl, _⟩ := List.append_inj' he rfl
    exact kept hd
  next => exact kept (h place step other hn)

theorem rooted_empty : empty.Rooted := by
  intro place step node hn
  have top : (place ++ [step]).isTop = true := by
    by_contra ht
    simp [node?, ht, empty] at hn
  exact node?_of_isTop (Place.isTop_of_concat top)

theorem Rooted.up (h : w.Rooted) (hd : w.node? place = some .directory) :
    w.node? place.up = some .directory := by
  unfold Place.up
  split
  next => exact hd
  next hr =>
    split
    next ht =>
      refine node?_of_isTop ?_
      simp only [Place.isTop, Bool.or_eq_true, beq_iff_eq, hr, or_false] at ht ⊢
      left
      simpa using ht
    next ht =>
      obtain ⟨front, last, rfl⟩ := (List.eq_nil_or_concat' place).resolve_left (by
        rintro rfl
        exact ht rfl)
      rw [List.dropLast_concat]
      exact h _ _ _ hd

theorem exists_of_foldlM_follow_error {fault : FileFault}
    (h : segments.foldlM w.follow start = .error fault) :
    ∃ front step rest, segments = front ++ step :: rest ∧
      front.foldlM w.follow start = .ok (front.foldl Place.after start) ∧
      w.follow (front.foldl Place.after start) step = .error fault := by
  induction segments generalizing start with
  | nil => cases h
  | cons step segments ih =>
    rw [List.foldlM_cons] at h
    cases hf : w.follow start step with
    | error error =>
      rw [hf] at h
      cases h
      exact ⟨[], step, segments, rfl, rfl, hf⟩
    | ok next =>
      rw [hf] at h
      obtain ⟨_, rfl⟩ := follow_eq_ok hf
      obtain ⟨front, other, rest, rfl, hok, herror⟩ := ih h
      refine ⟨step :: front, other, rest, rfl, ?_, herror⟩
      rw [List.foldlM_cons, hf]
      exact hok

/-- Where something on the way is missing, the directory in which it would be is there. -/
theorem Rooted.of_foldlM_follow_missing (h : w.Rooted) (top : start.isTop = true)
    (hm : segments.foldlM w.follow start = .error .missing) :
    ∃ front step rest above name, segments = front ++ step :: rest ∧
      front.foldl Place.after start = above ++ [name] ∧ w.node? above = some .directory ∧
      w.node? (above ++ [name]) = none := by
  obtain ⟨front, step, rest, hs, hok, hf⟩ := exists_of_foldlM_follow_error hm
  have none : w.node? (front.foldl Place.after start) = none := by
    unfold follow at hf
    split at hf
    next hn => exact hn
    next => cases hf
    next =>
      repeat' split at hf
      all_goals cases hf
  have absent : w.node? (front.foldl Place.after start) ≠ some .directory := by simp [none]
  obtain ⟨inner, last, rfl⟩ := (List.eq_nil_or_concat' front).resolve_left (by
    rintro rfl
    exact absent (node?_of_isTop top))
  rw [List.foldlM_append] at hok
  obtain ⟨place, hi, hl⟩ := Except.bind_eq_ok_iff.mp hok
  obtain rfl := foldlM_follow_eq_ok hi
  rw [List.foldlM_cons] at hl
  obtain ⟨_, hl, _⟩ := Except.bind_eq_ok_iff.mp hl
  have hd := (follow_eq_ok hl).1
  rw [List.foldl_append, List.foldl_cons, List.foldl_nil] at none absent
  have down : (inner.foldl Place.after start).after last
      = inner.foldl Place.after start ++ [last] := by
    unfold Place.after at absent ⊢
    split at absent
    next => exact absurd hd absent
    next blank =>
      rw [if_neg blank]
      split at absent
      next => exact absurd (h.up hd) absent
      next up => rw [if_neg up]
  refine ⟨inner ++ [last], step, rest, inner.foldl Place.after start, last, hs, ?_, hd, ?_⟩
  · rw [List.foldl_append, List.foldl_cons, List.foldl_nil, down]
  · rwa [down] at none

/-- Where no file is in the way and no name is too long, a path can be followed or something on it
is missing. -/
theorem foldlM_follow_of_free (names : ∀ step ∈ segments, step.utf8ByteSize ≤ maxName)
    (free : ∀ front step rest, segments = front ++ step :: rest →
      ∀ bytes, w.node? (front.foldl Place.after start) ≠ some (.file bytes)) :
    segments.foldlM w.follow start = .ok (segments.foldl Place.after start) ∨
      segments.foldlM w.follow start = .error .missing := by
  cases hf : segments.foldlM w.follow start with
  | ok target => exact .inl (congrArg Except.ok (foldlM_follow_eq_ok hf))
  | error fault =>
    right
    obtain ⟨front, step, rest, rfl, _, hs⟩ := exists_of_foldlM_follow_error hf
    have size := names step (by simp)
    unfold follow at hs
    split at hs
    next => exact congrArg Except.error (Except.error.inj hs).symm
    next bytes hb => exact absurd hb (free front step rest rfl bytes)
    next =>
      rw [if_neg (Nat.not_lt.mpr size)] at hs
      repeat' split at hs
      all_goals cases hs

theorem nodes_insert_of_ne {other : Place} (h : place ≠ other) :
    (w.insert place node).nodes[other]? = w.nodes[other]? := by
  simp [insert, h, Std.ExtTreeMap.getElem?_insert, Std.LawfulEqCmp.compare_eq_iff_eq]

theorem nodes_erase_of_ne {other : Place} (h : place ≠ other) :
    (w.erase place).nodes[other]? = w.nodes[other]? := by
  simp [erase, h, Std.ExtTreeMap.getElem?_erase, Std.LawfulEqCmp.compare_eq_iff_eq]

theorem nodes_opened_of_isTop {places : List Place} (top : place.isTop = true) :
    (w.opened places).nodes[place]? = w.nodes[place]? := by
  induction places generalizing w with
  | nil => rfl
  | cons first places ih =>
    rw [opened, List.foldl_cons, ← opened, ih]
    split
    next => rfl
    next hd =>
      refine nodes_insert_of_ne fun he => hd ?_
      rw [he]
      exact node?_of_isTop top

/-- Workspaces are the same if the same is at all places, those that are always directories
included. -/
theorem eq_of_node? (h : ∀ place, v.node? place = w.node? place)
    (top : ∀ place : Place, place.isTop = true → v.nodes[place]? = w.nodes[place]?) : v = w := by
  have nodes : v.nodes = w.nodes := by
    apply Std.ExtTreeMap.ext_getElem?
    intro place
    cases ht : place.isTop with
    | true => exact top place ht
    | false => simpa [node?, ht] using h place
  exact congrArg Workspace.mk nodes

theorem remove_eq_missing {path : String} (h : w.remove path = .error .missing) :
    w.place path = .error .missing ∨
      w.Reaches path ∧ w.node? (Place.named path) = none := by
  unfold remove at h
  cases hp : w.place path with
  | error fault =>
    rw [hp] at h
    cases h
    exact .inl rfl
  | ok target =>
    obtain ⟨reaches, rfl⟩ := place_eq_ok_iff.mp hp
    rw [hp] at h
    dsimp only [bind, Except.bind] at h
    split at h
    next => cases h
    next => cases h
    next hn => exact .inr ⟨reaches, hn⟩

theorem remove_of_missing {path : String} (h : w.place path = .error .missing) :
    w.remove path = .error .missing := by
  unfold remove
  rw [h]
  rfl

theorem erase_eq_self (top : place.isTop = false) (h : w.node? place = none) :
    w.erase place = w := by
  refine eq_of_node? (fun other => ?_) fun other ht => nodes_erase_of_ne ?_
  · rw [node?_erase top]
    split
    next he => rw [he, h]
    next => rfl
  · rintro rfl
    rw [top] at ht
    cases ht

end Workspace

namespace UnitStore

variable {store : UnitStore} {identity : String} {content : Bytes} {place : Place}
  {v w : Workspace}

/-- The path of a store leads through the directories that hold the store, and through others only
if they are there. -/
def Straight (store : UnitStore) (w : Workspace) : Prop :=
  ∀ place ∈ Place.trail store.root,
    place <+: Place.named store.root ∨ w.node? place = some .directory

/-- A path that never leads upwards has no detours. -/
theorem straight_of_up_not_mem (h : ".." ∉ Path.steps store.root) (w : Workspace) :
    store.Straight w := by
  intro place hm
  obtain ⟨front, ⟨rest, hr⟩, rfl⟩ := Place.mem_trail_iff.mp hm
  left
  rw [Place.named_eq, ← hr, List.foldl_append]
  exact Place.prefix_foldl_after fun hm => h (hr ▸ List.mem_append_right front hm)

theorem steps_unitPath (normal : Identity.IsNormal identity) :
    Path.steps (store.unitPath identity)
      = Path.steps store.root ++ Identity.segments identity := by
  unfold unitPath Path.descend
  rw [normal.path_segments]
  exact (Path.foldl_join_of_isStep (fun _ => normal.isStep) store.root).2

theorem origin_unitPath (normal : Identity.IsNormal identity) :
    Place.origin (store.unitPath identity) = Place.origin store.root := by
  have absolute := (Path.foldl_join_of_isStep (fun _ => normal.isStep) store.root).1
  unfold Place.origin unitPath Path.descend
  rw [normal.path_segments, absolute]

theorem named_unitPath (normal : Identity.IsNormal identity) :
    Place.named (store.unitPath identity)
      = Place.named store.root ++ Identity.segments identity :=
  Place.named_descend_of_isNormal normal

/-- The way to a unit is the path of the store and then the first steps of the identity. -/
theorem mem_way_unitPath (normal : Identity.IsNormal identity) :
    place ∈ Place.way (store.unitPath identity) ↔ place ∈ Place.trail store.root ∨
      ∃ front, front <+: (Identity.segments identity).dropLast ∧
        place = Place.named store.root ++ front := by
  have down {front : List String} (hp : front <+: (Identity.segments identity).dropLast) :
      (Path.steps store.root ++ front).foldl Place.after (Place.origin store.root)
        = Place.named store.root ++ front := by
    rw [List.foldl_append, ← Place.named_eq, Place.foldl_after_of_isStep]
    exact fun step hm => normal.isStep (List.mem_of_mem_dropLast (hp.subset hm))
  rw [Place.mem_way_iff, steps_unitPath normal, origin_unitPath normal,
    List.dropLast_append_of_ne_nil normal.segments_ne_nil]
  constructor
  · rintro ⟨front, hp, rfl⟩
    rcases List.prefix_or_prefix_of_prefix hp (List.prefix_append _ _) with hr | ⟨rest, rfl⟩
    · exact .inl (Place.mem_trail_iff.mpr ⟨front, hr, rfl⟩)
    · have inner := (List.prefix_append_right_inj _).mp hp
      exact .inr ⟨rest, inner, down inner⟩
  · rintro (ht | ⟨front, hp, rfl⟩)
    · obtain ⟨front, hp, rfl⟩ := Place.mem_trail_iff.mp ht
      exact ⟨front, hp.trans (List.prefix_append _ _), rfl⟩
    · exact ⟨_, (List.prefix_append_right_inj _).mpr hp, (down hp).symm⟩

theorem trimmed_unitPath (normal : Identity.IsNormal identity) :
    Path.Trimmed (store.unitPath identity) := by
  obtain ⟨front, last, hs⟩ :=
    (List.eq_nil_or_concat' (Identity.segments identity)).resolve_left normal.segments_ne_nil
  have step : Identity.IsStep last := normal.isStep (by simp [hs])
  obtain ⟨before, hb⟩ :=
    Path.segments_join_of_isStep (front.foldl Path.join store.root) step
  refine .inr ⟨before, last, ?_, by simp [Path.isBlank, step.ne_empty, step.ne_dot]⟩
  rw [unitPath, Path.descend, normal.path_segments, hs, List.foldl_append]
  exact hb

theorem exists_parent?_unitPath (normal : Identity.IsNormal identity) :
    ∃ up, Path.parent? (store.unitPath identity) = some up := by
  rw [← Option.isSome_iff_exists, Option.isSome_iff_ne_none]
  intro none
  have steps := Path.parent?_eq_none none
  rw [steps_unitPath normal, List.append_eq_nil_iff] at steps
  exact normal.segments_ne_nil steps.2

theorem unitPath_ne_empty (normal : Identity.IsNormal identity) :
    store.unitPath identity ≠ "" := by
  intro he
  have steps := @steps_unitPath store identity normal
  rw [he, show Path.steps "" = [] by decide] at steps
  exact normal.segments_ne_nil (List.append_eq_nil_iff.mp steps.symm).2

end UnitStore

/-- What is done for a unit in a store: the file at a path gets some bytes or is removed. -/
structure Errand where
  path : String
  file? : Option Bytes

namespace Errand

variable {errand other : Errand} {v w : Workspace} {place : Place}

def target (errand : Errand) : Place :=
  Place.named errand.path

/-- No file is on the way, and no directory at the end. -/
structure Possible (errand : Errand) (v : Workspace) : Prop where
  way : ∀ place ∈ Place.way errand.path, ∀ bytes, v.node? place ≠ some (.file bytes)
  free : v.node? errand.target ≠ some .directory

/-- What an errand makes of a workspace: what is written has directories on the way. -/
def result (errand : Errand) (v : Workspace) : Workspace :=
  match errand.file? with
  | some bytes => (v.opened (Place.way errand.path)).insert errand.target (.file bytes)
  | none => v.erase errand.target

theorem node?_result (h : errand.Possible v) (place : Place) :
    (errand.result v).node? place =
      if place = errand.target then errand.file?.map .file
      else if errand.file?.isSome = true ∧ place ∈ Place.way errand.path then some .directory
      else v.node? place := by
  have top := Workspace.isTop_eq_false h.free
  unfold result
  split
  next bytes hf =>
    rw [Workspace.node?_insert top, Workspace.node?_opened, hf]
    simp
  next hf =>
    rw [Workspace.node?_erase top, hf]
    simp

/-- The places that are always directories are left alone. -/
theorem nodes_result (h : errand.Possible v) (top : place.isTop = true) :
    (errand.result v).nodes[place]? = v.nodes[place]? := by
  have target := Workspace.isTop_eq_false h.free
  have ne : errand.target ≠ place := by
    intro he
    rw [he, top] at target
    cases target
  unfold result
  split
  next bytes _ =>
    rw [Workspace.nodes_insert_of_ne ne, Workspace.nodes_opened_of_isTop top]
  next => rw [Workspace.nodes_erase_of_ne ne]

theorem keepsDirectories_result (h : errand.Possible v) :
    Workspace.KeepsDirectories v (errand.result v) := by
  intro place hd
  have ne : place ≠ errand.target := by
    rintro rfl
    exact h.free hd
  rw [node?_result h, if_neg ne, hd, ite_self]

theorem rooted_result (h : errand.Possible v) (rooted : v.Rooted)
    (outside : errand.target ∉ Place.way errand.path) : (errand.result v).Rooted := by
  have onWay (hw : errand.file?.isSome = true) {place : Place}
      (hm : place ∈ Place.way errand.path ∨ place.isTop = true) :
      (errand.result v).node? place = some .directory := by
    rcases hm with hm | ht
    · have ne : place ≠ errand.target := by
        rintro rfl
        exact outside hm
      rw [node?_result h, if_neg ne, if_pos ⟨hw, hm⟩]
    · exact Workspace.node?_of_isTop ht
  intro place step node hn
  rw [node?_result h] at hn
  split at hn
  next he =>
    cases hf : errand.file? with
    | none =>
      rw [hf] at hn
      cases hn
    | some bytes => exact onWay (by rw [hf]; rfl) (Place.mem_way_of_named he.symm)
  next =>
    split at hn
    next hw => exact onWay hw.1 (Place.mem_way_of_concat hw.2)
    next => exact keepsDirectories_result h _ (rooted _ _ _ hn)

/-- Errands that do not stand in each other's way: the files are at different places, and what is
removed is not on the way to the other one, nor the other way round. -/
structure Apart (errand other : Errand) : Prop where
  target : errand.target ≠ other.target
  way : errand.file? = none ∨ other.file? = none →
    errand.target ∉ Place.way other.path ∧ other.target ∉ Place.way errand.path

/-- Errands that do not stand in each other's way can be done in either order. -/
theorem swap (apart : errand.Apart other) (first : errand.Possible v)
    (second : other.Possible (errand.result v)) :
    other.Possible v ∧ errand.Possible (other.result v) ∧
      other.result (errand.result v) = errand.result (other.result v) := by
  have after := node?_result first
  -- what is written cannot be on the way to the other one, or that would not be possible any more
  have beside : errand.target ∉ Place.way other.path := by
    intro hm
    cases hf : errand.file? with
    | none => exact (apart.way (.inl hf)).1 hm
    | some bytes => exact second.way _ hm bytes (by rw [after, if_pos rfl, hf]; rfl)
  have beside' : other.target ∉ Place.way errand.path := by
    intro hm
    cases hf : errand.file? with
    | none => exact (apart.way (.inl hf)).2 hm
    | some bytes =>
      exact second.free (by rw [after, if_neg apart.target.symm, if_pos ⟨by rw [hf]; rfl, hm⟩])
  have possible : other.Possible v := by
    constructor
    · intro place hm bytes hf
      have ne : place ≠ errand.target := fun he => beside (he ▸ hm)
      have free : ¬(errand.file?.isSome = true ∧ place ∈ Place.way errand.path) :=
        fun ⟨_, hp⟩ => first.way place hp bytes hf
      exact second.way place hm bytes (by rw [after, if_neg ne, if_neg free, hf])
    · intro hd
      exact second.free (by
        rw [after, if_neg apart.target.symm, if_neg fun ⟨_, hp⟩ => beside' hp, hd])
  have instead := node?_result possible
  have possible' : errand.Possible (other.result v) := by
    constructor
    · intro place hm bytes
      have ne : place ≠ other.target := fun he => beside' (he ▸ hm)
      rw [instead, if_neg ne]
      split
      · simp
      · exact first.way place hm bytes
    · rw [instead, if_neg apart.target, if_neg fun ⟨_, hp⟩ => beside hp]
      exact first.free
  refine ⟨possible, possible', Workspace.eq_of_node? (fun place => ?_) fun place top => ?_⟩
  · rw [node?_result second, node?_result possible', after, instead]
    by_cases he : place = errand.target
    · subst he
      simp [apart.target, beside]
    · by_cases ho : place = other.target
      · subst ho
        simp [apart.target.symm, beside']
      · simp only [he, ho, if_false]
        split
        · simp
        · rfl
  · rw [nodes_result second top, nodes_result first top, nodes_result possible' top,
      nodes_result possible top]

end Errand

namespace UnitStore

variable {store : UnitStore} {identity other : String} {content : Bytes} {place : Place}
  {u : Unit} {v w : Workspace}

def writing (store : UnitStore) (identity : String) (content : Bytes) : Errand :=
  ⟨store.unitPath identity, some (encode store.version content)⟩

def removal (store : UnitStore) (identity : String) : Errand :=
  ⟨store.unitPath identity, none⟩

/-- The way to a unit leads through what holds its place or through directories that are there. -/
theorem Straight.mem_way (straight : store.Straight v) (normal : Identity.IsNormal identity)
    (h : place ∈ Place.way (store.unitPath identity)) :
    (place <+: Place.named (store.unitPath identity) ∧
        place ≠ Place.named (store.unitPath identity)) ∨ v.node? place = some .directory := by
  obtain ⟨last, hl⟩ : ∃ last,
      Identity.segments identity = (Identity.segments identity).dropLast ++ [last] :=
    ⟨_, (List.dropLast_append_getLast normal.segments_ne_nil).symm⟩
  have within {front : List String} (hf : front <+: (Identity.segments identity).dropLast) :
      Place.named store.root ++ front <+: Place.named (store.unitPath identity) ∧
        Place.named store.root ++ front ≠ Place.named (store.unitPath identity) := by
    rw [named_unitPath normal, List.prefix_append_right_inj]
    refine ⟨hf.trans (List.dropLast_prefix _), fun he => ?_⟩
    have long := congrArg List.length (List.append_cancel_left he)
    have short := hf.length_le
    rw [hl, List.length_append] at long
    simp at long short
    omega
  rcases (mem_way_unitPath normal).mp h with ht | ⟨front, hf, rfl⟩
  · rcases straight place ht with hp | hd
    · obtain ⟨inner, ne⟩ := within (List.nil_prefix)
      rw [List.append_nil] at inner ne
      refine .inl ⟨hp.trans inner, ?_⟩
      rintro rfl
      exact ne (inner.eq_of_length (inner.length_le.antisymm hp.length_le))
    · exact .inr hd
  · exact .inl (within hf)

/-- A unit is stored exactly if that is possible and its path is admissible. -/
theorem runs_write_iff (normal : Identity.IsNormal identity) (straight : store.Straight v) :
    Runs (store.write identity content) v u w ↔ Path.Admissible (store.unitPath identity) ∧
      (store.writing identity content).Possible v ∧
      w = (store.writing identity content).result v := by
  obtain ⟨up, hp⟩ := @exists_parent?_unitPath store identity normal
  have trimmed := @trimmed_unitPath store identity normal
  obtain ⟨_, _, _, _, above⟩ := Path.parent?_eq_some hp
  have parts : Runs (store.write identity content) v u w ↔
      ∃ s, Runs (Action.createDirectories (CacheError.io up) up) v () s ∧
        s.write (store.unitPath identity) (encode store.version content) = .ok w := by
    unfold write
    extract_lets path rest
    split
    next directory hd =>
      obtain rfl := Option.some.inj (hp.symm.trans hd)
      rw [Runs.bind_iff]
      exact ⟨fun ⟨_, s, hs, h⟩ => ⟨s, hs, Action.change_iff.mp h⟩,
        fun ⟨s, hs, h⟩ => ⟨(), s, hs, Action.change_iff.mpr h⟩⟩
    next hn => exact absurd hp (hn up)
  rw [parts]
  constructor
  · rintro ⟨s, hs, h⟩
    obtain ⟨_, files, rfl⟩ := (Action.runs_createDirectories_iff above).mp hs
    obtain ⟨reaches, free, rfl⟩ := Workspace.write_eq_ok_iff.mp h
    obtain ⟨_, admissible, _⟩ := (Workspace.reaches_iff_way trimmed).mp reaches
    rw [← Place.way_of_parent? hp] at files free ⊢
    refine ⟨admissible, ⟨files, fun hd => free ?_⟩, rfl⟩
    rw [Workspace.node?_opened]
    split
    · rfl
    · exact hd
  · rintro ⟨admissible, possible, rfl⟩
    have outside : Place.named (store.unitPath identity)
        ∉ Place.way (store.unitPath identity) := by
      intro hm
      rcases straight.mem_way normal hm with ⟨_, ne⟩ | hd
      · exact ne rfl
      · exact possible.free hd
    refine ⟨_, (Action.runs_createDirectories_iff above).mpr ⟨admissible.of_parent? hp, ?_, rfl⟩,
      Workspace.write_eq_ok_iff.mpr ⟨?_, ?_, ?_⟩⟩
    · rw [← Place.way_of_parent? hp]
      exact possible.way
    · refine (Workspace.reaches_iff_way trimmed).mpr
        ⟨unitPath_ne_empty normal, admissible, fun place hm => ?_⟩
      rw [← Place.way_of_parent? hp, Workspace.node?_opened, if_pos hm]
    · rw [← Place.way_of_parent? hp, Workspace.node?_opened, if_neg outside]
      exact possible.free
    · rw [← Place.way_of_parent? hp]
      rfl

/-- Where a unit is stored, its path can be followed. -/
theorem Straight.reaches (straight : store.Straight v) (normal : Identity.IsNormal identity)
    (rooted : v.Rooted) (admissible : Path.Admissible (store.unitPath identity)) {node : Node}
    (h : v.node? (Place.named (store.unitPath identity)) = some node) :
    v.Reaches (store.unitPath identity) := by
  refine (Workspace.reaches_iff_way (trimmed_unitPath normal)).mpr
    ⟨unitPath_ne_empty normal, admissible, fun place hm => ?_⟩
  rcases straight.mem_way normal hm with ⟨hp, ne⟩ | hd
  · exact rooted.directory h hp ne
  · exact hd

theorem place_unitPath (normal : Identity.IsNormal identity)
    (admissible : Path.Admissible (store.unitPath identity)) :
    v.place (store.unitPath identity) = (Path.segments (store.unitPath identity).toList).foldlM
      v.follow (Place.origin (store.unitPath identity)) := by
  unfold Workspace.place Workspace.followAll
  rw [if_neg (unitPath_ne_empty normal), if_neg (by simp [admissible.whole])]
  rfl

/-- Where the way to a unit ends early, no file is on the way. -/
theorem Straight.free_of_missing (straight : store.Straight v)
    (normal : Identity.IsNormal identity) (rooted : v.Rooted)
    (admissible : Path.Admissible (store.unitPath identity))
    (h : v.place (store.unitPath identity) = .error .missing) :
    ∀ place ∈ Place.way (store.unitPath identity), ∀ bytes, v.node? place ≠ some (.file bytes) := by
  intro place hm bytes hf
  rw [place_unitPath normal admissible] at h
  obtain ⟨front, step, rest, above, name, hs, hp, hd, hn⟩ :=
    rooted.of_foldlM_follow_missing (Place.isTop_origin _) h
  have end_mem := Place.mem_way_of_segments (trimmed_unitPath normal) hs
  rw [hp] at end_mem
  have end_prefix : above ++ [name] <+: Place.named (store.unitPath identity) := by
    rcases straight.mem_way normal end_mem with ⟨hp, _⟩ | hd
    · exact hp
    · simp [hn] at hd
  have file_prefix : place <+: Place.named (store.unitPath identity) := by
    rcases straight.mem_way normal hm with ⟨hp, _⟩ | hd
    · exact hp
    · simp [hf] at hd
  rcases List.prefix_or_prefix_of_prefix file_prefix end_prefix with hp | hp
  · rcases List.prefix_concat_iff.mp hp with rfl | hp
    · simp [hn] at hf
    · by_cases he : place = above
      · simp [he, hd] at hf
      · simp [rooted.directory hd hp he] at hf
  · by_cases he : above ++ [name] = place
    · simp [← he, hn] at hf
    · simp [rooted.directory hf hp he] at hn

/-- The file of a unit can be removed wherever there is one. -/
theorem Straight.remove_eq_ok_iff (straight : store.Straight v)
    (normal : Identity.IsNormal identity) (rooted : v.Rooted)
    (admissible : Path.Admissible (store.unitPath identity)) :
    v.remove (store.unitPath identity) = .ok w ↔
      (∃ bytes, v.node? (Place.named (store.unitPath identity)) = some (.file bytes)) ∧
        w = v.erase (Place.named (store.unitPath identity)) := by
  rw [Workspace.remove_eq_ok_iff]
  refine and_iff_right_of_imp ?_
  rintro ⟨⟨bytes, hf⟩, _⟩
  exact straight.reaches normal rooted admissible hf

/-- A unit is missing exactly if nothing is in its place and no file on the way to it. -/
theorem Straight.remove_eq_missing_iff (straight : store.Straight v)
    (normal : Identity.IsNormal identity) (rooted : v.Rooted)
    (admissible : Path.Admissible (store.unitPath identity)) :
    v.remove (store.unitPath identity) = .error .missing ↔
      v.node? (Place.named (store.unitPath identity)) = none ∧
        ∀ place ∈ Place.way (store.unitPath identity), ∀ bytes,
          v.node? place ≠ some (.file bytes) := by
  have trimmed := @trimmed_unitPath store identity normal
  constructor
  · intro h
    rcases Workspace.remove_eq_missing h with hp | ⟨reaches, hn⟩
    · refine ⟨?_, straight.free_of_missing normal rooted admissible hp⟩
      by_contra hn
      obtain ⟨node, hn⟩ := Option.ne_none_iff_exists'.mp hn
      have reaches := straight.reaches normal rooted admissible hn
      exact absurd (hp.symm.trans reaches) (by simp)
    · have way := ((Workspace.reaches_iff_way trimmed).mp reaches).2.2
      exact ⟨hn, fun place hm => by simp [way place hm]⟩
  · rintro ⟨hn, free⟩
    have followed := @Workspace.foldlM_follow_of_free v _
      (Place.origin (store.unitPath identity)) (Path.size_le_iff.mpr admissible.names)
      fun front step rest hs bytes => free _ (Place.mem_way_of_segments trimmed hs) bytes
    rw [← place_unitPath normal admissible] at followed
    rcases followed with hp | hp
    · exact Workspace.remove_of_none (Workspace.place_eq_ok_iff.mp hp).1 hn
    · exact Workspace.remove_of_missing hp

/-- A unit is removed, or is not there, exactly if no file is on the way to it and no directory in
its place. -/
theorem runs_remove_iff (normal : Identity.IsNormal identity) (straight : store.Straight v)
    (rooted : v.Rooted) (admissible : Path.Admissible (store.unitPath identity)) :
    Runs (store.remove identity) v u w ↔ (store.removal identity).Possible v ∧
      w = (store.removal identity).result v := by
  have target : (store.removal identity).target = Place.named (store.unitPath identity) := rfl
  unfold remove
  rw [Action.clear_iff, straight.remove_eq_ok_iff normal rooted admissible,
    straight.remove_eq_missing_iff normal rooted admissible]
  cases hn : v.node? (Place.named (store.unitPath identity)) with
  | none =>
    have unchanged : (store.removal identity).result v = v := by
      refine Workspace.erase_eq_self (@Workspace.isTop_eq_false v _ ?_) hn
      rw [target, hn]
      simp
    rw [unchanged]
    constructor
    · rintro (⟨⟨_, hf⟩, _⟩ | ⟨⟨_, free⟩, rfl⟩)
      · cases hf
      · exact ⟨⟨free, by rw [target, hn]; simp⟩, rfl⟩
    · rintro ⟨possible, rfl⟩
      exact .inr ⟨⟨rfl, possible.way⟩, rfl⟩
  | some node =>
    cases node with
    | directory =>
      refine iff_of_false (by simp) fun ⟨possible, _⟩ => ?_
      exact possible.free hn
    | file bytes =>
      have reaches := straight.reaches normal rooted admissible hn
      have way := ((Workspace.reaches_iff_way (trimmed_unitPath normal)).mp reaches).2.2
      have possible : (store.removal identity).Possible v :=
        ⟨fun place hm => by simp [way place hm], by rw [target, hn]; simp⟩
      constructor
      · rintro (⟨_, rfl⟩ | ⟨⟨absent, _⟩, _⟩)
        · exact ⟨possible, rfl⟩
        · cases absent
      · rintro ⟨_, rfl⟩
        exact .inl ⟨⟨bytes, rfl⟩, rfl⟩

end UnitStore

end MethodTrace
