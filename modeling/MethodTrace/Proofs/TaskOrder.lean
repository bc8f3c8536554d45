import MethodTrace.Proofs.StoreErrands

/-!
The order of tasks.

Tasks that do not stand in each other's way in the store leave the same in any order, or fail in any
order. Where a unit that is removed has an identity that leads on to another one, the order matters.
-/

namespace MethodTrace

/-- Units whose tasks do not stand in each other's way: they have different identities, and that of
one that is removed is no leading part of the other one, nor the other way round. -/
structure BuildUnit.Apart (unit other : BuildUnit) : Prop where
  identity : unit.identity ≠ other.identity
  nested : unit.kind = .removed ∨ other.kind = .removed →
    ¬Identity.segments unit.identity <+: Identity.segments other.identity ∧
      ¬Identity.segments other.identity <+: Identity.segments unit.identity

theorem BuildUnit.Apart.symm {unit other : BuildUnit} (h : unit.Apart other) :
    other.Apart unit :=
  ⟨h.identity.symm, fun hr => (h.nested hr.symm).symm⟩

/-- A unit is on the way to another one only if its identity is a leading part of the other one, or
if there is a directory in its place. -/
theorem UnitStore.Straight.not_mem_way {store : UnitStore} {identity other : String}
    {v : Workspace} (straight : store.Straight v) (normal : Identity.IsNormal identity)
    (normal' : Identity.IsNormal other)
    (nested : ¬Identity.segments identity <+: Identity.segments other)
    (free : v.node? (Place.named (store.unitPath identity)) ≠ some .directory) :
    Place.named (store.unitPath identity) ∉ Place.way (store.unitPath other) := by
  intro hm
  rcases straight.mem_way normal' hm with ⟨hp, _⟩ | hd
  · rw [UnitStore.named_unitPath normal, UnitStore.named_unitPath normal',
      List.prefix_append_right_inj] at hp
    exact nested hp
  · exact free hd

namespace TaskContext

variable {context : TaskContext} {unit other : BuildUnit} {units xs ys : List BuildUnit}
  {outcome : TaskOutcome} {outcomes : List TaskOutcome} {errand? : Option Errand}
  {u v w : Workspace}

/-- What the task for a unit has to do in the store, and its outcome. -/
inductive Does (context : TaskContext) (unit : BuildUnit) (v : Workspace) :
    TaskOutcome → Option Errand → Prop
  | write {content : Bytes} {traced : TracedUnit} : unit.kind.needsWrite = true →
    unit.load v = .ok content → context.trace unit.identity content = .ok traced →
    Path.Admissible (context.store.unitPath unit.identity) →
    Does context unit v ⟨unit.identity, unit.kind, traced.tags⟩
      (some (context.store.writing unit.identity traced.bytes))
  | remove : unit.kind = .removed → Does context unit v ⟨unit.identity, unit.kind, []⟩
      (some (context.store.removal unit.identity))
  | nothing : unit.kind = .unchanged → Does context unit v ⟨unit.identity, unit.kind, []⟩ none

/-- An errand, if there is one, that has been done. -/
def Done (v w : Workspace) : Option Errand → Prop
  | some errand => errand.Possible v ∧ w = errand.result v
  | none => w = v

theorem Does.of_load_eq (h : context.Does unit v outcome errand?) (same : unit.load w = unit.load v) :
    context.Does unit w outcome errand? := by
  cases h with
  | write kind load trace admissible => exact .write kind (same.trans load) trace admissible
  | remove kind => exact .remove kind
  | nothing kind => exact .nothing kind

theorem Does.path_eq {errand : Errand} (h : context.Does unit v outcome (some errand)) :
    errand.path = context.store.unitPath unit.identity := by
  cases h with
  | write _ _ _ _ => rfl
  | remove _ => rfl

theorem Does.kind_eq {errand : Errand} (h : context.Does unit v outcome (some errand))
    (hf : errand.file? = none) : unit.kind = .removed := by
  cases h with
  | write _ _ _ _ => cases hf
  | remove kind => exact kind

/-- A workspace in which tasks for some units can be done in any order: its store can be reached
without detours, and what the units hold does not come from the store. -/
structure Steady (context : TaskContext) (units : List BuildUnit) (v : Workspace) : Prop where
  rooted : v.Rooted
  straight : context.store.Straight v
  loads : ∀ unit ∈ units, ∀ w, Workspace.ChangesBelow context.store.root v w →
    unit.load w = unit.load v

/-- What a unit holds does not come from a store where its file is neither in the store nor behind
a directory that leads there and is yet to be made. -/
theorem load_of_changesBelow {store : UnitStore} (outside : ∀ path, unit.content = .file path →
    ∀ place ∈ Place.trail path, ¬Place.named store.root <+: place ∧
      (place ∈ Place.trail store.root → v.node? place ≠ none))
    (h : Workspace.ChangesBelow store.root v w) : unit.load w = unit.load v := by
  unfold BuildUnit.load
  split
  next => rfl
  next path hc =>
    unfold Workspace.readOr Workspace.read
    rw [Workspace.find_congr fun place hm => ?_]
    obtain ⟨apart, there⟩ := outside path hc place hm
    exact (h place apart).resolve_right fun ⟨hw, hn, _⟩ => there hw hn
  next => rfl

theorem Steady.mono (h : context.Steady units v) (hs : ∀ unit ∈ xs, unit ∈ units) :
    context.Steady xs v :=
  ⟨h.rooted, h.straight, fun unit hu => h.loads unit (hs unit hu)⟩

/-- Units with identities in canonical spelling, of which those that are removed have paths that a
file can have. -/
def Storable (context : TaskContext) (unit : BuildUnit) : Prop :=
  Identity.IsNormal unit.identity ∧
    (unit.kind = .removed → Path.Admissible (context.store.unitPath unit.identity))

theorem runs_writeUnit_iff (storable : context.Storable unit) (straight : context.store.Straight v)
    (kind : unit.kind.needsWrite = true) : Runs (context.writeUnit unit) v outcome w ↔
      ∃ errand?, context.Does unit v outcome errand? ∧ Done v w errand? := by
  constructor
  · intro h
    unfold writeUnit at h
    obtain ⟨content, load, h⟩ := Action.look_bind_iff.mp h
    obtain ⟨traced, trace, h⟩ := Runs.liftM_bind_iff.mp h
    obtain ⟨_, s, hw, h⟩ := Runs.bind_iff.mp h
    obtain ⟨rfl, rfl⟩ := Runs.pure_iff.mp h
    obtain ⟨admissible, done⟩ :=
      (UnitStore.runs_write_iff storable.1 straight).mp (Runs.adapt_iff.mp hw)
    exact ⟨_, .write kind load trace admissible, done⟩
  · rintro ⟨errand?, does, done⟩
    cases does with
    | write _ load trace admissible =>
      refine Action.look_bind_iff.mpr ⟨_, load, Runs.liftM_bind_iff.mpr ⟨_, trace, ?_⟩⟩
      refine Runs.bind_iff.mpr ⟨(), w, Runs.adapt_iff.mpr ?_, Runs.pure_iff.mpr ⟨rfl, rfl⟩⟩
      exact (UnitStore.runs_write_iff storable.1 straight).mpr ⟨admissible, done⟩
    | remove removed =>
      rw [removed] at kind
      cases kind
    | nothing unchanged =>
      rw [unchanged] at kind
      cases kind

/-- A task succeeds exactly if it can do what it has to do. -/
theorem runTask_runs_iff (storable : context.Storable unit) (steady : context.Steady units v) :
    Runs (context.runTask unit) v outcome w ↔
      ∃ errand?, context.Does unit v outcome errand? ∧ Done v w errand? := by
  unfold runTask
  split
  next kind => exact runs_writeUnit_iff storable steady.straight (by rw [kind]; rfl)
  next kind => exact runs_writeUnit_iff storable steady.straight (by rw [kind]; rfl)
  next kind =>
    have remove {s : Workspace} := @UnitStore.runs_remove_iff context.store unit.identity () v s
      storable.1 steady.straight steady.rooted (storable.2 kind)
    constructor
    · intro h
      obtain ⟨_, s, hr, h⟩ := Runs.bind_iff.mp h
      obtain ⟨rfl, rfl⟩ := Runs.pure_iff.mp h
      exact ⟨_, .remove kind, remove.mp (Runs.adapt_iff.mp hr)⟩
    · rintro ⟨errand?, does, done⟩
      cases does with
      | write writes _ _ _ =>
        rw [kind] at writes
        cases writes
      | remove _ =>
        exact Runs.bind_iff.mpr ⟨(), w, Runs.adapt_iff.mpr (remove.mpr done),
          Runs.pure_iff.mpr ⟨rfl, rfl⟩⟩
      | nothing unchanged =>
        rw [kind] at unchanged
        cases unchanged
  next kind =>
    rw [Runs.pure_iff]
    constructor
    · rintro ⟨rfl, rfl⟩
      exact ⟨none, .nothing kind, rfl⟩
    · rintro ⟨errand?, does, done⟩
      cases does with
      | write writes _ _ _ =>
        rw [kind] at writes
        cases writes
      | remove removed =>
        rw [kind] at removed
        cases removed
      | nothing _ => exact ⟨rfl, done⟩

/-- After a task, the others can still be done in any order. -/
theorem Steady.of_runs (steady : context.Steady units v) (storable : context.Storable unit)
    (h : Runs (context.runTask unit) v outcome w) : context.Steady units w := by
  have below := (changesBelow_runTask storable.1).of_runs h
  have loads : ∀ unit ∈ units, ∀ u, Workspace.ChangesBelow context.store.root w u →
      unit.load u = unit.load w := by
    intro unit hu u later
    rw [steady.loads unit hu w below]
    exact steady.loads unit hu u (IsTrans.trans _ _ _ below later)
  obtain ⟨errand?, does, done⟩ := (runTask_runs_iff storable steady).mp h
  cases errand? with
  | none =>
    obtain rfl : w = v := done
    exact ⟨steady.rooted, steady.straight, loads⟩
  | some errand =>
    obtain ⟨possible, rfl⟩ := done
    have outside : errand.target ∉ Place.way errand.path := by
      intro hm
      rw [does.path_eq] at hm
      have free := possible.free
      rw [Errand.target, does.path_eq] at hm free
      rcases steady.straight.mem_way storable.1 hm with ⟨_, ne⟩ | hd
      · exact ne rfl
      · exact free hd
    refine ⟨Errand.rooted_result possible steady.rooted outside, fun place hm => ?_, loads⟩
    exact (steady.straight place hm).imp_right (Errand.keepsDirectories_result possible place)

/-- Errands for units that do not stand in each other's way do not do so either. -/
theorem Does.apart {errand errand' : Errand} {outcome' : TaskOutcome}
    (first : context.Does unit v outcome (some errand))
    (second : context.Does other u outcome' (some errand')) (apart : unit.Apart other)
    (normal : Identity.IsNormal unit.identity) (normal' : Identity.IsNormal other.identity)
    (straight : context.store.Straight v) (possible : errand.Possible v)
    (possible' : errand'.Possible (errand.result v)) : errand.Apart errand' := by
  have path := first.path_eq
  have path' := second.path_eq
  have free := possible.free
  have free' : v.node? errand'.target ≠ some .directory := fun hd =>
    possible'.free (Errand.keepsDirectories_result possible _ hd)
  constructor
  · rw [Errand.target, Errand.target, path, path']
    exact fun he => apart.identity (UnitStore.unitPath_injective normal normal' he)
  · intro removed
    have nested := apart.nested (removed.imp first.kind_eq second.kind_eq)
    rw [Errand.target, path] at free
    rw [Errand.target, path'] at free'
    rw [Errand.target, Errand.target, path, path']
    exact ⟨straight.not_mem_way normal normal' nested.1 free,
      straight.not_mem_way normal' normal nested.2 free'⟩

/-- Two tasks that do not stand in each other's way can be done in either order. -/
theorem runTask_swap {outcome' : TaskOutcome} {s : Workspace} (storable : context.Storable unit)
    (storable' : context.Storable other) (apart : unit.Apart other)
    (steady : context.Steady [unit, other] v) (first : Runs (context.runTask unit) v outcome s)
    (second : Runs (context.runTask other) s outcome' w) :
    ∃ t, Runs (context.runTask other) v outcome' t ∧ Runs (context.runTask unit) t outcome w := by
  have steady' := steady.of_runs storable first
  have load := steady.loads other (by simp) s ((changesBelow_runTask storable.1).of_runs first)
  obtain ⟨errand?, does, done⟩ := (runTask_runs_iff storable steady).mp first
  obtain ⟨errand?', does', done'⟩ := (runTask_runs_iff storable' steady').mp second
  have instead := does'.of_load_eq load.symm
  -- where the other task is done first, this one finds what it has found before
  have after {t : Workspace} (runs : Runs (context.runTask other) v outcome' t)
      (done : Done t w errand?) : Runs (context.runTask unit) t outcome w := by
    have load := steady.loads unit (by simp) t ((changesBelow_runTask storable'.1).of_runs runs)
    exact (runTask_runs_iff storable (steady.of_runs storable' runs)).mpr
      ⟨errand?, does.of_load_eq load, done⟩
  have before {t : Workspace} (done : Done v t errand?') :
      Runs (context.runTask other) v outcome' t :=
    (runTask_runs_iff storable' steady).mpr ⟨errand?', instead, done⟩
  cases errand? with
  | none =>
    obtain rfl : s = v := done
    exact ⟨w, before done', after (before done') rfl⟩
  | some errand =>
    cases errand?' with
    | none =>
      obtain rfl : w = s := done'
      have same : Runs (context.runTask other) v outcome' v := before rfl
      exact ⟨v, same, after same done⟩
    | some errand' =>
      obtain ⟨possible, rfl⟩ := done
      obtain ⟨possible', rfl⟩ := done'
      obtain ⟨first, second, same⟩ := Errand.swap
        (does.apart does' apart storable.1 storable'.1 steady.straight possible possible')
        possible possible'
      have runs : Runs (context.runTask other) v outcome' (errand'.result v) :=
        before ⟨first, rfl⟩
      exact ⟨_, runs, after runs ⟨second, same⟩⟩

/-- Tasks in another order have the same outcomes, in another order. -/
theorem mapM_runTask_perm (perm : xs.Perm ys) (storable : ∀ unit ∈ xs, context.Storable unit)
    (apart : xs.Pairwise BuildUnit.Apart) (steady : context.Steady xs v)
    (h : Runs (xs.mapM context.runTask) v outcomes w) :
    ∃ others, outcomes.Perm others ∧ Runs (ys.mapM context.runTask) v others w := by
  induction perm generalizing v outcomes with
  | nil => exact ⟨outcomes, .refl _, h⟩
  | cons unit perm ih =>
    obtain ⟨outcome, s, rest, first, hr, rfl⟩ := Runs.mapM_cons_iff.mp h
    have later := (steady.of_runs (storable unit (by simp)) first).mono
      fun other ho => List.mem_cons_of_mem unit ho
    obtain ⟨others, same, runs⟩ := ih (fun other ho => storable other (by simp [ho]))
      (List.pairwise_cons.mp apart).2 later hr
    exact ⟨outcome :: others, same.cons outcome,
      Runs.mapM_cons_iff.mpr ⟨outcome, s, others, first, runs, rfl⟩⟩
  | swap second first units =>
    obtain ⟨outcome, s, tail, hfirst, ht, rfl⟩ := Runs.mapM_cons_iff.mp h
    obtain ⟨outcome', s', rest, hsecond, hr, rfl⟩ := Runs.mapM_cons_iff.mp ht
    have apart := (List.pairwise_cons.mp apart).1 second (by simp)
    obtain ⟨u, one, two⟩ := runTask_swap (storable first (by simp)) (storable second (by simp))
      apart (steady.mono (by simp)) hfirst hsecond
    exact ⟨outcome' :: outcome :: rest, .swap _ _ _, Runs.mapM_cons_iff.mpr ⟨outcome', u, _, one,
      Runs.mapM_cons_iff.mpr ⟨outcome, s', rest, two, hr, rfl⟩, rfl⟩⟩
  | trans first second ih ih' =>
    obtain ⟨others, same, runs⟩ := ih storable apart steady h
    obtain ⟨others', same', runs'⟩ := ih' (fun unit hu => storable unit (first.mem_iff.mpr hu))
      ((first.pairwise_iff BuildUnit.Apart.symm).mp apart)
      (steady.mono fun unit hu => first.mem_iff.mpr hu) runs
    exact ⟨others', same.trans same', runs'⟩

/-- Outcomes for different identities are in one order when they are sorted. -/
theorem mergeSort_eq_of_perm {others : List TaskOutcome} (perm : outcomes.Perm others)
    (nodup : (outcomes.map (·.identity)).Nodup) :
    (outcomes.mergeSort fun first second => !decide (second.identity < first.identity))
      = others.mergeSort fun first second => !decide (second.identity < first.identity) :=
  MethodTrace.mergeSort_eq_of_perm TaskOutcome.identity perm fun _ hx _ hy =>
    List.inj_on_of_nodup_map nodup hx hy

/-- Tasks that do not stand in each other's way end in the same way in any order: with the same
outcomes in the same workspace, or with a failure. -/
theorem runTasks_iff_of_perm (perm : xs.Perm ys) (storable : ∀ unit ∈ xs, context.Storable unit)
    (apart : xs.Pairwise BuildUnit.Apart) (steady : context.Steady xs v) :
    Runs (context.runTasks xs) v outcomes w ↔ Runs (context.runTasks ys) v outcomes w := by
  have reorder {xs ys : List BuildUnit} (perm : xs.Perm ys)
      (storable : ∀ unit ∈ xs, context.Storable unit) (apart : xs.Pairwise BuildUnit.Apart)
      (steady : context.Steady xs v) (h : Runs (context.runTasks xs) v outcomes w) :
      Runs (context.runTasks ys) v outcomes w := by
    obtain ⟨found, s, hm, h⟩ := Runs.bind_iff.mp h
    obtain ⟨rfl, rfl⟩ := Runs.pure_iff.mp h
    have distinct : (xs.map (·.identity)).Nodup :=
      List.pairwise_map.mpr (apart.imp BuildUnit.Apart.identity)
    obtain ⟨labels, _⟩ := mapM_runTask_runs (fun unit hu => (storable unit hu).1) distinct hm
    have identities : found.map (·.identity) = xs.map (·.identity) := by
      have := congrArg (List.map (·.1)) labels
      simpa [List.map_map, Function.comp_def] using this
    obtain ⟨others, same, runs⟩ := mapM_runTask_perm perm storable apart steady hm
    exact Runs.bind_iff.mpr ⟨others, w, runs,
      Runs.pure_iff.mpr ⟨mergeSort_eq_of_perm same (identities ▸ distinct), rfl⟩⟩
  refine ⟨reorder perm storable apart steady, reorder perm.symm
    (fun unit hu => storable unit (perm.mem_iff.mpr hu))
    ((perm.pairwise_iff BuildUnit.Apart.symm).mp apart)
    (steady.mono fun unit hu => perm.mem_iff.mpr hu)⟩

end TaskContext

open Invocation TaskContext

/-- The unit `x`, which is to be removed. -/
def goneUnit : BuildUnit := ⟨"x", .previous, .removed, .absent⟩

/-- A unit that is to be written. -/
def newUnit (identity : String) : BuildUnit := ⟨identity, .archive 0, .added, .bytes []⟩

/-- A workspace in which the directory for units is empty. -/
def emptied : Workspace := (bare.stored []).erase ["m", "units", "x"]

theorem node?_bare (place : Place) :
    bare.node? place = if place = ["m"] ∨ place.isTop = true then some .directory else none := by
  rw [bare, Workspace.node?_insert (by decide)]
  split
  next he => simp [he]
  next ne => simp [Workspace.node?, Workspace.empty, ne]

theorem node?_emptied (place : Place) :
    emptied.node? place = if place = ["m", "units", "x"] then none
      else if place = ["m", "units"] then some .directory else bare.node? place := by
  rw [emptied, Workspace.node?_erase (by decide)]
  split
  next => rfl
  next ne => rw [Workspace.Stores.node?_stored, if_neg ne]

theorem rooted_stored : (bare.stored []).Rooted := by
  have bare : bare.Rooted :=
    @Workspace.Rooted.insert .empty [] .directory "m" Workspace.rooted_empty rfl (by decide) (.inl rfl)
  have units : (Invocation.bare.insert ["m", "units"] .directory).Rooted :=
    @Workspace.Rooted.insert _ ["m"] .directory "units" bare ready_bare.directory (by decide)
      (.inl rfl)
  refine @Workspace.Rooted.insert _ ["m", "units"] _ "x" units ?_ (by decide) (.inr ?_)
  · rw [Workspace.node?_insert (by decide), if_pos rfl]
  · rw [List.cons_append, Workspace.node?_insert (by decide), if_neg (by decide), node?_bare]
    decide

theorem steady_stored (units : List BuildUnit)
    (loads : ∀ unit ∈ units, ∀ path, unit.content ≠ .file path) :
    (withoutInputs.context noFilter).Steady units (bare.stored []) := by
  refine ⟨rooted_stored, UnitStore.straight_of_up_not_mem (by decide +kernel) _, ?_⟩
  intro unit hu w below
  exact load_of_changesBelow (fun path hc => absurd hc (loads unit hu path)) below

theorem storable_goneUnit : (withoutInputs.context noFilter).Storable goneUnit := by
  have path : (withoutInputs.context noFilter).store.unitPath "x" = "m/units/x" :=
    Workspace.Stores.unitPath_x
  refine ⟨by unfold Identity.IsNormal; decide, fun _ => ?_⟩
  rw [show goneUnit.identity = "x" from rfl, path]
  exact ⟨by cbv, by decide +kernel⟩

theorem runs_goneUnit : Runs ((withoutInputs.context noFilter).runTask goneUnit) (bare.stored [])
    ⟨"x", .removed, []⟩ emptied := by
  have path : (withoutInputs.context noFilter).store.unitPath "x" = "m/units/x" :=
    Workspace.Stores.unitPath_x
  have way : Place.way ((withoutInputs.context noFilter).store.removal goneUnit.identity).path
      = [[], ["m"], ["m", "units"]] := by
    rw [show UnitStore.removal _ _ = ⟨_, none⟩ from rfl, show goneUnit.identity = "x" from rfl, path]
    decide +kernel
  have target : ((withoutInputs.context noFilter).store.removal "x").target
      = ["m", "units", "x"] := by
    rw [Errand.target, UnitStore.removal, path, Workspace.Stores.named_x]
  refine (runTask_runs_iff storable_goneUnit (steady_stored [goneUnit] (by simp [goneUnit]))).mpr
    ⟨_, .remove rfl, ⟨fun place hm => ?_, ?_⟩, ?_⟩
  · rw [way] at hm
    simp only [List.mem_cons, List.not_mem_nil, or_false] at hm
    rcases hm with rfl | rfl | rfl
    · simp [Workspace.Stores.node?_stored, node?_bare, Place.isTop]
    · simp [Workspace.Stores.node?_stored, node?_bare]
    · simp [Workspace.Stores.node?_stored]
  · rw [show ((withoutInputs.context noFilter).store.removal goneUnit.identity).target = _ from
      target, Workspace.Stores.node?_stored, if_pos rfl]
    simp
  · exact congrArg (bare.stored []).erase target.symm

/-- Where no file is in its way, a unit can be written. -/
theorem runs_newUnit {identity : String} {units : List BuildUnit}
    (steady : (withoutInputs.context noFilter).Steady units emptied)
    (normal : Identity.IsNormal identity) (passed : isClassUnit identity = false)
    (admissible : Path.Admissible ((withoutInputs.context noFilter).store.unitPath identity))
    (absent : emptied.node? (Place.named ((withoutInputs.context noFilter).store.unitPath identity))
      = none) : ∃ w, Runs ((withoutInputs.context noFilter).runTask (newUnit identity)) emptied
        ⟨identity, .added, []⟩ w := by
  have storable : (withoutInputs.context noFilter).Storable (newUnit identity) :=
    ⟨normal, fun kind => by cases kind⟩
  have load : (newUnit identity).load emptied = .ok [] := rfl
  have does : (withoutInputs.context noFilter).Does (newUnit identity) emptied
      ⟨identity, .added, []⟩ (some ((withoutInputs.context noFilter).store.writing identity [])) :=
    Does.write rfl load (trace_of_not_class passed []) admissible
  refine ⟨_, (runTask_runs_iff storable steady).mpr ⟨_, does, ⟨?_, ?_⟩, rfl⟩⟩
  · intro place _ bytes
    rw [node?_emptied, node?_bare]
    split_ifs
    all_goals simp
  · rw [Errand.target, UnitStore.writing, absent]
    simp

/-- A unit can be written when the unit `x` has been removed. -/
theorem runs_goneUnit_newUnit {identity : String} (normal : Identity.IsNormal identity)
    (passed : isClassUnit identity = false)
    (admissible : Path.Admissible ((withoutInputs.context noFilter).store.unitPath identity))
    (absent : emptied.node? (Place.named ((withoutInputs.context noFilter).store.unitPath identity))
      = none) : ∃ outcomes w, Runs ((withoutInputs.context noFilter).runTasks
        [goneUnit, newUnit identity]) (bare.stored []) outcomes w := by
  have steady := steady_stored [goneUnit, newUnit identity] (by simp [goneUnit, newUnit])
  obtain ⟨w, written⟩ := runs_newUnit (steady.of_runs storable_goneUnit runs_goneUnit) normal passed
    admissible absent
  have both : Runs ([goneUnit, newUnit identity].mapM (withoutInputs.context noFilter).runTask)
      (bare.stored []) [⟨"x", .removed, []⟩, ⟨identity, .added, []⟩] w :=
    Runs.mapM_cons_iff.mpr ⟨_, _, _, runs_goneUnit, Runs.mapM_cons_iff.mpr
      ⟨_, w, [], written, Runs.mapM_nil_iff.mpr ⟨rfl, rfl⟩, rfl⟩, rfl⟩
  exact ⟨_, w, Runs.bind_iff.mpr ⟨_, w, both, Runs.pure_iff.mpr ⟨rfl, rfl⟩⟩⟩

/-- The unit `x` is removed and the unit `y` is written, or the other way round. -/
theorem TaskContext.runTasks_iff_of_perm_apart : ∃ outcomes w,
    Runs ((withoutInputs.context noFilter).runTasks [goneUnit, newUnit "y"]) (bare.stored [])
      outcomes w ∧
    Runs ((withoutInputs.context noFilter).runTasks [newUnit "y", goneUnit]) (bare.stored [])
      outcomes w := by
  have normal : Identity.IsNormal "y" := by unfold Identity.IsNormal; decide
  have path : (withoutInputs.context noFilter).store.unitPath "y" = "m/units/y" := by cbv
  have named : Place.named "m/units/y" = ["m", "units", "y"] := by cbv
  obtain ⟨outcomes, w, runs⟩ := runs_goneUnit_newUnit normal (by cbv)
    (by rw [path]; exact ⟨by cbv, by decide +kernel⟩) (by
      rw [path, named, node?_emptied, node?_bare]
      decide)
  have apart : goneUnit.Apart (newUnit "y") :=
    ⟨by decide, fun _ => by simp only [goneUnit, newUnit]; decide +kernel⟩
  refine ⟨outcomes, w, runs, ?_⟩
  refine (TaskContext.runTasks_iff_of_perm (.swap _ _ _) ?_ (by simp [apart])
    (steady_stored _ (by simp [goneUnit, newUnit]))).mp runs
  intro unit hu
  rcases List.mem_cons.mp hu with rfl | hu
  · exact storable_goneUnit
  · rw [List.mem_singleton.mp hu]
    exact ⟨normal, fun kind => by cases kind⟩

/-- The unit `x` has to be removed before a unit can be written below it. -/
theorem TaskContext.not_runTasks_iff_of_perm : ¬∀ (context : TaskContext) (xs ys : List BuildUnit)
    (v w : Workspace) (outcomes : List TaskOutcome), xs.Perm ys →
    (∀ unit ∈ xs, Identity.IsNormal unit.identity) → (xs.map (·.identity)).Nodup →
    (Runs (context.runTasks xs) v outcomes w ↔ Runs (context.runTasks ys) v outcomes w) := by
  intro claim
  have normal : Identity.IsNormal "x/y" := by unfold Identity.IsNormal; decide
  have path : (withoutInputs.context noFilter).store.unitPath "x/y" = "m/units/x/y" := by cbv
  have named : Place.named "m/units/x/y" = ["m", "units", "x", "y"] := by cbv
  obtain ⟨outcomes, w, runs⟩ := runs_goneUnit_newUnit normal (by cbv)
    (by rw [path]; exact ⟨by cbv, by decide +kernel⟩) (by
      rw [path, named, node?_emptied, node?_bare]
      decide)
  have other := (claim _ _ [newUnit "x/y", goneUnit] _ _ _ (.swap _ _ _) (by
    intro unit hu
    rcases List.mem_cons.mp hu with rfl | hu
    · exact storable_goneUnit.1
    · rw [List.mem_singleton.mp hu]
      exact normal) (by decide)).mp runs
  obtain ⟨found, s, hm, _⟩ := Runs.bind_iff.mp other
  obtain ⟨outcome, t, _, first, _⟩ := Runs.mapM_cons_iff.mp hm
  obtain ⟨errand?, does, done⟩ := (runTask_runs_iff ⟨normal, fun kind => by cases kind⟩
    (steady_stored [newUnit "x/y"] (by simp [newUnit]))).mp first
  cases does with
  | write _ _ _ _ =>
    have way : ["m", "units", "x"]
        ∈ Place.way ((withoutInputs.context noFilter).store.unitPath "x/y") := by
      rw [path]
      decide +kernel
    refine done.1.way ["m", "units", "x"] way (UnitStore.encode toolVersion []) ?_
    rw [Workspace.Stores.node?_stored, if_pos rfl]
  | remove kind => cases kind
  | nothing kind => cases kind

end MethodTrace
