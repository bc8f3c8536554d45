import MethodTrace.Run
import MethodTrace.Proofs.Assemblies
import MethodTrace.Proofs.StoredUnits

/-!
What the tasks of a run leave in the store, and what an archive is made to hold after them.
-/

namespace MethodTrace

/-- The places at which some units are stored. -/
def UnitStore.placesOf (store : UnitStore) (units : List BuildUnit) : Set Place :=
  {place | ∃ unit ∈ units, Place.named (store.unitPath unit.identity) = place}

namespace TaskContext

variable {context : TaskContext} {unit : BuildUnit} {units : List BuildUnit}
  {outcome : TaskOutcome} {outcomes : List TaskOutcome} {u v w : Workspace}

/-- A unit that has been written: what it held at some time between two others, and what is stored
of it now. -/
def Written (context : TaskContext) (units : List BuildUnit) (unit : BuildUnit)
    (v w : Workspace) : Prop :=
  ∃ u content traced, Workspace.Changes (context.store.placesOf units) v u ∧
    unit.load u = .ok content ∧ context.trace unit.identity content = .ok traced ∧
    w.read (context.store.unitPath unit.identity)
      = .ok (UnitStore.encode context.store.version traced.bytes)

theorem runTask_runs (h : Runs (context.runTask unit) v outcome w) :
    (outcome.identity, outcome.kind) = (unit.identity, unit.kind) ∧
      Workspace.Changes (context.store.placesOf [unit]) v w ∧
      (unit.kind.needsWrite = true → context.Written [unit] unit v w) := by
  have place : ({Place.named (context.store.unitPath unit.identity)} : Set Place)
      = context.store.placesOf [unit] := by
    ext place
    simp [UnitStore.placesOf, eq_comm]
  have written (h : Runs (context.writeUnit unit) v outcome w) :
      (outcome.identity, outcome.kind) = (unit.identity, unit.kind) ∧
      Workspace.Changes (context.store.placesOf [unit]) v w ∧
      (unit.kind.needsWrite = true → context.Written [unit] unit v w) := by
    unfold writeUnit at h
    obtain ⟨content, hl, h⟩ := Action.look_bind_iff.mp h
    obtain ⟨traced, ht, h⟩ := Runs.liftM_bind_iff.mp h
    obtain ⟨_, t, hw, h⟩ := Runs.bind_iff.mp h
    obtain ⟨rfl, rfl⟩ := Runs.pure_iff.mp h
    obtain ⟨change, hr⟩ := UnitStore.changes_write (Runs.adapt_iff.mp hw)
    exact ⟨rfl, place ▸ change, fun _ => ⟨v, content, traced, .refl _ _, hl, ht, hr⟩⟩
  unfold runTask at h
  cases hk : unit.kind with
  | added =>
    rw [hk] at h
    exact hk ▸ written h
  | modified =>
    rw [hk] at h
    exact hk ▸ written h
  | removed =>
    rw [hk] at h
    obtain ⟨_, s, hr, h⟩ := Runs.bind_iff.mp h
    obtain ⟨rfl, rfl⟩ := Runs.pure_iff.mp h
    refine ⟨rfl, place ▸ UnitStore.changes_remove (Runs.adapt_iff.mp hr), ?_⟩
    intro hw
    cases hw
  | unchanged =>
    rw [hk] at h
    obtain ⟨rfl, rfl⟩ := Runs.pure_iff.mp h
    refine ⟨rfl, .refl _ _, ?_⟩
    intro hw
    cases hw

/-- Tasks for units with identities of their own do not disturb each other. -/
theorem mapM_runTask_runs (normal : ∀ unit ∈ units, Identity.IsNormal unit.identity)
    (nodup : (units.map (·.identity)).Nodup) (h : Runs (units.mapM context.runTask) v outcomes w) :
    (outcomes.map fun outcome => (outcome.identity, outcome.kind))
        = units.map (fun unit => (unit.identity, unit.kind)) ∧
      Workspace.Changes (context.store.placesOf units) v w ∧
      ∀ unit ∈ units, unit.kind.needsWrite = true → context.Written units unit v w := by
  induction units generalizing v outcomes with
  | nil =>
    obtain ⟨rfl, rfl⟩ := Runs.mapM_nil_iff.mp h
    exact ⟨rfl, .refl _ _, by simp⟩
  | cons first units ih =>
    obtain ⟨outcome, s, others, hf, ho, rfl⟩ := Runs.mapM_cons_iff.mp h
    obtain ⟨hfirst, change, wrote⟩ := runTask_runs hf
    rw [List.map_cons, List.nodup_cons] at nodup
    obtain ⟨hrest, changes, writes⟩ := ih (fun unit hu => normal unit (by simp [hu])) nodup.2 ho
    have head : context.store.placesOf [first] ⊆ context.store.placesOf (first :: units) := by
      rintro place ⟨unit, hu, rfl⟩
      rw [List.mem_singleton.mp hu]
      exact ⟨first, by simp, rfl⟩
    have tail : context.store.placesOf units ⊆ context.store.placesOf (first :: units) := by
      rintro place ⟨unit, hu, rfl⟩
      exact ⟨unit, by simp [hu], rfl⟩
    have apart : Place.named (context.store.unitPath first.identity)
        ∉ context.store.placesOf units := by
      rintro ⟨unit, hu, he⟩
      have same := UnitStore.unitPath_injective (normal unit (by simp [hu]))
        (normal first (by simp)) he
      exact nodup.1 (same ▸ List.mem_map_of_mem hu)
    refine ⟨by rw [List.map_cons, List.map_cons, hfirst, hrest],
      (change.mono head).trans (changes.mono tail), ?_⟩
    intro unit hu hw
    rcases List.mem_cons.mp hu with rfl | hu
    · obtain ⟨u, content, traced, hc, hl, ht, hr⟩ := wrote hw
      exact ⟨u, content, traced, hc.mono head, hl, ht, changes.read apart hr⟩
    · obtain ⟨u, content, traced, hc, hl, ht, hr⟩ := writes unit hu hw
      exact ⟨u, content, traced, (change.mono head).trans (hc.mono tail), hl, ht, hr⟩

/-- What is no class is stored as it is. -/
theorem trace_of_not_class {identity : String} (h : isClassUnit identity = false)
    (content : Bytes) : context.trace identity content = .ok ⟨content, []⟩ := by
  simp [trace, traceUnit, h, Except.mapError, pure, Except.pure]

/-- Nothing has been done only if there was nothing to do. -/
theorem eq_nil_of_runTasks (normal : ∀ unit ∈ units, Identity.IsNormal unit.identity)
    (nodup : (units.map (·.identity)).Nodup) (h : Runs (context.runTasks units) v [] w) :
    units = [] ∧ w = v := by
  unfold runTasks at h
  obtain ⟨unsorted, s, hm, h⟩ := Runs.bind_iff.mp h
  obtain ⟨hs, rfl⟩ := Runs.pure_iff.mp h
  have none : unsorted = [] := List.nil_perm.mp (hs ▸ List.mergeSort_perm _ _)
  obtain ⟨labels, _, _⟩ := mapM_runTask_runs normal nodup hm
  rw [none, List.map_nil] at labels
  have empty := List.map_eq_nil_iff.mp labels.symm
  subst empty
  obtain ⟨_, rfl⟩ := Runs.pure_iff.mp hm
  exact ⟨rfl, rfl⟩

end TaskContext

namespace Invocation

variable {context : TaskContext} {store : UnitStore} {units : List BuildUnit}
  {outcomes : List TaskOutcome} {start assembly : Assembly} {v w : Workspace}

theorem applyOutcome_runs {outcome : TaskOutcome}
    (h : Runs (applyOutcome store start outcome) v assembly w) :
    w = v ∧ assembly.settings = start.settings ∧
      (∀ name, outcome.identity ≠ name → assembly.entries[name]? = start.entries[name]?) ∧
      (outcome.kind.needsWrite = true → ∃ content, store.read v outcome.identity = .ok content ∧
        assembly.entries[outcome.identity]? = some (.fresh content)) ∧
      (outcome.kind = .removed → assembly.entries[outcome.identity]? = none) := by
  unfold applyOutcome at h
  extract_lets cleared at h
  have settings : cleared.settings = start.settings := by
    unfold cleared
    split
    · rfl
    · rfl
  have others (name : String) (hn : outcome.identity ≠ name) :
      cleared.entries[name]? = start.entries[name]? := by
    unfold cleared
    split
    · simp [Assembly.remove, Std.ExtTreeMap.getElem?_erase, Std.LawfulEqCmp.compare_eq_iff_eq, hn]
    · rfl
  split at h
  next hw =>
    obtain ⟨content, hr, h⟩ := Action.look_bind_iff.mp h
    obtain ⟨rfl, rfl⟩ := Runs.pure_iff.mp h
    refine ⟨rfl, settings, ?_, ?_, ?_⟩
    · intro name hn
      rw [← others name hn]
      simp [Assembly.insert, Std.ExtTreeMap.getElem?_insert, Std.LawfulEqCmp.compare_eq_iff_eq, hn]
    · intro _
      exact ⟨content, Except.mapError_eq_ok_iff.mp hr, by simp [Assembly.insert]⟩
    · intro hk
      rw [hk] at hw
      cases hw
  next hw =>
    obtain ⟨rfl, rfl⟩ := Runs.pure_iff.mp h
    refine ⟨rfl, settings, others, fun h => absurd h hw, ?_⟩
    intro hk
    simp [cleared, hk, ChangeKind.dropsPrevious, Assembly.remove]

/-- What an assembly holds after some outcomes for identities of their own. -/
structure Applied (store : UnitStore) (v : Workspace) (start : Assembly)
    (outcomes : List TaskOutcome) (assembly : Assembly) : Prop where
  settings : assembly.settings = start.settings
  kept : ∀ name, (∀ outcome ∈ outcomes, outcome.identity ≠ name) →
    assembly.entries[name]? = start.entries[name]?
  fresh : ∀ outcome ∈ outcomes, outcome.kind.needsWrite = true →
    ∃ content, store.read v outcome.identity = .ok content ∧
      assembly.entries[outcome.identity]? = some (.fresh content)
  gone : ∀ outcome ∈ outcomes, outcome.kind = .removed →
    assembly.entries[outcome.identity]? = none

theorem foldlM_applyOutcome_runs (nodup : (outcomes.map (·.identity)).Nodup)
    (h : Runs (outcomes.foldlM (applyOutcome store) start) v assembly w) :
    w = v ∧ Applied store v start outcomes assembly := by
  induction outcomes generalizing start v with
  | nil =>
    rw [List.foldlM_nil] at h
    obtain ⟨rfl, rfl⟩ := Runs.pure_iff.mp h
    exact ⟨rfl, ⟨rfl, fun _ _ => rfl, by simp, by simp⟩⟩
  | cons outcome outcomes ih =>
    rw [List.foldlM_cons] at h
    obtain ⟨next, s, hf, hr⟩ := Runs.bind_iff.mp h
    obtain ⟨rfl, settings, others, fresh, gone⟩ := applyOutcome_runs hf
    rw [List.map_cons, List.nodup_cons] at nodup
    obtain ⟨rfl, applied⟩ := ih nodup.2 hr
    have untouched := applied.kept outcome.identity fun other ho he =>
      nodup.1 (he ▸ List.mem_map_of_mem ho)
    refine ⟨rfl, ⟨applied.settings.trans settings, ?_, ?_, ?_⟩⟩
    · intro name hn
      rw [applied.kept name fun other ho => hn other (by simp [ho]), others name (hn outcome (by simp))]
    · intro other ho hw
      rcases List.mem_cons.mp ho with rfl | ho
      · rw [untouched]
        exact fresh hw
      · exact applied.fresh other ho hw
    · intro other ho hk
      rcases List.mem_cons.mp ho with rfl | ho
      · rw [untouched, gone hk]
      · exact applied.gone other ho hk

/-- What an assembly holds after the tasks for some units, which start in a workspace. -/
structure Updated (context : TaskContext) (v : Workspace) (start : Assembly)
    (units : List BuildUnit) (assembly : Assembly) : Prop where
  settings : assembly.settings = start.settings
  kept : ∀ name, (∀ unit ∈ units, unit.identity ≠ name) →
    assembly.entries[name]? = start.entries[name]?
  fresh : ∀ unit ∈ units, unit.kind.needsWrite = true → ∃ u content traced,
    Workspace.Changes (context.store.placesOf units) v u ∧ unit.load u = .ok content ∧
      context.trace unit.identity content = .ok traced ∧
      assembly.entries[unit.identity]? = some (.fresh traced.bytes)
  gone : ∀ unit ∈ units, unit.kind = .removed → assembly.entries[unit.identity]? = none

/-- The tasks for units with identities of their own update what an archive is made to hold. -/
theorem updated_of_runs {s : Workspace} (version : context.store.version.toList.length < 2 ^ 20)
    (normal : ∀ unit ∈ units, Identity.IsNormal unit.identity)
    (nodup : (units.map (·.identity)).Nodup) (ht : Runs (context.runTasks units) v outcomes s)
    (ha : Runs (outcomes.foldlM (applyOutcome context.store) start) s assembly w) :
    w = s ∧ Updated context v start units assembly := by
  unfold TaskContext.runTasks at ht
  obtain ⟨unsorted, t, hm, ht⟩ := Runs.bind_iff.mp ht
  obtain ⟨rfl, rfl⟩ := Runs.pure_iff.mp ht
  obtain ⟨labels, _, written⟩ := TaskContext.mapM_runTask_runs normal nodup hm
  have perm := List.mergeSort_perm unsorted
    fun first second => !decide (second.identity < first.identity)
  have identities : unsorted.map (·.identity) = units.map (·.identity) := by
    have := congrArg (List.map (·.1)) labels
    simpa [List.map_map, Function.comp_def] using this
  have distinct := (perm.map (·.identity)).nodup_iff.mpr (identities ▸ nodup)
  obtain ⟨rfl, applied⟩ := foldlM_applyOutcome_runs distinct ha
  have outcome (unit : BuildUnit) (hu : unit ∈ units) : ∃ outcome ∈ unsorted.mergeSort
      fun first second => !decide (second.identity < first.identity),
      outcome.identity = unit.identity ∧ outcome.kind = unit.kind := by
    have label : (unit.identity, unit.kind)
        ∈ unsorted.map fun outcome => (outcome.identity, outcome.kind) :=
      labels ▸ List.mem_map_of_mem hu
    obtain ⟨outcome, ho, he⟩ := List.mem_map.mp label
    exact ⟨outcome, perm.mem_iff.mpr ho, (Prod.mk.inj he).1, (Prod.mk.inj he).2⟩
  refine ⟨rfl, ⟨applied.settings, ?_, ?_, ?_⟩⟩
  · intro name hn
    apply applied.kept
    intro outcome ho he
    have : name ∈ units.map (·.identity) :=
      identities ▸ he ▸ List.mem_map_of_mem (perm.mem_iff.mp ho)
    obtain ⟨unit, hu, hi⟩ := List.mem_map.mp this
    exact hn unit hu hi
  · intro unit hu hw
    obtain ⟨outcome, ho, hi, hk⟩ := outcome unit hu
    obtain ⟨u, content, traced, hc, hl, htr, hr⟩ := written unit hu hw
    obtain ⟨stored, hs, he⟩ := applied.fresh outcome ho (hk ▸ hw)
    rw [hi] at hs he
    refine ⟨u, content, traced, hc, hl, htr, ?_⟩
    unfold UnitStore.read at hs
    obtain ⟨file, hf, hd⟩ := Except.bind_eq_ok_iff.mp hs
    rw [Workspace.readOr, Except.mapError_eq_ok_iff, hr] at hf
    cases hf
    rw [UnitStore.decode_encode _ _ version] at hd
    cases hd
    exact he
  · intro unit hu hk
    obtain ⟨outcome, ho, hi, hko⟩ := outcome unit hu
    rw [← hi]
    exact applied.gone outcome ho (hko.trans hk)

end Invocation

end MethodTrace
