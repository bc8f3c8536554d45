import MethodTrace.Proofs.RunHistories

/-!
The store of units as a map.

Whatever has been done with a store that was bare, the file of a unit holds what was written for it
last. Each operation keeps this, since it changes no other file and leaves the store tidy.
-/

namespace MethodTrace.UnitStore

/-- What is done with a store: a unit is written or removed, or all units are removed. -/
inductive Operation
  | write (identity : String) (content : Bytes)
  | remove (identity : String)
  | clear

namespace Operation

/-- Whether an operation is about the unit of an identity. -/
def Concerns : Operation → String → Prop
  | write other _, identity => other = identity
  | remove other, identity => other = identity
  | clear, _ => True

/-- An operation on a normal identity, or on all. -/
def IsNormal : Operation → Prop
  | write identity _ => Identity.IsNormal identity
  | remove identity => Identity.IsNormal identity
  | clear => True

def perform (store : UnitStore) : Operation → Action CacheError Unit
  | write identity content => store.write identity content
  | remove identity => store.remove identity
  | clear => store.clear

end Operation

/-- The last operation that concerns an identity has written some content. -/
def LastWritten (operations : List Operation) (identity : String) (content : Bytes) : Prop :=
  ∃ before after, operations = before ++ .write identity content :: after ∧
    ∀ operation ∈ after, ¬operation.Concerns identity

variable {store : UnitStore} {operations : List Operation} {operation : Operation}
  {identity other : String} {content found bytes : Bytes} {u v w : Workspace} {x : Unit}

theorem lastWritten_concat : LastWritten (operations ++ [operation]) identity content ↔
    operation = .write identity content ∨
      ¬operation.Concerns identity ∧ LastWritten operations identity content := by
  constructor
  · rintro ⟨before, after, he, ha⟩
    rcases List.eq_nil_or_concat' after with rfl | ⟨front, last, rfl⟩
    · exact .inl (List.cons.inj (List.append_inj' he rfl).2).1
    · rw [← List.cons_append, ← List.append_assoc] at he
      obtain ⟨rfl, same⟩ := List.append_inj' he rfl
      obtain ⟨rfl, -⟩ := List.cons.inj same
      exact .inr ⟨ha _ (by simp), before, front, rfl, fun other ho => ha other (by simp [ho])⟩
  · rintro (rfl | ⟨apart, before, after, rfl, ha⟩)
    · exact ⟨operations, [], rfl, by simp⟩
    · refine ⟨before, after ++ [operation], by simp, fun other ho => ?_⟩
      rcases List.mem_append.mp ho with ho | ho
      · exact ha other ho
      · exact List.mem_singleton.mp ho ▸ apart

/-- What operations have left in a store: its files hold what was written last. -/
structure Records (store : UnitStore) (operations : List Operation) (w : Workspace) : Prop where
  tidy : store.Tidy w
  file : ∀ identity, Identity.IsNormal identity → ∀ bytes,
    w.fileAt? (store.unitPath identity) = some bytes ↔
      ∃ content, LastWritten operations identity content ∧ bytes = encode store.version content

theorem Bare.records (bare : store.Bare w) : store.Records [] w := by
  refine ⟨bare.tidy, fun identity normal bytes => ?_⟩
  rw [Workspace.fileAt?_eq_some_iff]
  constructor
  · intro there
    exact absurd there (bare _ bytes (below_unitPath normal))
  · rintro ⟨content, ⟨before, after, none, _⟩, _⟩
    simp at none

/-- An operation on a unit keeps the store tidy and leaves the files of other units as they are. -/
theorem leaves_perform (normal : operation.IsNormal) (ho : Identity.IsNormal other)
    (apart : ¬operation.Concerns other) :
    Leaves (fun v w => store.StaysTidy v w ∧
      w.fileAt? (store.unitPath other) = v.fileAt? (store.unitPath other))
      (operation.perform store) := by
  have away {name : String} (hn : Identity.IsNormal name) (ne : name ≠ other) :
      Place.named (store.unitPath other) ∉ ({Place.named (store.unitPath name)} : Set Place) :=
    fun same => ne (unitPath_injective hn ho same.symm)
  intro before
  cases operation with
  | write name content =>
    have tidy := staysTidy_write store normal content before
    have changes := (leaves_write store name content before).changes tidy.directories
    exact ⟨tidy, changes.fileAt?_eq (away normal apart)⟩
  | remove name =>
    have tidy := staysTidy_remove store name before
    have changes := (leaves_remove store name before).changes tidy.directories
    exact ⟨tidy, changes.fileAt?_eq (away normal apart)⟩
  | clear => exact absurd trivial apart

/-- A unit that is removed from a tidy store is gone. -/
theorem Tidy.fileAt?_of_remove (tidy : store.Tidy v) (normal : Identity.IsNormal identity)
    (h : Runs (store.remove identity) v x w) : w.fileAt? (store.unitPath identity) = none := by
  rw [Option.eq_none_iff_forall_ne_some]
  intro bytes there
  rw [Workspace.fileAt?_eq_some_iff] at there
  unfold remove at h
  rcases Action.clear_iff.mp h with h | ⟨h, rfl⟩
  · rw [(Workspace.changes_remove h).2] at there
    cases there
  · have reaches := tidy.reaches (mem_identities_iff.mpr ⟨normal, bytes, there⟩)
    rw [Workspace.remove_eq_ok_iff.mpr ⟨reaches, ⟨bytes, there⟩, rfl⟩] at h
    cases h

section Histories

variable (trimmed : Path.Trimmed store.root) (ne : store.root ≠ "")
include trimmed ne

theorem Records.perform (records : store.Records operations v) (normal : operation.IsNormal)
    (h : Runs (operation.perform store) v x w) : store.Records (operations ++ [operation]) w := by
  have tidy : store.Tidy w := by
    cases operation with
    | write name content => exact ((staysTidy_write store normal content).of_runs h).tidy records.tidy
    | remove name => exact ((staysTidy_remove store name).of_runs h).tidy records.tidy
    | clear => exact (records.tidy.bare_of_clear trimmed ne h).tidy
  refine ⟨tidy, fun other ho bytes => ?_⟩
  simp only [lastWritten_concat]
  by_cases apart : ¬operation.Concerns other
  · -- the file of another unit stays as it is
    have unwritten (content : Bytes) : operation ≠ .write other content := by
      rintro rfl
      exact apart rfl
    rw [((leaves_perform normal ho apart).of_runs h).2, records.file other ho bytes]
    simp only [unwritten, apart, not_false_eq_true, true_and, false_or]
  · have concerned := not_not.mp apart
    simp only [apart, false_and, or_false]
    cases operation with
    | write name content =>
      obtain rfl : name = other := concerned
      have write : Runs (store.write name content) v x w := h
      have read := (changes_write write).2
      have there := Workspace.fileAt?_eq_some_iff.mpr (Workspace.read_eq_ok_iff.mp read).2
      rw [there]
      constructor
      · intro same
        exact ⟨content, rfl, (Option.some.inj same).symm⟩
      · rintro ⟨_, same, rfl⟩
        cases same
        rfl
    | remove name =>
      obtain rfl : name = other := concerned
      rw [records.tidy.fileAt?_of_remove normal h]
      simp
    | clear =>
      have bare := records.tidy.bare_of_clear trimmed ne h
      have gone : w.fileAt? (store.unitPath other) ≠ some bytes := fun there =>
        bare _ bytes (below_unitPath ho) (Workspace.fileAt?_eq_some_iff.mp there)
      simp [gone]

end Histories

end MethodTrace.UnitStore
