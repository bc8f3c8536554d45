import MethodTrace.Bytes

/-!
Units of a build and the change set that sorts them by what happened to them.
-/

namespace MethodTrace

/-- What happened to a unit since the previous build. -/
inductive ChangeKind
  | added
  | modified
  | removed
  | unchanged
  deriving DecidableEq

namespace ChangeKind

/-- A unit whose bytes have to be written. -/
def needsWrite : ChangeKind → Bool
  | added | modified => true
  | removed | unchanged => false

/-- A unit whose former output has to go. -/
def dropsPrevious : ChangeKind → Bool
  | modified | removed => true
  | added | unchanged => false

/-- The word for a kind in data files. -/
def name : ChangeKind → String
  | added => "added"
  | modified => "modified"
  | removed => "removed"
  | unchanged => "unchanged"

/-- The kind that a word stands for. -/
def ofName? : String → Option ChangeKind
  | "added" => some added
  | "modified" => some modified
  | "removed" => some removed
  | "unchanged" => some unchanged
  | _ => none

theorem ofName?_name (kind : ChangeKind) : ofName? kind.name = some kind := by
  cases kind <;> rfl

end ChangeKind

/-- The input that a unit comes from, by its place in the input lists. -/
inductive Origin
  | archive (index : Nat)
  | directory (index : Nat)
  /-- A unit that only the previous build knew. -/
  | previous
  deriving DecidableEq

/-- The bytes of a unit or the path of the file that holds them. -/
inductive Content
  | bytes (data : Bytes)
  | file (path : String)
  | absent
  deriving DecidableEq

/-- One class file or resource of a build. -/
structure BuildUnit where
  identity : String
  origin : Origin
  kind : ChangeKind
  content : Content
  deriving DecidableEq

/-- The units of a build, each list in the order of discovery. -/
structure ChangeSet where
  added : List BuildUnit := []
  modified : List BuildUnit := []
  removed : List BuildUnit := []
  unchanged : List BuildUnit := []
  deriving DecidableEq

namespace ChangeSet

/-- The list of one kind. -/
def ofKind (set : ChangeSet) : ChangeKind → List BuildUnit
  | .added => set.added
  | .modified => set.modified
  | .removed => set.removed
  | .unchanged => set.unchanged

/-- Files a unit at the end of the list for its kind. -/
def push (set : ChangeSet) (unit : BuildUnit) : ChangeSet :=
  match unit.kind with
  | .added => { set with added := set.added ++ [unit] }
  | .modified => { set with modified := set.modified ++ [unit] }
  | .removed => { set with removed := set.removed ++ [unit] }
  | .unchanged => { set with unchanged := set.unchanged ++ [unit] }

/-- All units: the added ones first, then the modified, removed and unchanged ones. -/
def units (set : ChangeSet) : List BuildUnit :=
  set.added ++ set.modified ++ set.removed ++ set.unchanged

/-- The units that need a task, in the order in which the tasks start. -/
def actionable (set : ChangeSet) : List BuildUnit :=
  set.added ++ set.modified ++ set.removed

/-- Whether nothing was added, modified or removed. -/
def isEmpty (set : ChangeSet) : Bool :=
  set.added.isEmpty && set.modified.isEmpty && set.removed.isEmpty

/-- Whether some list holds a unit of this identity. -/
def contains (set : ChangeSet) (identity : String) : Bool :=
  set.units.any (·.identity == identity)

end ChangeSet

end MethodTrace
