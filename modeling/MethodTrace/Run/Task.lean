import MethodTrace.Cache.UnitStore
import MethodTrace.Run.Error
import MethodTrace.Trace.Unit
import MethodTrace.Unit.Change

/-!
Tasks: the work for single units.
-/

namespace MethodTrace

/-- What tasks have in common. -/
structure TaskContext where
  filter : TagFilter
  hooks : Hooks
  store : UnitStore

/-- What was done for a unit, with the tags of the methods that were traced. -/
structure TaskOutcome where
  identity : String
  kind : ChangeKind
  tags : List String
  deriving DecidableEq

/-- The bytes of a unit that has to be written. -/
def BuildUnit.load (unit : BuildUnit) (workspace : Workspace) : Except RunError Bytes :=
  match unit.content with
  | .bytes content => .ok content
  | .file path => workspace.readOr (.io path) path
  | .absent => .error (.missingContent unit.identity)

namespace TaskContext

/-- Traces the content of a unit. -/
def trace (context : TaskContext) (identity : String) (content : Bytes) :
    Except RunError TracedUnit :=
  (traceUnit identity content context.filter context.hooks).mapError (.untraceable identity)

/-- Traces a unit and stores it. -/
def writeUnit (context : TaskContext) (unit : BuildUnit) : Action RunError TaskOutcome := do
  let content ← Action.look unit.load
  let traced ← context.trace unit.identity content
  (context.store.write unit.identity traced.bytes).adapt .cache
  return ⟨unit.identity, unit.kind, traced.tags⟩

/-- Does what has to be done for a unit. -/
def runTask (context : TaskContext) (unit : BuildUnit) : Action RunError TaskOutcome := do
  match unit.kind with
  | .added | .modified => context.writeUnit unit
  | .removed =>
    (context.store.remove unit.identity).adapt .cache
    return ⟨unit.identity, unit.kind, []⟩
  | .unchanged => return ⟨unit.identity, unit.kind, []⟩

/-- Does what has to be done for some units, one after the other, up to the first failure. The
outcomes are in the order of their identities. -/
def runTasks (context : TaskContext) (units : List BuildUnit) :
    Action RunError (List TaskOutcome) := do
  let outcomes ← units.mapM context.runTask
  return outcomes.mergeSort fun first second => !(second.identity < first.identity)

end TaskContext

end MethodTrace
