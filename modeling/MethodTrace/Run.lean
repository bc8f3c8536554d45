import MethodTrace.Json.Value
import MethodTrace.Run.Detection
import MethodTrace.Run.Task

/-!
Runs.

A run looks at what the previous one left, detects what has changed, traces the changed units into
the store, publishes the output and keeps a manifest. The output is published only when all units
are done, and the manifest is written last.
-/

namespace MethodTrace

/-- The numbers of a finished run. -/
structure RunReport where
  added : Nat
  modified : Nat
  removed : Nat
  unchanged : Nat
  /-- Units in which methods have been traced. -/
  unitsTraced : Nat
  methodsInstrumented : Nat
  outputEntries : Nat
  fullRebuild : Bool
  deriving DecidableEq

namespace RunReport

/-- A report in one line. -/
def summary (report : RunReport) : String :=
  Nat.repr report.added ++ " added, " ++ Nat.repr report.modified ++ " modified, "
    ++ Nat.repr report.removed ++ " removed, " ++ Nat.repr report.unchanged ++ " unchanged; "
    ++ Nat.repr report.methodsInstrumented ++ " methods instrumented in "
    ++ Nat.repr report.unitsTraced ++ " units"
    ++ if report.fullRebuild then " (full rebuild)" else ""

def toJson (report : RunReport) : JsonValue :=
  let number (n : Nat) : JsonValue := .number (Nat.repr n)
  .ofMembers [
    ("added", number report.added),
    ("modified", number report.modified),
    ("removed", number report.removed),
    ("unchanged", number report.unchanged),
    ("units_rewritten", number report.unitsTraced),
    ("methods_instrumented", number report.methodsInstrumented),
    ("output_entries", number report.outputEntries),
    ("full_rebuild", .bool report.fullRebuild)]

end RunReport

/-- The version of this tool. -/
def toolVersion : String := "0.1.0"

namespace Invocation

/-- The output of the previous run, if this one may build on it. -/
def previousOutput? (workspace : Workspace) (invocation : Invocation) (cache : Cache)
    (settings : ContentHash) : Option Archive :=
  match invocation.changes, cache.invalidation? settings invocation.archives with
  | .listed _, none => (Archive.ofFile workspace invocation.output).toOption
  | _, _ => none

/-- What the archive of a previous run is made to hold after a task. -/
def applyOutcome (store : UnitStore) (assembly : Assembly) (outcome : TaskOutcome) :
    Action RunError Assembly := do
  let assembly :=
    if outcome.kind.dropsPrevious then assembly.remove outcome.identity else assembly
  if outcome.kind.needsWrite then
    let content ← Action.look fun workspace =>
      (store.read workspace outcome.identity).mapError RunError.cache
    return assembly.insert outcome.identity content
  else return assembly

/-- Publishes the output and counts its entries. A previous output stays if nothing was done. -/
def writeOutput (invocation : Invocation) (store : UnitStore) (previous : Option Archive)
    (outcomes : List TaskOutcome) : Action RunError Nat := do
  let archiveSettings := invocation.settings.archive
  match previous, outcomes with
  | some archive, [] => return archive.length
  | _, _ =>
    let start := match previous with
      | some archive => Assembly.ofArchive archive archiveSettings
      | none => Assembly.empty archiveSettings
    let assembly ← outcomes.foldlM (applyOutcome store) start
    (assembly.publish invocation.output).adapt .archive

/-- The filter of the settings, which are checked. -/
def checkedFilter (invocation : Invocation) : Except RunError TagFilter := do
  invocation.settings.check.mapError .settings
  invocation.settings.rules.toFilter.mapError fun fault => .settings (.pattern fault)

/-- Runs an invocation. -/
def run (invocation : Invocation) : Action RunError RunReport := do
  let filter ← invocation.checkedFilter
  let settings := invocation.settings.fingerprint filter
  let workspace ← get
  let cache := Cache.ofDirectory workspace invocation.intermediate toolVersion
  let previous := previousOutput? workspace invocation cache settings
  let full := previous.isNone
  let cache ← if full then cache.reset.adapt .cache else pure cache
  let detection ← Action.look fun workspace => detect workspace invocation cache full
  let context : TaskContext := ⟨filter, invocation.settings.hooks, cache.store⟩
  let outcomes ← context.runTasks detection.changes.actionable
  let entries ← invocation.writeOutput cache.store previous outcomes
  let manifest : Manifest :=
    ⟨toolVersion, settings, invocation.archives, detection.fingerprints⟩
  let _ ← (cache.commit manifest).adapt .cache
  return {
    added := detection.changes.added.length
    modified := detection.changes.modified.length
    removed := detection.changes.removed.length
    unchanged := detection.changes.unchanged.length
    unitsTraced := (outcomes.filter fun outcome => !outcome.tags.isEmpty).length
    methodsInstrumented := (outcomes.flatMap (·.tags)).length
    outputEntries := entries
    fullRebuild := full }

end Invocation

end MethodTrace
