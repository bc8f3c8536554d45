import Std.Data.ExtTreeSet
import MethodTrace.Archive.File
import MethodTrace.Cache
import MethodTrace.Run.Invocation
import MethodTrace.Unit.Identity

/-!
Detection of changes: which units a run has to write, to remove or to leave alone.

A unit comes from the first input that has it, where archives come before directories. The members
of archives are compared by their fingerprints; loose files under the directories are as the host
lists them, or all new.
-/

namespace MethodTrace

/-- A file in an archive. -/
structure ArchiveMember where
  identity : String
  content : Bytes
  deriving DecidableEq

/-- The unit that an archive gives to a run: the place of the archive among the inputs, and the
content. -/
structure ArchivedUnit where
  archive : Nat
  content : Bytes
  deriving DecidableEq

/-- The units of all archives by their identities. -/
abbrev ArchivedUnits := Std.ExtTreeMap String ArchivedUnit

/-- What a run has to do, and the fingerprints of the members of its archives. -/
structure Detection where
  changes : ChangeSet
  fingerprints : Fingerprints

namespace Detection

/-- The identity of a path from an input, which may not begin at the root nor lead upwards. -/
def identityOf (path : String) : Except RunError String :=
  if path.startsWith "/" || path.startsWith "\\" then .error (.unsafePath path)
  else
    match Identity.normalize? path with
    | some identity => .ok identity
    | none => .error (.unsafePath path)

/-- An entry as a file with an identity. -/
def member (entry : ArchiveEntry) : Except RunError ArchiveMember := do
  let identity ← identityOf entry.name
  let content ← entry.content.mapError .archive
  return ⟨identity, content⟩

/-- The files in an archive. -/
def members (archive : Archive) : Except RunError (List ArchiveMember) :=
  (archive.filter (!·.isDirectory)).mapM member

/-- Reads the files in the archive of a path. -/
def scan (workspace : Workspace) (path : String) : Except RunError (List ArchiveMember) := do
  members (← (Archive.ofFile workspace path).mapError .archive)

/-- Adds the files in an archive, except those whose identity is taken. -/
def claim (units : ArchivedUnits) (scanned : List ArchiveMember × Nat) : ArchivedUnits :=
  scanned.1.foldl
    (fun units member => units.insertIfNew member.identity ⟨scanned.2, member.content⟩) units

/-- The units that several archives give; the first one that has a unit gives it. -/
def archivedUnits (scans : List (List ArchiveMember)) : ArchivedUnits :=
  scans.zipIdx.foldl claim ∅

/-- The fingerprints of units. -/
def fingerprintsOf (units : ArchivedUnits) : Fingerprints :=
  units.map fun _ unit => ContentHash.ofBytes unit.content

/-- The unit of an identity, with its content if that is to be written. -/
def archiveUnit? (units : ArchivedUnits) (kind : ChangeKind) (identity : String) :
    Option BuildUnit := do
  let unit ← units[identity]?
  return ⟨identity, .archive unit.archive, kind,
    if kind.needsWrite then .bytes unit.content else .absent⟩

/-- The changes of the members of archives. -/
def archiveChanges (units : ArchivedUnits) (changes : MemberChanges) : ChangeSet where
  added := changes.added.filterMap (archiveUnit? units .added)
  modified := changes.modified.filterMap (archiveUnit? units .modified)
  removed := changes.removed.map fun identity => ⟨identity, .previous, .removed, .absent⟩
  unchanged := changes.unchanged.filterMap (archiveUnit? units .unchanged)

/-- The unit of a listed change, if something is to be done for it. -/
def feedUnit? (directories : List String) (change : FileChange) :
    Except RunError (Option BuildUnit) := do
  match directories.zipIdx.find? fun (root, _) => Path.same root change.root with
  | none => throw (.unknownRoot change.root)
  | some (root, index) =>
    let path := change.relativePath
    let identity ← identityOf path
    let unit (content : Content) : BuildUnit := ⟨identity, .directory index, change.kind, content⟩
    return match change.kind with
      | .unchanged => none
      | .removed => some (unit .absent)
      | .added | .modified => some (unit (.file (Path.join root path)))

/-- The units of a change feed. -/
def feedUnits (directories : List String) (feed : List FileChange) :
    Except RunError (List BuildUnit) :=
  List.reduceOption <$> feed.mapM (feedUnit? directories)

/-- A file under an input directory as a new unit; the names lead to it from the directory. -/
def fileUnit (root : String) (index : Nat) (names : List String) : Except RunError BuildUnit := do
  let path := names.foldl Path.join root
  let identity ← identityOf ((Path.stripPrefix? path root).getD path)
  return ⟨identity, .directory index, .added, .file path⟩

/-- The files under an input directory, which may be missing. -/
def rootUnits (workspace : Workspace) (root : String) (index : Nat) :
    Except RunError (List BuildUnit) :=
  match workspace.place root with
  | .error _ => .ok []
  | .ok place => (workspace.filesBelow place).mapM fun (names, _) => fileUnit root index names

/-- The files under all input directories. -/
def walkedUnits (workspace : Workspace) (directories : List String) :
    Except RunError (List BuildUnit) :=
  List.flatten <$> directories.zipIdx.mapM fun (root, index) => rootUnits workspace root index

/-- The first unit of each identity that has not been seen before. -/
def firstOfEach (seen : Std.ExtTreeSet String) : List BuildUnit → List BuildUnit
  | [] => []
  | unit :: units =>
    if seen.contains unit.identity then firstOfEach seen units
    else unit :: firstOfEach (seen.insert unit.identity) units

/-- Whether some unit has an identity. -/
def mentions (units : List BuildUnit) (identity : String) : Bool :=
  units.any (·.identity == identity)

/-- Adds loose units, each of an identity of its own. One that an archive no longer has replaces the
unit of the archive. -/
def withLoose (changes : ChangeSet) (loose : List BuildUnit) : ChangeSet :=
  let settled := loose.map fun unit =>
    if unit.kind = .added ∧ mentions changes.removed unit.identity then
      { unit with kind := .modified }
    else unit
  let remaining := changes.removed.filter fun unit => !mentions loose unit.identity
  settled.foldl ChangeSet.push { changes with removed := remaining }

/-- The first input directory with a file of an identity, and the path of the file. -/
def uncovered? (workspace : Workspace) (directories : List String) (identity : String) :
    Option (Nat × String) :=
  directories.zipIdx.findSome? fun (root, index) =>
    let path := Path.descend root identity
    if workspace.isFile path then some (index, path) else none

/-- A unit that is removed as a modified one, if there is a loose file that it used to hide. -/
def uncoveredUnit? (workspace : Workspace) (directories : List String) (unit : BuildUnit) :
    Option BuildUnit := do
  let (index, path) ← uncovered? workspace directories unit.identity
  return ⟨unit.identity, .directory index, .modified, .file path⟩

/-- Brings out the loose files that removed units used to hide. -/
def withUncovered (workspace : Workspace) (directories : List String) (changes : ChangeSet) :
    ChangeSet :=
  let uncover := uncoveredUnit? workspace directories
  { changes with
    modified := changes.modified ++ changes.removed.filterMap uncover
    removed := changes.removed.filter fun unit => (uncover unit).isNone }

/-- The loose units of a run: those that are listed, or all of them if nothing is known or
everything is built anew. -/
def looseUnits (workspace : Workspace) (invocation : Invocation) (full : Bool) :
    Except RunError (List BuildUnit) :=
  match invocation.changes, full with
  | .listed feed, false => feedUnits invocation.directories feed
  | _, _ => walkedUnits workspace invocation.directories

end Detection

/-- What a run has to do; everything, if it is to be built anew. -/
def detect (workspace : Workspace) (invocation : Invocation) (cache : Cache) (full : Bool) :
    Except RunError Detection := do
  let scans ← invocation.archives.mapM (Detection.scan workspace)
  let units := Detection.archivedUnits scans
  let fingerprints := Detection.fingerprintsOf units
  let previous := if full then ∅ else cache.fingerprints
  let changes := Detection.archiveChanges units (fingerprints.changesSince previous)
  let loose ← Detection.looseUnits workspace invocation full
  let loose := Detection.firstOfEach (.ofList fingerprints.keys) loose
  let changes := Detection.withLoose changes loose
  return ⟨Detection.withUncovered workspace invocation.directories changes, fingerprints⟩

end MethodTrace
