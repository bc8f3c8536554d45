import MethodTrace.Cache.Manifest
import MethodTrace.Cache.UnitStore

/-!
The state that is kept between runs: the manifest of the last successful run and the store of units.
-/

namespace MethodTrace

/-- What is known of the last successful run. -/
inductive PreviousRun
  | unknown
  | unreadable
  | known (manifest : Manifest)

/-- Why a run cannot build on the previous one. -/
inductive Invalidation
  | noManifest
  | unreadableManifest
  | otherVersion (previous : String)
  | otherSettings
  | otherArchives
  deriving DecidableEq

/-- The kept state below a directory, for a version of the tool. -/
structure Cache where
  directory : String
  version : String
  previous : PreviousRun

namespace Invalidation

/-- What is said about a reason. -/
def message : Invalidation → String
  | noManifest => "no previous fingerprints"
  | unreadableManifest => "previous fingerprints unreadable"
  | otherVersion previous => "fingerprints written by tracex " ++ previous
  | otherSettings => "settings changed"
  | otherArchives => "input archive list changed"

end Invalidation

namespace Cache

def store (cache : Cache) : UnitStore :=
  .ofDirectory cache.directory cache.version

/-- The state below a directory. A manifest that cannot be read is no error. -/
def ofDirectory (workspace : Workspace) (directory version : String) : Cache :=
  ⟨directory, version,
    match Manifest.find workspace directory with
    | .ok none => .unknown
    | .ok (some manifest) => .known manifest
    | .error _ => .unreadable⟩

/-- Why a run with some settings and archives cannot build on the previous one. -/
def invalidation? (cache : Cache) (settings : ContentHash) (archives : List String) :
    Option Invalidation :=
  match cache.previous with
  | .unknown => some .noManifest
  | .unreadable => some .unreadableManifest
  | .known manifest =>
    if manifest.version ≠ cache.version then some (.otherVersion manifest.version)
    else if manifest.settings ≠ settings then some .otherSettings
    else if manifest.archives ≠ archives then some .otherArchives
    else none

/-- The fingerprints of the previous run. -/
def fingerprints (cache : Cache) : Fingerprints :=
  match cache.previous with
  | .known manifest => manifest.members
  | .unknown | .unreadable => ∅

/-- Forgets the previous run: first its manifest, then its units. -/
def reset (cache : Cache) : Action CacheError Cache := do
  Manifest.remove cache.directory
  cache.store.clear
  return { cache with previous := .unknown }

/-- Keeps the manifest of a successful run. -/
def commit (cache : Cache) (manifest : Manifest) : Action CacheError Cache := do
  manifest.save cache.directory
  return { cache with previous := .known manifest }

end Cache

end MethodTrace
