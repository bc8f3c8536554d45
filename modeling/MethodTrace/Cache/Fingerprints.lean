import Std.Data.ExtTreeMap
import MethodTrace.ContentHash
import MethodTrace.Unit.Change

/-!
Fingerprints of the members of archives, and what changed between two runs.
-/

namespace MethodTrace

/-- The hashes of units by their identities. -/
abbrev Fingerprints := Std.ExtTreeMap String ContentHash

/-- The identities of archive members by what happened to them, each list in ascending order. -/
structure MemberChanges where
  added : List String
  modified : List String
  removed : List String
  unchanged : List String
  deriving DecidableEq

namespace Fingerprints

/-- What happened to a unit of some hash, if these are the fingerprints of the previous run. -/
def kindOf (previous : Fingerprints) (identity : String) (hash : ContentHash) : ChangeKind :=
  match previous[identity]? with
  | none => .added
  | some known => if known = hash then .unchanged else .modified

/-- The identities to which the same has happened. -/
def ofKind (current previous : Fingerprints) (kind : ChangeKind) : List String :=
  (current.toList.filter fun (identity, hash) => previous.kindOf identity hash = kind).map (·.1)

/-- What has changed since the previous run. -/
def changesSince (current previous : Fingerprints) : MemberChanges where
  added := current.ofKind previous .added
  modified := current.ofKind previous .modified
  removed := previous.keys.filter fun identity => !current.contains identity
  unchanged := current.ofKind previous .unchanged

end Fingerprints

namespace MemberChanges

/-- Whether nothing was added, modified or removed. -/
def isEmpty (changes : MemberChanges) : Bool :=
  changes.added.isEmpty && changes.modified.isEmpty && changes.removed.isEmpty

/-- The number of members that have to be written. -/
def dirtyCount (changes : MemberChanges) : Nat :=
  changes.added.length + changes.modified.length

end MemberChanges

end MethodTrace
