import MethodTrace.Cache.Error
import MethodTrace.Cache.UnitHeader
import MethodTrace.Workspace

/-!
The store of traced units: one file for each identity, with a header in front of the content.
-/

namespace MethodTrace

/-- A store below a directory, and the version of the tool that writes to it. -/
structure UnitStore where
  root : String
  version : String
  deriving DecidableEq

namespace UnitStore

/-- The store of an intermediate directory. -/
def ofDirectory (directory version : String) : UnitStore :=
  ⟨Path.join directory "units", version⟩

/-- The path of a unit: each segment of its identity is one step below the root. -/
def unitPath (store : UnitStore) (identity : String) : String :=
  Path.descend store.root identity

/-- The file of a unit: the length of the header, the header and the content. -/
def encode (version : String) (content : Bytes) : Bytes :=
  let header := (UnitHeader.ofContent version content).encode
  Bytes.littleEndian 4 header.length ++ header ++ content

/-- The content in the file of a unit. -/
def decode (identity : String) (file : Bytes) : Except CacheError Bytes := do
  if file.length < 4 then throw (.corruptUnit identity .tooShort)
  let size := Bytes.ofLittleEndian (file.take 4)
  let rest := file.drop 4
  if rest.length < size then throw (.corruptUnit identity .headerTooLong)
  match UnitHeader.decode? (rest.take size) with
  | none => throw (.corruptUnit identity .undecodable)
  | some header =>
    if header.magic ≠ UnitHeader.magicBytes then throw (.corruptUnit identity .badMagic)
    if header.format ≠ UnitHeader.currentFormat then
      throw (.staleUnit identity UnitHeader.currentFormat header.format)
    let content := rest.drop size
    let actual := ContentHash.ofBytes content
    if actual ≠ header.checksum then
      throw (.corruptUnit identity (.wrongChecksum actual header.checksum))
    return content

/-- Stores a unit in the place of a former one. -/
def write (store : UnitStore) (identity : String) (content : Bytes) : Action CacheError Unit := do
  let path := store.unitPath identity
  if let some directory := Path.parent? path then
    Action.createDirectories (.io directory) directory
  Action.change (.io path) (·.write path (encode store.version content))

/-- Reads a unit back. -/
def read (store : UnitStore) (workspace : Workspace) (identity : String) :
    Except CacheError Bytes := do
  let path := store.unitPath identity
  decode identity (← workspace.readOr (.io path) path)

/-- Removes a unit, if it is there. -/
def remove (store : UnitStore) (identity : String) : Action CacheError Unit :=
  let path := store.unitPath identity
  Action.clear (.io path) (·.remove path)

/-- Removes all units. -/
def clear (store : UnitStore) : Action CacheError Unit :=
  Action.clear (.io store.root) (·.removeTree store.root)

end UnitStore

end MethodTrace
