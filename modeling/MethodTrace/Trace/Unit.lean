import MethodTrace.TagFilter
import MethodTrace.Trace.Instrument

/-!
Tracing of the units of a build, of which only some are classes to be traced.
-/

namespace MethodTrace

/-- The bytes of a unit, and the tags of the methods in it that have been traced. -/
structure TracedUnit where
  bytes : Bytes
  tags : List String
  deriving DecidableEq

/-- Whether a unit of this identity is a class to be traced: module descriptors and what belongs to
the description of an archive are not. -/
def isClassUnit (identity : String) : Bool :=
  let path := (identity.toList.map Char.toLower).dropWhile (· == '/')
  let hasEnding (ending : String) : Bool := ending.toList.isSuffixOf path
  hasEnding ".class" && path != "module-info.class".toList && !hasEnding "/module-info.class"
    && !"meta-inf/".toList.isPrefixOf path

/-- Traces a unit. A unit that is no class, and any unit when the filter is not enabled, is passed
on unread; so is a class in which no method has to be traced. -/
def traceUnit (identity : String) (bytes : Bytes) (filter : TagFilter) (hooks : Hooks) :
    Except ClassFileError TracedUnit := do
  if !filter.enabled || !isClassUnit identity then return ⟨bytes, []⟩
  match ← instrument (← ClassFile.parse bytes) filter.selects hooks with
  | some result => return ⟨result.file.toBytes, result.tags⟩
  | none => return ⟨bytes, []⟩

end MethodTrace
