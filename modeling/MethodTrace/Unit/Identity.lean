/-!
Unit identities: relative paths in one canonical spelling.

A raw path is cut at both kinds of separators; `normalize?` keeps its real segments and refuses
a path that has none or that climbs out of its tree.
-/

namespace MethodTrace.Identity

/-- Separators of raw paths. -/
def isSeparator (c : Char) : Bool :=
  c == '/' || c == '\\'

/-- A text cut at every separator, always into at least one piece. -/
def pieces (raw : String) : List String :=
  (raw.toList.splitOnP isSeparator).map String.ofList

/-- The pieces of a raw path that name something. -/
def segments (raw : String) : List String :=
  (pieces raw).filter fun segment => segment != "" && segment != "."

/-- The canonical spelling of a raw path, if it names a place inside its tree. -/
def normalize? (raw : String) : Option String :=
  let segments := segments raw
  if segments.isEmpty || segments.contains ".." then none
  else some ("/".intercalate segments)

end MethodTrace.Identity
