/-!
Paths of files, as texts with slashes.

A path is cut at its slashes. Empty pieces and dots in it name nothing, except that a path may begin
at the root or, with a dot, at the working directory. Paths are joined, shortened and compared by
the pieces that remain, but keep their spelling where an operation does not need to change it.
-/

namespace MethodTrace.Path

/-- A path cut into pieces: where it begins, and the pieces behind that. -/
structure Pieces where
  /-- A slash for the root, a dot for the working directory, or nothing. -/
  lead : String
  body : List String
  deriving DecidableEq

/-- The texts between the slashes, of which there is at least one. -/
def segments (text : List Char) : List String :=
  (text.splitOn '/').map String.ofList

/-- The pieces of a path. -/
def pieces (path : String) : Pieces :=
  match path.toList with
  | '/' :: rest => ⟨"/", segments rest⟩
  | ['.'] => ⟨".", [""]⟩
  | '.' :: '/' :: rest => ⟨".", segments ('/' :: rest)⟩
  | text => ⟨"", segments text⟩

/-- Whether a piece names nothing. -/
def isBlank (segment : String) : Bool :=
  segment == "" || segment == "."

/-- Pieces without the blank ones at the beginning. -/
def trimLeft (body : List String) : List String :=
  body.dropWhile isBlank

/-- Pieces without the blank ones at the end. -/
def trimRight (body : List String) : List String :=
  (body.reverse.dropWhile isBlank).reverse

/-- The path of some pieces. -/
def Pieces.toPath (pieces : Pieces) : String :=
  pieces.lead ++ "/".intercalate pieces.body

/-- What a path names step by step. -/
def components (path : String) : List String :=
  let pieces := pieces path
  let names := pieces.body.filter (!isBlank ·)
  if pieces.lead = "" then names else pieces.lead :: names

/-- Whether two paths name the same steps. -/
def same (first second : String) : Bool :=
  components first == components second

/-- Whether a path begins at the root. -/
def isAbsolute (path : String) : Bool :=
  path.startsWith "/"

/-- A path followed from another one; an absolute path does not depend on where it is followed
from. -/
def join (base path : String) : String :=
  if isAbsolute path || base = "" then path
  else if base.endsWith "/" then base ++ path
  else base ++ "/" ++ path

/-- The path that leads on from another one by each segment of a text. -/
def descend (base text : String) : String :=
  (segments text.toList).foldl join base

/-- The path without its last step, if it has one that is not the root. -/
def parent? (path : String) : Option String :=
  let pieces := pieces path
  match trimRight pieces.body with
  | [] => if pieces.lead = "." then some "" else none
  | body => some (Pieces.toPath ⟨pieces.lead, trimRight body.dropLast⟩)

/-- The last step of a path, if it is a name. -/
def fileName? (path : String) : Option String := do
  let name ← (trimRight (pieces path).body).getLast?
  if name = ".." then none else return name

/-- A path with another name in the place of its own; one without a name goes on with it. -/
def withFileName (path name : String) : String :=
  match fileName? path with
  | some _ => join ((parent? path).getD path) name
  | none => join path name

/-- Pieces without the first few that name something. -/
def dropNames : Nat → List String → List String
  | 0, body => body
  | count + 1, body => dropNames count (trimLeft body).tail

/-- The rest of a path behind another one with which it begins. -/
def stripPrefix? (path base : String) : Option String :=
  let pieces := pieces path
  match components base with
  | [] => some (Pieces.toPath { pieces with body := trimRight pieces.body })
  | steps =>
    if steps.isPrefixOf (components path) then
      let named := if pieces.lead = "" then steps.length else steps.length - 1
      some (Pieces.toPath ⟨"", trimRight (trimLeft (dropNames named pieces.body))⟩)
    else none

/-- The paths through which a path leads, itself included, the shortest first; the working
directory is left out where it has no spelling of its own. -/
def ancestors (path : String) : List String :=
  (upward path.length path).reverse
where
  /-- A path, its parent and so on. -/
  upward : Nat → String → List String
    | 0, _ => []
    | fuel + 1, path =>
      if path = "" then []
      else path :: ((parent? path).map (upward fuel)).getD []

end MethodTrace.Path
