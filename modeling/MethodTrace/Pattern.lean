import MethodTrace.Pattern.Footprint
import MethodTrace.Pattern.Meaning

/-!
Compiled patterns.

A pattern for tags is put between two anchors before it is compiled, so that it is meant to match a
tag as a whole.
-/

namespace MethodTrace

/-- A pattern that has been compiled, with its text. -/
structure Pattern where
  text : String
  regex : Pattern.Regex

namespace Pattern

/-- Compiles a text if it is a pattern and its automaton is not too large. -/
def compile? (text : String) : Option Pattern := do
  let tree ← Tree.parse? text
  let (regex, _) ← tree.toRegex? {}
  if regex.footprint ≤ maxFootprint then some ⟨text, regex⟩ else none

/-- Whether a pattern matches somewhere in a text. -/
def isMatch (pattern : Pattern) (text : String) : Bool :=
  pattern.regex.search ⟨text.toList.toArray, wordChars⟩

/-- A pattern text between the anchors of a whole text. -/
def anchored (text : String) : String :=
  "^(?:" ++ text ++ ")$"

end Pattern

end MethodTrace
