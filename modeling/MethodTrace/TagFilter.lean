import MethodTrace.ContentHash
import MethodTrace.Pattern

/-!
Filters over tags, made of patterns that include and patterns that exclude.
-/

namespace MethodTrace

/-- A text in a rule that is no pattern. -/
structure InvalidPattern where
  pattern : String
  deriving DecidableEq

namespace InvalidPattern

/-- What is said about the text. -/
def message (fault : InvalidPattern) : String :=
  "invalid trace pattern '" ++ fault.pattern ++ "': the expression does not compile"

end InvalidPattern

/-- A filter over tags. One that is not enabled selects nothing. -/
structure TagFilter where
  includes : List Pattern
  excludes : List Pattern
  enabled : Bool

namespace TagFilter

/-- Compiles the texts of rules; the first one that is no pattern is reported. -/
def compileAll (patterns : List String) : Except InvalidPattern (List Pattern) :=
  patterns.mapM fun text =>
    match Pattern.compile? (Pattern.anchored text) with
    | some pattern => .ok pattern
    | none => .error ⟨text⟩

/-- The filter of two lists of patterns. -/
def ofPatterns (includes excludes : List String) : Except InvalidPattern TagFilter := do
  let includes ← compileAll includes
  return ⟨includes, ← compileAll excludes, true⟩

/-- The filter that selects nothing. -/
def disabled : TagFilter := ⟨[], [], false⟩

/-- Whether a tag is selected: by no exclude pattern, and by some include pattern unless there are
none. -/
def selects (filter : TagFilter) (tag : String) : Bool :=
  filter.enabled && !filter.excludes.any (·.isMatch tag)
    && (filter.includes.isEmpty || filter.includes.any (·.isMatch tag))

/-- The texts of patterns in ascending order. -/
def sortedTexts (patterns : List Pattern) : List String :=
  (patterns.map (·.text)).mergeSort fun a b => !(b < a)

/-- A hash of the rules that does not depend on their order in each list. -/
def fingerprint (filter : TagFilter) : ContentHash :=
  ContentHash.ofParts <| List.map Bytes.ofString <|
    (if filter.enabled then "on" else "off") :: "include" :: sortedTexts filter.includes
      ++ "exclude" :: sortedTexts filter.excludes

end TagFilter

end MethodTrace
