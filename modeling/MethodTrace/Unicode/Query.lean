import MethodTrace.Unicode.Age
import MethodTrace.Unicode.Category
import MethodTrace.Unicode.Property
import MethodTrace.Unicode.Script
import MethodTrace.Unicode.Segmentation

/-!
Character sets by the names of their properties.

Names are compared loosely: case, spaces, underscores, hyphens and an initial "is" do not count.
-/

namespace MethodTrace.Unicode

/-- A name in the form in which names are compared. -/
def looseName (name : String) : String :=
  let chars := name.toList
  let isMarked := (chars.take 2).map Char.toLower == ['i', 's']
  let kept := (if isMarked then chars.drop 2 else chars).filterMap fun c =>
    if c == ' ' || c == '_' || c == '-' || c.toNat > 127 then none else some c.toLower
  -- the name "isc" is one of its own, and not the category "c" behind an initial "is"
  if isMarked && kept == ['c'] then "isc" else String.ofList kept

/-- The categories that are unions of others. -/
def compositeCategories : List (List String × List String) :=
  [(["c", "other"], ["cc", "cf", "cn", "co"]),
   (["l", "letter"], ["ll", "lm", "lo", "lt", "lu"]),
   (["lc", "casedletter"], ["ll", "lt", "lu"]),
   (["m", "mark", "combiningmark"], ["mc", "me", "mn"]),
   (["n", "number"], ["nd", "nl", "no"]),
   (["p", "punct", "punctuation"], ["pc", "pd", "pe", "pf", "pi", "po", "ps"]),
   (["s", "symbol"], ["sc", "sk", "sm", "so"]),
   (["z", "separator"], ["zl", "zp", "zs"])]

/-- The characters of a general category. -/
def category? (name : String) : Option CharSet :=
  if name = "any" then some CharSet.full
  else if name = "ascii" then some ⟨[(0, 127)]⟩
  else if name = "assigned" then (NamedSet.find? categories "cn").map (CharSet.complement CharSet.last)
  else
    match compositeCategories.find? fun entry => entry.1.contains name with
    | some (_, parts) => some (NamedSet.unionOf categories parts)
    | none => NamedSet.find? categories name

/-- The characters that a version of the standard or one before it has. -/
def age? (version : String) : Option CharSet :=
  let (before, found) := ages.span fun set => !set.names.contains version
  found.head?.map fun set => (before ++ [set]).foldl (fun all s => all ∪ s.toCharSet) CharSet.empty

/-- The characters with a two-valued property, of a category or of a script. -/
def characters? (name : String) : Option CharSet :=
  let name := looseName name
  -- these three are categories first, though they are short names of properties too
  let property :=
    if ["cf", "sc", "lc"].contains name then none else NamedSet.find? properties name
  property <|> category? name <|> NamedSet.find? scripts name

/-- The characters for which a property has some value. -/
def charactersWith? (property value : String) : Option CharSet :=
  let value := looseName value
  match looseName property with
  | "gc" | "generalcategory" | "category" => category? value
  | "sc" | "script" => NamedSet.find? scripts value
  | "scx" | "scriptextensions" => NamedSet.find? scriptExtensions value
  | "age" => age? value
  | "gcb" | "graphemeclusterbreak" => NamedSet.find? graphemeBreaks value
  | "wb" | "wordbreak" => NamedSet.find? wordBreaks value
  | "sb" | "sentencebreak" => NamedSet.find? sentenceBreaks value
  | _ => none

/-- Decimal digits. -/
def digits : CharSet := NamedSet.unionOf categories ["nd"]

/-- White space. -/
def whitespace : CharSet := NamedSet.unionOf properties ["whitespace"]

/-- The characters of words: letters, marks, digits, connectors and joiners. -/
def wordChars : CharSet :=
  NamedSet.unionOf properties ["alphabetic", "joincontrol"]
    ∪ NamedSet.unionOf categories ["mc", "me", "mn", "nd", "pc"]

end MethodTrace.Unicode
