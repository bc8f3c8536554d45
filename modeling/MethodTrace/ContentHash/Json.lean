import MethodTrace.ContentHash
import MethodTrace.Json.Value

/-!
Content hashes in JSON: strings of digits.
-/

namespace MethodTrace.ContentHash

def toJson (hash : ContentHash) : JsonValue :=
  .ofString hash.toString

def ofJson? (value : JsonValue) : Option ContentHash := do
  ofString? (← value.toText?)

end MethodTrace.ContentHash
