import MethodTrace.Json.Value
import MethodTrace.Unit.Change

/-!
Kinds of change in JSON: the word for the kind.
-/

namespace MethodTrace.ChangeKind

def toJson (kind : ChangeKind) : JsonValue :=
  .ofString kind.name

def ofJson? (value : JsonValue) : Option ChangeKind := do
  ofName? (← value.toChoice?)

end MethodTrace.ChangeKind
