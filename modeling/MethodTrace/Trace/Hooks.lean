import MethodTrace.ClassFile.ConstantPool

/-!
The two methods that traced code calls, and the tags by which it names itself.
-/

namespace MethodTrace

/-- The class with the two hook methods, and their names. -/
structure Hooks where
  owner : String := "android/os/Trace"
  beginName : String := "beginSection"
  endName : String := "endSection"
  deriving DecidableEq

namespace Hooks

/-- The hook that is called with the tag when a method begins. -/
def beginHook (hooks : Hooks) : MemberRef :=
  ⟨hooks.owner, hooks.beginName, "(Ljava/lang/String;)V"⟩

/-- The hook that is called when a method ends. -/
def endHook (hooks : Hooks) : MemberRef :=
  ⟨hooks.owner, hooks.endName, "()V"⟩

end Hooks

/-- The tag of a method: its class in dotted form and its own name. -/
def traceTag (className methodName : String) : String :=
  className.map (fun c => if c = '/' then '.' else c) ++ "#" ++ methodName

end MethodTrace
