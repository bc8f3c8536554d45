import MethodTrace.ClassFile
import MethodTrace.Trace.Method

/-!
Tracing of classes.

`instrument` traces the methods whose tags are selected, unless they are traced already; a class
without such a method is left alone.
-/

namespace MethodTrace

/-- A class with traced methods, and their tags in the order of declaration. -/
structure Instrumented where
  file : ClassFile
  tags : List String
  deriving DecidableEq

namespace Instrumented

/-- A method that has to be traced: its place, that of its body, and the decoded body. -/
structure Selected where
  index : Nat
  codeIndex : Nat
  method : Member
  name : String
  tag : String
  body : Body
  code : Decoded

/-- A selected method with its new flow and the body that this is written as. -/
structure Rewritten where
  selected : Selected
  flow : Flow
  body : Body

/-- Names the method in whose body something is wrong. -/
def naming (name : String) (result : Except ClassFileError α) : Except ClassFileError α :=
  result.mapError (·.inMethod name)

/-- Looks at a method; nothing is returned for one that stays as it is. -/
def select? (file : ClassFile) (className : String) (selects : String → Bool) (hooks : Hooks)
    (method : Member) (index : Nat) : Except ClassFileError (Option Selected) := do
  let name ← file.pool.utf8 method.name
  let tag := traceTag className name
  if !selects tag then return none
  let some codeIndex := method.attributeIndex? file.pool "Code" | return none
  let some attr := method.attributes[codeIndex]? | return none
  let body ← naming name (Body.parse attr.info)
  let code ← naming name (Decoded.ofCode body.code)
  if ← naming name (Entry.isTraced file.pool hooks name tag code.instructions) then return none
  return some { index, codeIndex, method, name, tag, body, code }

/-- The methods that have to be traced. -/
def selection (file : ClassFile) (selects : String → Bool) (hooks : Hooks) :
    Except ClassFileError (List Selected) := do
  let className ← file.name
  let found ← file.methods.zipIdx.mapM fun (method, index) =>
    select? file className selects hooks method index
  return found.filterMap id

/-- Traces a selected method. -/
def traceSelected (file : ClassFile) (hooks : HookIndices) (selected : Selected) :
    ConstantPool.Extend Rewritten := do
  let className ← MonadExcept.ofExcept file.name
  let descriptor ← MonadExcept.ofExcept (file.pool.utf8 selected.method.descriptor)
  let target : TracedMethod := {
    signature := ⟨className, selected.name, descriptor, selected.method.access⟩
    majorVersion := file.majorVersion
    tag := selected.tag }
  let (flow, body) ← ExceptT.adapt (·.inMethod selected.name)
    (target.instrumentBody hooks selected.body selected.code)
  return ⟨selected, flow, body⟩

/-- Traces selected methods one after the other. -/
def traceAll (file : ClassFile) (hooks : Hooks) (selection : List Selected) :
    ConstantPool.Extend (List Rewritten) := do
  let beginHook ← ConstantPool.methodrefIndex hooks.beginHook
  let endHook ← ConstantPool.methodrefIndex hooks.endHook
  selection.mapM (traceSelected file ⟨beginHook, endHook⟩)

/-- The methods of a class that are traced, and the pool to which they refer. -/
def rewrite (file : ClassFile) (selects : String → Bool) (hooks : Hooks) :
    Except ClassFileError (List Rewritten × ConstantPool) := do
  let selection ← selection file selects hooks
  if selection.isEmpty then return ([], file.pool)
  let (result, pool) := file.pool.extend (traceAll file hooks selection)
  return (← result, pool)

/-- Replaces the payload of a method's body. -/
def replaceBody (methods : List Member) (rewritten : Rewritten) : List Member :=
  methods.modify rewritten.selected.index fun method =>
    { method with
      attributes := method.attributes.modify rewritten.selected.codeIndex
        ({ · with info := rewritten.body.toBytes }) }

end Instrumented

/-- Traces the methods of a class whose tags are selected. -/
def instrument (file : ClassFile) (selects : String → Bool) (hooks : Hooks) :
    Except ClassFileError (Option Instrumented) := do
  let (rewritten, pool) ← Instrumented.rewrite file selects hooks
  if rewritten.isEmpty then return none
  let methods := rewritten.foldl Instrumented.replaceBody file.methods
  return some ⟨{ file with pool, methods }, rewritten.map (·.selected.tag)⟩

end MethodTrace
