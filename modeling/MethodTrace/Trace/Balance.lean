import MethodTrace.ClassFile
import MethodTrace.Code.Exploration
import MethodTrace.Trace.Method

/-!
The balance of hook calls in a class.

Every method that calls the begin hook is walked along all its paths. A path may call begin once
and end once after it, returns only after both, and lets an exception escape only when both or
none have been called. Every instruction may throw, except an end call and a return.
-/

namespace MethodTrace

/-- What a walk through a method has called so far. -/
structure Calls where
  begun : Bool
  ended : Bool
  deriving DecidableEq

/-- What an instruction means for the balance. -/
inductive HookCall
  | begins
  | ends
  | other
  deriving DecidableEq

/-- Why the hook calls of a class are not balanced. -/
inductive Imbalance
  | unreadable (cause : ClassFileError)
  | fallsOff (method : String) (label : Label)
  | escape (method : String) (label : Label) (calls : Calls)
  | secondBegin (method : String) (label : Label)
  | unmatchedEnd (method : String) (label : Label)
  | openReturn (method : String) (label : Label) (calls : Calls)
  deriving DecidableEq

namespace Imbalance

/-- How often a hook has been called. -/
def times (called : Bool) : String :=
  if called then "1" else "0"

def message : Imbalance → String
  | unreadable cause => cause.message
  | fallsOff method label => method ++ s!": execution falls off the end at {label}"
  | escape method label calls =>
    method ++ s!": exception at instruction {label} escapes with begin=" ++ times calls.begun
      ++ " end=" ++ times calls.ended
  | secondBegin method label => method ++ s!": second begin at instruction {label}"
  | unmatchedEnd method label => method ++ s!": unmatched end at instruction {label}"
  | openReturn method label calls =>
    method ++ s!": return at instruction {label} with begin=" ++ times calls.begun
      ++ " end=" ++ times calls.ended

end Imbalance

namespace Balance

/-- What an instruction means; a static call has to name a method. -/
def hookCall (pool : ConstantPool) (hooks : Hooks) (insn : Instruction) :
    Except ClassFileError HookCall := do
  if insn.opcode ≠ Opcode.invokestatic then return .other
  match insn.indexOperand? with
  | none => return .other
  | some index =>
    let callee ← pool.memberRef index
    if callee.owner = hooks.owner ∧ callee.name = hooks.beginName then return .begins
    else if callee.owner = hooks.owner ∧ callee.name = hooks.endName then return .ends
    else return .other

/-- A method in the form in which it is walked. -/
structure Walk where
  name : String
  instructions : Array (Instruction × HookCall)
  handlers : List Handler

/-- The handlers that see an exception, up to the first that catches all, and whether there is
such a one. -/
def dispatch (label : Label) : List Handler → List Handler × Bool
  | [] => ([], false)
  | handler :: rest =>
    if handler.covers label then
      if handler.catchType = 0 then ([handler], true)
      else ((handler :: (dispatch label rest).1), (dispatch label rest).2)
    else dispatch label rest

/-- Where an exception of an instruction leads to. -/
def thrown (walk : Walk) (insn : Instruction) (call : HookCall) (label : Label) (calls : Calls) :
    Except Imbalance (List Label) :=
  if call = .ends ∨ insn.opcode.isReturn then .ok []
  else
    let (handlers, caught) := dispatch label walk.handlers
    if !caught ∧ calls.begun ≠ calls.ended then .error (.escape walk.name label calls)
    else .ok (handlers.map (·.handler))

/-- The calls after an instruction has had its effect. -/
def performed (walk : Walk) (call : HookCall) (label : Label) (calls : Calls) :
    Except Imbalance Calls :=
  match call with
  | .other => .ok calls
  | .begins =>
    if calls.begun then .error (.secondBegin walk.name label) else .ok { calls with begun := true }
  | .ends =>
    if calls.begun ∧ !calls.ended then .ok { calls with ended := true }
    else .error (.unmatchedEnd walk.name label)

/-- Where an instruction leads to without an exception. -/
def continued (walk : Walk) (insn : Instruction) (label : Label) (calls : Calls) :
    Except Imbalance (List Label) :=
  if insn.opcode.isReturn then
    if calls.begun ∧ calls.ended then .ok [] else .error (.openReturn walk.name label calls)
  else .ok (insn.targets ++ if insn.endsBlock then [] else [label + 1])

/-- The number of a state of a walk. -/
def place (label : Label) (calls : Calls) : Nat :=
  4 * label + 2 * calls.begun.toNat + calls.ended.toNat

/-- The state of a walk that a number stands for. -/
def stateOf (place : Nat) : Label × Calls :=
  (place / 4, ⟨place / 2 % 2 == 1, place % 2 == 1⟩)

/-- The states that a state leads to. -/
def next (walk : Walk) (label : Label) (calls : Calls) : Except Imbalance (List Nat) := do
  match walk.instructions[label]? with
  | none => throw (.fallsOff walk.name label)
  | some (insn, call) =>
    let thrown ← thrown walk insn call label calls
    let after ← performed walk call label calls
    let continued ← continued walk insn label after
    return thrown.map (place · calls) ++ continued.map (place · after)

/-- Walks a method along all its paths. -/
def walkAll (walk : Walk) : Except Imbalance Unit := do
  let _ ← Exploration.explore
    (fun place () => do
      let (label, calls) := stateOf place
      return (← next walk label calls).map (·, ()))
    (fun place () => .fallsOff walk.name (stateOf place).1)
    (fun place () () => .fallsOff walk.name (stateOf place).1)
    [(place 0 ⟨false, false⟩, ())]
    (Array.replicate (4 * walk.instructions.size) none)

/-- The walk through a method, if it has a body. -/
def walkOf? (pool : ConstantPool) (hooks : Hooks) (method : Member) :
    Except ClassFileError (Option Walk) := do
  let name ← pool.utf8 method.name
  let some index := method.attributeIndex? pool "Code" | return none
  let some attr := method.attributes[index]? | return none
  let body ← Body.parse attr.info
  let code ← Decoded.ofCode body.code
  let handlers ← code.handlers body.exceptions
  let marked ← code.instructions.toList.mapM fun insn => return (insn, ← hookCall pool hooks insn)
  return some ⟨name, marked.toArray, handlers⟩

/-- Checks a method. -/
def checkMethod (pool : ConstantPool) (hooks : Hooks) (method : Member) :
    Except Imbalance Unit := do
  match walkOf? pool hooks method with
  | .error cause => throw (.unreadable cause)
  | .ok none => return
  | .ok (some walk) => if walk.instructions.any (·.2 == .begins) then walkAll walk

end Balance

/-- Checks that every method of a class that calls the begin hook pairs its hook calls. -/
def checkBalance (data : Bytes) (hooks : Hooks) : Except Imbalance Unit := do
  match ClassFile.parse data with
  | .error cause => throw (.unreadable cause)
  | .ok file =>
    let _ ← file.methods.mapM (Balance.checkMethod file.pool hooks)

end MethodTrace
