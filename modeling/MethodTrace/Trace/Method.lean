import MethodTrace.Code.DebugTable
import MethodTrace.Code.Decoded
import MethodTrace.Code.Layout
import MethodTrace.Code.StackDepth
import MethodTrace.Trace.Entry
import MethodTrace.Trace.Weaving

/-!
Tracing of one method.

The body is expanded to labels, hook calls are woven in, a handler for every exception is added
behind the body, and the result is laid out again. Attributes that name no places in a known way
are dropped.
-/

namespace MethodTrace

/-- A method to be traced. -/
structure TracedMethod where
  signature : MethodSignature
  majorVersion : UInt16
  tag : String

/-- The constants of the two hooks. -/
structure HookIndices where
  beginHook : UInt16
  endHook : UInt16

/-- An attribute of a body that can follow its instructions. -/
inductive PlacedTable
  | lines (rows : List LineRow)
  | locals (rows : List VariableRow)
  | frames

/-- A body with all its places as labels. -/
structure PlacedBody where
  handlers : List Handler
  frames : List Frame
  /-- The tables that are kept, each with the constant that names it. -/
  tables : List (UInt16 × PlacedTable)

/-- A traced body before it is written. -/
structure TracedBody where
  weaving : Weaving
  /-- The woven instructions and, where a range is protected, the handler behind them. -/
  instructions : Array Instruction
  handlers : List Handler
  frames : List Frame
  tables : List (UInt16 × PlacedTable)

namespace TracedMethod

/-- The first class file version whose methods carry frames. -/
def framesVersion : UInt16 := 50

def hasFrames (method : TracedMethod) : Bool :=
  framesVersion ≤ method.majorVersion

end TracedMethod

namespace PlacedTable

/-- Applies a function to every label of a table. -/
def mapLabels (f : Label → Label) : PlacedTable → PlacedTable
  | lines rows => lines (rows.map (·.mapLabels f))
  | locals rows => locals (rows.map (·.mapLabels f))
  | frames => frames

/-- The payload of a table; `frameTable` is that of the frames. -/
def write (offsets : Array Nat) (frameTable : Bytes) : PlacedTable → Bytes
  | lines rows => Bytes.counted (·.write offsets) rows
  | locals rows => Bytes.counted (·.write offsets) rows
  | frames => frameTable

def isFrames : PlacedTable → Bool
  | frames => true
  | _ => false

end PlacedTable

namespace PlacedBody

/-- Adds what an attribute says to a body; one that cannot follow its instructions is dropped. -/
def addAttribute (pool : ConstantPool) (hasFrames : Bool) (initial : List VerificationType)
    (code : Decoded) (body : PlacedBody) (attr : Attribute) : Except ClassFileError PlacedBody := do
  let keep (table : PlacedTable) := body.tables ++ [(attr.name, table)]
  match ← pool.utf8 attr.name with
  | "LineNumberTable" =>
    return { body with tables := keep (.lines (← LineRow.parseTable attr.info code)) }
  | "LocalVariableTable" | "LocalVariableTypeTable" =>
    return { body with tables := keep (.locals (← VariableRow.parseTable attr.info code)) }
  | "StackMapTable" =>
    if hasFrames then
      let frames ← Frame.decodeTable attr.info initial code
      return { body with frames, tables := keep .frames }
    else return body
  | _ => return body

/-- Expands the tables of a body. -/
def ofBody (pool : ConstantPool) (hasFrames : Bool) (initial : List VerificationType)
    (code : Decoded) (body : Body) : Except ClassFileError PlacedBody := do
  let handlers ← code.handlers body.exceptions
  body.attributes.foldlM (addAttribute pool hasFrames initial code) ⟨handlers, [], []⟩

end PlacedBody

namespace TracedBody

/-- The instruction that loads a string constant, in its short form where that suffices. -/
def loadText (index : UInt16) : Instruction :=
  if index < 256 then .plain Opcode.ldc [index.toUInt8] else .withIndex Opcode.ldcW index

/-- The markers of a method whose tag is the constant `tag`. -/
def markers (hooks : HookIndices) (anchor : Label) (tag : UInt16) : Markers where
  anchor
  prologue := [loadText tag, .withIndex Opcode.invokestatic hooks.beginHook]
  endCall := .withIndex Opcode.invokestatic hooks.endHook

/-- The class of everything that can be thrown. -/
def throwableName : String := "java/lang/Throwable"

/-- The frame at the added handler. -/
def handlerFrames (hasFrames : Bool) (label : Label) : ConstantPool.Extend (List Frame) := do
  if hasFrames then
    return [⟨label, [], [.object (← ConstantPool.classIndex throwableName)]⟩]
  else return []

/-- Weaves markers into code and relocates all tables. The handlers of the body stay before the
added one, which catches what they let pass. -/
def trace (hasFrames : Bool) (markers : Markers) (code : Decoded) (body : PlacedBody) :
    ConstantPool.Extend TracedBody := do
  let weaving := Weaving.weave markers code.instructions
  let move := weaving.relocate
  let handlers := body.handlers.map fun h =>
    { h with start := move h.start, stop := move h.stop, handler := move h.handler }
  let frames := body.frames.map (·.mapLabels move)
  let tables := body.tables.map fun (name, table) => (name, table.mapLabels move)
  let bodyEnd := weaving.instructions.size
  match weaving.protectedRanges markers.anchor with
  | [] => return { weaving, instructions := weaving.instructions, handlers, frames, tables }
  | ranges =>
    let added ← handlerFrames hasFrames bodyEnd
    return {
      weaving
      instructions := (weaving.instructions.push markers.endCall).push (.plain Opcode.athrow [])
      handlers := handlers ++ ranges.map fun (start, stop) => ⟨start, stop, bodyEnd, 0⟩
      frames := frames ++ added
      tables }

/-- The exception table of laid out handlers. -/
def exceptionRow (offsets : Array Nat) (handler : Handler) : ExceptionRow where
  start := offsetWord offsets handler.start
  stop := offsetWord offsets handler.stop
  handler := offsetWord offsets handler.handler
  catchType := handler.catchType

/-- The attributes of a laid out body; frames that have no attribute yet get one. -/
def attributes (traced : TracedBody) (hasFrames : Bool) (initial : List VerificationType)
    (offsets : Array Nat) : ConstantPool.Extend (List Attribute) := do
  let frameTable := Frame.encodeTable traced.frames initial offsets
  let kept := traced.tables.map fun (name, table) => ⟨name, table.write offsets frameTable⟩
  if hasFrames && !traced.tables.any (·.2.isFrames) && !traced.frames.isEmpty then
    return kept ++ [⟨← ConstantPool.utf8Index "StackMapTable", frameTable⟩]
  else return kept

end TracedBody

namespace TracedMethod

/-- Weaves the hooks into a decoded body, all in labels. -/
def trace (method : TracedMethod) (hooks : HookIndices) (initial : List VerificationType)
    (body : Body) (code : Decoded) : ConstantPool.Extend TracedBody := do
  let placed ← MonadExcept.ofExcept
    (PlacedBody.ofBody (← get) method.hasFrames initial code body)
  let anchor ← MonadExcept.ofExcept (Entry.anchor (← get) method.signature.name code.instructions)
  let tag ← ConstantPool.stringIndex method.tag
  TracedBody.trace method.hasFrames (TracedBody.markers hooks anchor tag) code placed

/-- The flow of a method with hook calls, and the body that it is written as. -/
def instrumentBody (method : TracedMethod) (hooks : HookIndices) (body : Body) (code : Decoded) :
    ConstantPool.Extend (Flow × Body) := do
  let initial ← if method.hasFrames then method.signature.initialLocals else pure []
  let traced ← method.trace hooks initial body code
  let layout ← MonadExcept.ofExcept (layout traced.instructions)
  let depth ← MonadExcept.ofExcept
    (StackDepth.maximum layout.instructions traced.handlers (← get))
  let attributes ← traced.attributes method.hasFrames initial layout.offsets
  return (⟨layout.instructions, traced.handlers⟩, {
    maxStack := max body.maxStack depth
    maxLocals := body.maxLocals
    code := layout.toCode
    exceptions := traced.handlers.map (TracedBody.exceptionRow layout.offsets)
    attributes })

end TracedMethod

end MethodTrace
