import MethodTrace.Code.Decoded

/-!
Tables of a body that name places in its code: line numbers and the ranges of local variables.
-/

namespace MethodTrace

/-- The source line that begins at an instruction. -/
structure LineRow where
  label : Label
  line : UInt16
  deriving DecidableEq

/-- The range of instructions in which a slot holds a variable. -/
structure VariableRow where
  start : Label
  stop : Label
  name : UInt16
  descriptor : UInt16
  slot : UInt16
  deriving DecidableEq

/-- An offset as it is written, in two bytes. -/
def offsetWord (offsets : Array Nat) (label : Label) : UInt16 :=
  UInt16.ofNat (offsets[label]?.getD 0)

namespace LineRow

def read (code : Decoded) : Reader LineRow := do
  let offset ← Reader.u16
  let label ← code.labelAt offset.toNat
  return ⟨label, ← Reader.u16⟩

def write (offsets : Array Nat) (row : LineRow) : Bytes :=
  Bytes.ofUInt16 (offsetWord offsets row.label) ++ Bytes.ofUInt16 row.line

/-- Reads a table; what follows its rows is ignored. -/
def parseTable (info : Bytes) (code : Decoded) : Except ClassFileError (List LineRow) :=
  (·.1) <$> (Reader.counted (read code)).onSlice info

def mapLabels (f : Label → Label) (row : LineRow) : LineRow :=
  { row with label := f row.label }

end LineRow

namespace VariableRow

def read (code : Decoded) : Reader VariableRow := do
  let offset ← Reader.u16
  let length ← Reader.u16
  let start ← code.labelAt offset.toNat
  let stop ← code.labelAt (offset.toNat + length.toNat)
  let name ← Reader.u16
  let descriptor ← Reader.u16
  return ⟨start, stop, name, descriptor, ← Reader.u16⟩

def write (offsets : Array Nat) (row : VariableRow) : Bytes :=
  let start := offsetWord offsets row.start
  Bytes.ofUInt16 start ++ Bytes.ofUInt16 (offsetWord offsets row.stop - start)
    ++ Bytes.ofUInt16 row.name ++ Bytes.ofUInt16 row.descriptor ++ Bytes.ofUInt16 row.slot

/-- Reads a table; what follows its rows is ignored. -/
def parseTable (info : Bytes) (code : Decoded) : Except ClassFileError (List VariableRow) :=
  (·.1) <$> (Reader.counted (read code)).onSlice info

def mapLabels (f : Label → Label) (row : VariableRow) : VariableRow :=
  { row with start := f row.start, stop := f row.stop }

end VariableRow

end MethodTrace
