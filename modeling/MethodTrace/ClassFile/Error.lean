import MethodTrace.Bytes.Hex

/-!
What can be wrong with a class file, as causes, and the one place that words them.
-/

namespace MethodTrace

/-- The kind of constant that a reference has to name. -/
inductive ConstantRole
  | utf8
  | classRef
  | nameAndType
  | memberRef
  | invokeDynamic
  deriving DecidableEq

/-- What is wrong with the body of a method. -/
inductive CodeFault
  | branchOutside (offset : Nat) (target : Int)
  | emptyTable (offset : Nat) (high low : Int32)
  | pairCount (offset : Nat) (count : Int32)
  | wideOpcode (offset : Nat) (opcode : UInt8)
  | unknownOpcode (offset : Nat) (opcode : UInt8)
  | notBoundary (offset : Nat)
  | trailingCode
  | fallsOffEnd
  | inconsistentDepth (label : Nat) (seen found : UInt16)
  | stackUnderflow (label : Nat)
  | noStackEffect (opcode : UInt8)
  | noDimensions
  | noConstantOperand
  | unknownVerificationType (tag : UInt8)
  | chopTooMany
  | reservedFrame (form : UInt8)
  | trailingFrames
  | noCalleeOperand
  deriving DecidableEq

/-- A limit of the format that a body exceeds once it has been laid out. -/
inductive CodeLimit
  | length (total : Nat)
  | conditionalSpan (opcode : UInt8) (delta : Int)
  deriving DecidableEq

/-- Why a class file cannot be read or traced. Faults of a body carry the name of its method,
which is empty while the body is handled on its own. -/
inductive ClassFileError
  | truncated (extent : Nat)
  | badMagic (found : UInt32)
  | badConstantTag (tag : UInt8) (index : UInt16)
  | badConstantIndex (index : UInt16) (expected : ConstantRole)
  | badDescriptor (descriptor : String)
  | malformedCode (method : String) (fault : CodeFault)
  | codeTooLarge (method : String) (limit : CodeLimit)
  | constantPoolOverflow
  | trailingBytes (count : Nat)
  deriving DecidableEq

/-- A number as hexadecimal digits after the usual mark. -/
def hexLiteral (width n : Nat) : String :=
  "0x" ++ String.ofList (Bytes.hexDigits width n)

/-- The largest size of a body in bytes. -/
def maxCodeLength : Nat := 65535

def ConstantRole.name : ConstantRole → String
  | utf8 => "Utf8"
  | classRef => "Class"
  | nameAndType => "NameAndType"
  | memberRef => "member reference"
  | invokeDynamic => "InvokeDynamic"

def CodeFault.message : CodeFault → String
  | branchOutside offset target => s!"branch at {offset} targets {target}, outside code"
  | emptyTable offset high low => s!"tableswitch at {offset} has high {high} below low {low}"
  | pairCount offset count => s!"lookupswitch at {offset} has {count} pairs"
  | wideOpcode offset opcode => s!"wide at {offset} modifies opcode " ++ hexLiteral 2 opcode.toNat
  | unknownOpcode offset opcode =>
    "unknown opcode " ++ hexLiteral 2 opcode.toNat ++ s!" at {offset}"
  | notBoundary offset => s!"offset {offset} is not an instruction boundary"
  | trailingCode => "trailing bytes in Code attribute"
  | fallsOffEnd => "execution falls off the end of code"
  | inconsistentDepth label seen found =>
    s!"inconsistent stack depth at instruction {label}: {seen} vs {found}"
  | stackUnderflow label => s!"stack underflow at instruction {label}"
  | noStackEffect opcode => "no stack effect for opcode " ++ hexLiteral 2 opcode.toNat
  | noDimensions => "multianewarray without dimensions"
  | noConstantOperand => "missing constant pool operand"
  | unknownVerificationType tag => s!"unknown verification type tag {tag}"
  | chopTooMany => "chop frame removes too many locals"
  | reservedFrame form => s!"reserved stack map frame type {form}"
  | trailingFrames => "trailing bytes in StackMapTable"
  | noCalleeOperand => "invokespecial without operand"

def CodeLimit.message : CodeLimit → String
  | length total => s!"code length {total} exceeds {maxCodeLength}"
  | conditionalSpan opcode delta =>
    "conditional branch " ++ hexLiteral 2 opcode.toNat ++ s!" spans {delta} bytes"

namespace ClassFileError

/-- A fault of a body whose method is not known. -/
def code (fault : CodeFault) : ClassFileError :=
  malformedCode "" fault

/-- A limit that a body of an unknown method exceeds. -/
def tooLarge (limit : CodeLimit) : ClassFileError :=
  codeTooLarge "" limit

/-- Names the method that a fault of a body belongs to. -/
def inMethod (name : String) : ClassFileError → ClassFileError
  | malformedCode _ fault => malformedCode name fault
  | codeTooLarge _ limit => codeTooLarge name limit
  | other => other

def message : ClassFileError → String
  | truncated extent => s!"unexpected end of class data at offset {extent}"
  | badMagic found => "bad magic number " ++ hexLiteral 8 found.toNat
  | badConstantTag tag index => s!"unknown constant pool tag {tag} at index {index}"
  | badConstantIndex index expected => s!"constant pool index {index} is not a " ++ expected.name
  | badDescriptor descriptor => "malformed descriptor '" ++ descriptor ++ "'"
  | malformedCode method fault =>
    "malformed code in method '" ++ method ++ "': " ++ fault.message
  | codeTooLarge method limit =>
    "method '" ++ method ++ "' exceeds code limits after instrumentation: " ++ limit.message
  | constantPoolOverflow => "constant pool overflow: more than 65535 entries"
  | trailingBytes count => s!"{count} trailing bytes after end of class file"

end ClassFileError

end MethodTrace
