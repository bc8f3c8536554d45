import MethodTrace.ClassFile.Error

/-!
Type descriptors: the types of fields, parameters and results in their compact spelling.

`MethodDescriptor.parse` and `MethodDescriptor.render` are the two directions of one grammar.
-/

namespace MethodTrace

/-- The type of an array's innermost element, or of a value that is no array. -/
inductive ElementType
  | byte
  | char
  | double
  | float
  | int
  | long
  | short
  | boolean
  | object (name : List Char)
  deriving DecidableEq

/-- A field type: an element type inside some number of array dimensions. -/
structure FieldType where
  dimensions : Nat
  element : ElementType
  deriving DecidableEq

/-- The types of a method's parameters and of its result, which is absent for `void`. -/
structure MethodDescriptor where
  params : List FieldType
  result : Option FieldType
  deriving DecidableEq

namespace ElementType

def render : ElementType → List Char
  | byte => ['B']
  | char => ['C']
  | double => ['D']
  | float => ['F']
  | int => ['I']
  | long => ['J']
  | short => ['S']
  | boolean => ['Z']
  | object name => 'L' :: name ++ [';']

/-- The element type that a letter stands for on its own. -/
def ofLetter? : Char → Option ElementType
  | 'B' => some byte
  | 'C' => some char
  | 'D' => some double
  | 'F' => some float
  | 'I' => some int
  | 'J' => some long
  | 'S' => some short
  | 'Z' => some boolean
  | _ => none

/-- Reads an element type from the front of a text. -/
def parse : List Char → Option (ElementType × List Char)
  | [] => none
  | 'L' :: rest =>
    let name := rest.takeWhile (· != ';')
    match rest.dropWhile (· != ';') with
    | _ :: rest => if name.isEmpty then none else some (object name, rest)
    | [] => none
  | c :: rest => (ofLetter? c).map (·, rest)

end ElementType

namespace FieldType

def render (type : FieldType) : List Char :=
  List.replicate type.dimensions '[' ++ type.element.render

/-- Reads a field type from the front of a text. -/
def parse (text : List Char) : Option (FieldType × List Char) := do
  let (element, rest) ← ElementType.parse (text.dropWhile (· == '['))
  return (⟨(text.takeWhile (· == '[')).length, element⟩, rest)

/-- Reads a text that is exactly one field type. -/
def parseAll (text : List Char) : Option FieldType :=
  match parse text with
  | some (type, []) => some type
  | _ => none

/-- Reads a text that is a sequence of field types; `fuel` bounds their number. -/
def parseMany (fuel : Nat) (text : List Char) : Option (List FieldType) :=
  match fuel, text with
  | _, [] => some []
  | 0, _ :: _ => none
  | fuel + 1, text => do
    let (type, rest) ← parse text
    let types ← parseMany fuel rest
    return type :: types

/-- The operand stack slots of a value: two for `long` and `double`, otherwise one. -/
def slots (type : FieldType) : UInt16 :=
  if type.dimensions = 0 ∧ (type.element = .long ∨ type.element = .double) then 2 else 1

/-- The slots of a value whose type is only known as a text, by its first letter. -/
def slotsOfText (descriptor : String) : UInt16 :=
  match descriptor.toList with
  | 'J' :: _ | 'D' :: _ => 2
  | _ => 1

end FieldType

namespace MethodDescriptor

def renderResult : Option FieldType → List Char
  | some type => type.render
  | none => ['V']

def render (descriptor : MethodDescriptor) : List Char :=
  '(' :: descriptor.params.flatMap FieldType.render ++ ')' :: renderResult descriptor.result

/-- Reads the part after the closing parenthesis. -/
def parseResult : List Char → Option (Option FieldType)
  | ['V'] => some none
  | text => (FieldType.parseAll text).map some

/-- Reads a method descriptor. The parameters end at the first closing parenthesis. -/
def parse? : List Char → Option MethodDescriptor
  | '(' :: inner => do
    let params := inner.takeWhile (· != ')')
    match inner.dropWhile (· != ')') with
    | _ :: result =>
      let params ← FieldType.parseMany params.length params
      let result ← parseResult result
      return ⟨params, result⟩
    | [] => none
  | _ => none

/-- Reads a method descriptor or reports its text. -/
def parse (text : String) : Except ClassFileError MethodDescriptor :=
  match parse? text.toList with
  | some descriptor => .ok descriptor
  | none => .error (.badDescriptor text)

/-- The stack slots of the arguments without a receiver, in words of two bytes. -/
def argumentSlots (descriptor : MethodDescriptor) : UInt16 :=
  (descriptor.params.map FieldType.slots).foldl (· + ·) 0

/-- The stack slots of the result. -/
def resultSlots (descriptor : MethodDescriptor) : UInt16 :=
  match descriptor.result with
  | some type => type.slots
  | none => 0

end MethodDescriptor

end MethodTrace
