import MethodTrace.Bytes

/-!
Modified UTF-8, the spelling of texts in class files.

It differs from UTF-8 in two places: the zero character takes two bytes, and a character beyond
the basic plane is written as its two surrogates, three bytes each. Byte strings that are plain
UTF-8 are read as such; all others are read as UTF-16 units, with a replacement character for
what makes no sense.
-/

namespace MethodTrace.ModifiedUtf8

/-- The three bytes of a UTF-16 unit beyond the two-byte range. -/
def unitBytes (unit : Nat) : Bytes :=
  [UInt8.ofNat (0xe0 + unit / 4096), UInt8.ofNat (0x80 + unit / 64 % 64),
    UInt8.ofNat (0x80 + unit % 64)]

/-- The leading and the trailing surrogate of a character beyond the basic plane. -/
def surrogates (code : Nat) : Nat × Nat :=
  (0xd800 + (code - 0x10000) / 1024, 0xdc00 + (code - 0x10000) % 1024)

/-- The bytes of a character. -/
def encodeChar (c : Char) : Bytes :=
  if c.toNat = 0 then [0xc0, 0x80]
  else if c.toNat < 0x10000 then String.utf8EncodeChar c
  else
    let (leading, trailing) := surrogates c.toNat
    unitBytes leading ++ unitBytes trailing

/-- The bytes of a text. -/
def encode (text : String) : Bytes :=
  text.toList.flatMap encodeChar

/-- What stands for bytes that spell nothing. -/
def replacement : Nat := 0xfffd

/-- The UTF-16 units that a byte string spells, without any check of continuation bytes. -/
def units : Bytes → List Nat
  | [] => []
  | a :: rest =>
    if a < 0x80 then a.toNat :: units rest
    else if a &&& 0xe0 = 0xc0 then
      match rest with
      | b :: rest => (a.toNat % 32 * 64 + b.toNat % 64) :: units rest
      | [] => [replacement]
    else if a &&& 0xf0 = 0xe0 then
      match rest with
      | b :: c :: rest =>
        (a.toNat % 16 * 4096 + b.toNat % 64 * 64 + c.toNat % 64) :: units rest
      | rest => replacement :: units rest
    else replacement :: units rest

def isLeading (unit : Nat) : Bool :=
  0xd800 ≤ unit && unit < 0xdc00

def isTrailing (unit : Nat) : Bool :=
  0xdc00 ≤ unit && unit < 0xe000

/-- The characters that UTF-16 units spell; a surrogate without its partner is replaced. -/
def charsOfUnits : List Nat → List Char
  | [] => []
  | unit :: rest =>
    if isLeading unit then
      match rest with
      | [] => [Char.ofNat replacement]
      | next :: rest =>
        if isTrailing next then
          Char.ofNat (0x10000 + (unit - 0xd800) * 1024 + (next - 0xdc00)) :: charsOfUnits rest
        else Char.ofNat replacement :: charsOfUnits (next :: rest)
    else if isTrailing unit then Char.ofNat replacement :: charsOfUnits rest
    else Char.ofNat unit :: charsOfUnits rest

/-- The text that a byte string spells. -/
def decode (bytes : Bytes) : String :=
  match bytes.toString? with
  | some text => text
  | none => String.ofList (charsOfUnits (units bytes))

end MethodTrace.ModifiedUtf8
