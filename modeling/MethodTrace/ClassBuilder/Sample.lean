import MethodTrace.ClassBuilder

/-!
Four small classes, each around one shape of control flow.
-/

namespace MethodTrace

/-- A small class, by the shape of its control flow. -/
inductive Sample
  | branches
  | tryCatch
  | loop
  | switch

namespace Sample

/-- The flags of public static methods. -/
def publicStatic : UInt16 := 0x0009

/-- A method that answers one for every number but zero. -/
def addPick : ClassBuilder.Build Unit :=
  -- 0: iload_0; 1: ifeq 6; 4: iconst_1; 5: ireturn; 6: iconst_0; 7: ireturn
  ClassBuilder.addMethod publicStatic "pick" "(I)I" {
    maxStack := 1
    maxLocals := 1
    code := [0x1a, 0x99, 0x00, 0x05, 0x04, 0xac, 0x03, 0xac]
    lines := [(0, 10), (6, 11)]
    frames := some [0x00, 0x01, 6] }

/-- A method that calls another one and, after an exception, a third one. -/
def addRisky (name : String) : ClassBuilder.Build Unit := do
  let first ← ClassBuilder.methodref ⟨name, "foo", "()V"⟩
  let second ← ClassBuilder.methodref ⟨name, "bar", "()V"⟩
  let exception ← ClassBuilder.classRef "java/lang/Exception"
  -- 0: invokestatic foo; 3: goto 10; 6: astore_0; 7: invokestatic bar; 10: return
  ClassBuilder.addMethod publicStatic "risky" "()V" {
    maxStack := 1
    maxLocals := 1
    code := [0xb8] ++ Bytes.ofUInt16 first ++ [0xa7, 0x00, 0x07, 0x4b, 0xb8]
      ++ Bytes.ofUInt16 second ++ [0xb1]
    exceptions := [⟨0, 3, 6, exception⟩]
    frames := some ([0x00, 0x02, 64 + 6, 7] ++ Bytes.ofUInt16 exception ++ [3]) }
  ClassBuilder.addMethod publicStatic "foo" "()V" ⟨0, 0, [0xb1], [], [], none⟩
  ClassBuilder.addMethod publicStatic "bar" "()V" ⟨0, 0, [0xb1], [], [], none⟩

/-- A method that counts down to zero; its loop begins at the first instruction. -/
def addCount : ClassBuilder.Build Unit :=
  -- 0: iload_0; 1: ifle 10; 4: iinc 0 -1; 7: goto 0; 10: return
  ClassBuilder.addMethod publicStatic "count" "(I)V" {
    maxStack := 1
    maxLocals := 1
    code := [0x1a, 0x9e, 0x00, 0x09, 0x84, 0x00, 0xff, 0xa7, 0xff, 0xf9, 0xb1]
    frames := some [0x00, 0x02, 0, 9] }

/-- A method that answers zero, one or, for all other numbers, two. -/
def addSwitch : ClassBuilder.Build Unit :=
  -- 0: iload_0; 1: tableswitch 0 -> 24, 1 -> 26, else 28; 24: iconst_0; 25: ireturn; 26: iconst_1;
  -- 27: ireturn; 28: iconst_2; 29: ireturn
  ClassBuilder.addMethod publicStatic "sw" "(I)I" {
    maxStack := 1
    maxLocals := 1
    code := [0x1a, 0xaa, 0x00, 0x00] ++ [27, 0, 1, 23, 25].flatMap (Bytes.bigEndian 4)
      ++ [0x03, 0xac, 0x04, 0xac, 0x05, 0xac]
    frames := some [0x00, 0x03, 24, 1, 1] }

/-- The class file of a sample under some name. -/
def toBytes (sample : Sample) (name : String) : Except ClassFileError Bytes :=
  ClassBuilder.build name <|
    match sample with
    | branches => addPick
    | tryCatch => addRisky name
    | loop => addCount
    | switch => addSwitch

end Sample

end MethodTrace
