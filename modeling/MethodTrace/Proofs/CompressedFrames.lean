import MethodTrace.Proofs.FrameRoundTrip
import MethodTrace.Proofs.SpelledCode

/-!
Frames that survive their compression.

Which of the short forms a frame is written in depends on the locals and on the offset of the frame
before, and writer and reader carry both along in the same way. In short code every list of frames
in ascending order is therefore read as it has been written, whatever forms its frames take.
-/

namespace MethodTrace

open Layout

/-- Code that is decoded from not too many bytes is laid out, and its offsets can be written. -/
theorem Decoded.regular_of_ofCode {bytes : Bytes} {code : Decoded} (h : ofCode bytes = .ok code)
    (short : bytes.length ≤ maxCodeLength) : code.Regular := by
  obtain ⟨spelled, offsets⟩ := ofCode_spelled h
  have spaced : Spaced code.instructions code.offsets :=
    offsets ▸ spaced_offsetsOf code.instructions
  rw [← spaced.start] at spelled
  have written := encodeFrom_eq_clearFrom spaced rfl spelled
  have length := spaced.length_encodeFrom rfl (Nat.zero_le _)
  rw [List.drop_zero] at written length
  rw [written, spaced.start, Nat.zero_add] at length
  refine ⟨spaced, ?_⟩
  calc offsetAt code.offsets code.instructions.size
    _ = (code.clearPadding bytes).length := length.symm
    _ = bytes.length := length_clearPadding code bytes
    _ ≤ maxCodeLength := short

namespace Frame

variable {frames : List Frame} {size : Nat}

/-- Lists that can be counted have a form after any locals. -/
theorem haveForms_of_short (previous : List VerificationType)
    (short : ∀ frame ∈ frames, frame.locals.length ≤ 65535 ∧ frame.stack.length ≤ 65535) :
    HaveForms previous frames := by
  induction frames generalizing previous with
  | nil => trivial
  | cons frame frames ih =>
    obtain ⟨⟨locals, stack⟩, rest⟩ := List.forall_mem_cons.mp short
    exact ⟨.full (Nat.lt_succ_of_le locals) (Nat.lt_succ_of_le stack), ih frame.locals rest⟩

theorem ascending_of_pairwise {start : Nat} (sorted : frames.Pairwise (·.label < ·.label))
    (least : ∀ frame ∈ frames, start ≤ frame.label) : Ascending start frames := by
  induction frames generalizing start with
  | nil => trivial
  | cons frame frames ih =>
    obtain ⟨before, sorted⟩ := List.pairwise_cons.mp sorted
    exact ⟨least frame List.mem_cons_self, ih sorted before⟩

theorem within_of_labels {frame : Frame} (placed : frame.label ≤ size)
    (labels : ∀ label, .uninitialized label ∈ frame.locals ++ frame.stack → label ≤ size) :
    frame.Within size := by
  have inside (type : VerificationType) (ht : type ∈ frame.locals ++ frame.stack) :
      type.Within size := by
    cases type with
    | uninitialized label => exact labels label ht
    | _ => trivial
  exact ⟨placed, fun type ht => inside type (List.mem_append_left _ ht),
    fun type ht => inside type (List.mem_append_right _ ht)⟩

/-- Frames in ascending order are read from their table as they have been written, in all code that
is short enough to be stored. -/
theorem decodeTable_encodeTable {bytes : Bytes} {code : Decoded}
    (hcode : Decoded.ofCode bytes = .ok code) (short : bytes.length ≤ 65535)
    (initial : List VerificationType) (sorted : frames.Pairwise (·.label < ·.label))
    (placed : ∀ frame ∈ frames, frame.label < code.instructions.size)
    (labels : ∀ frame ∈ frames, ∀ label, .uninitialized label ∈ frame.locals ++ frame.stack →
      label ≤ code.instructions.size)
    (lengths : ∀ frame ∈ frames, frame.locals.length ≤ 65535 ∧ frame.stack.length ≤ 65535) :
    decodeTable (encodeTable frames initial code.offsets) initial code = .ok frames := by
  have regular := Decoded.regular_of_ofCode hcode short
  have ascending : Ascending 0 frames :=
    ascending_of_pairwise sorted fun _ _ => Nat.zero_le _
  have within : ∀ frame ∈ frames, frame.Within code.instructions.size := fun frame hf =>
    within_of_labels (placed frame hf).le (labels frame hf)
  -- Every frame has an instruction of its own, and each of these takes a byte at least.
  have counted : frames.length < UInt16.size := by
    have few := ascending.length_le (fun frame hf => Nat.le_sub_one_of_lt (placed frame hf))
      (Nat.zero_le _)
    have room := regular.spaced.le_offsetAt le_rfl
    have fits := regular.short
    change _ < 65536
    unfold maxCodeLength at fits
    omega
  have forms := haveForms_of_short initial lengths
  exact (decodeTable_encodeTable_iff regular forms within counted).mpr ⟨ascending, rfl⟩

/-- Code with two switches, behind which the next offset can be told in a long form only. -/
def spreadCode : Bytes :=
  [0xbb, 0, 1, 0, 0, 0, 0xaa] ++ List.replicate 12 0 ++ [12] ++ List.replicate 52 0
    ++ [0, 0xaa] ++ List.replicate 13 0 ++ [12] ++ List.replicate 52 0 ++ [0, 0xb1]

def spreadDecoded : Decoded where
  instructions := #[.plain 0xbb [0, 1], .plain 0 [], .plain 0 [], .plain 0 [],
    .tableSwitch 4 0 (List.replicate 13 4), .plain 0 [], .tableSwitch 6 0 (List.replicate 13 6),
    .plain 0 [], .plain 0xb1 []]
  offsets := #[0, 3, 4, 5, 6, 72, 73, 140, 141, 142]

/-- Frames in all the forms that there are. -/
def spreadFrames : List Frame :=
  [⟨1, [.object 1, .int], []⟩, ⟨2, [.object 1, .int], [.uninitialized 0]⟩,
    ⟨3, [.object 1, .int, .long, .float], []⟩, ⟨4, [.object 1, .int, .long], []⟩,
    ⟨5, [.object 1, .int, .long], []⟩, ⟨7, [.object 1, .int, .long], [.null]⟩,
    ⟨8, [], [.null, .int]⟩]

theorem decodeTable_encodeTable_spreadFrames : Decoded.ofCode spreadCode = .ok spreadDecoded ∧
    encodeTable spreadFrames [.object 1, .int] spreadDecoded.offsets
      = [0, 7, 3, 64, 8, 0, 0, 253, 0, 0, 4, 2, 250, 0, 0, 251, 0, 65, 247, 0, 67, 5,
        255, 0, 0, 0, 0, 0, 2, 5, 1] ∧
    decodeTable (encodeTable spreadFrames [.object 1, .int] spreadDecoded.offsets)
      [.object 1, .int] spreadDecoded = .ok spreadFrames := by
  have decoded : Decoded.ofCode spreadCode = .ok spreadDecoded := by cbv
  have labels : ∀ frame ∈ spreadFrames, ∀ label,
      .uninitialized label ∈ frame.locals ++ frame.stack → label ≤ 9 := by
    simp [spreadFrames]
  exact ⟨decoded, by decide, decodeTable_encodeTable decoded (by simp [spreadCode]) _ (by decide)
    (by decide) labels (by decide)⟩

end Frame

end MethodTrace
