import Mathlib.Algebra.Group.Nat.Defs
import Mathlib.Data.List.Basic
import MethodTrace.Deflate.Compress
import MethodTrace.Deflate.Inflate

/-!
Streams of bits: what has been written, and what is left to read.

A writer adds some bits to those that are there, and the reader that belongs to it takes the same
bits, whatever is behind them.
-/

namespace MethodTrace.Deflate

/-- The lowest bits of a number, the lowest one first. -/
def bitsOf : (width n : Nat) → List Bool
  | 0, _ => []
  | width + 1, n => (n % 2 == 1) :: bitsOf width (n / 2)

/-- The bits of some bytes. -/
def bitsOfBytes (bytes : Bytes) : List Bool :=
  bytes.flatMap fun byte => bitsOf 8 byte.toNat

@[simp] theorem length_bitsOf (width n : Nat) : (bitsOf width n).length = width := by
  induction width generalizing n with
  | zero => rfl
  | succ width ih => rw [bitsOf, List.length_cons, ih]

theorem bitsOf_add (low high n : Nat) :
    bitsOf (low + high) n = bitsOf low n ++ bitsOf high (n / 2 ^ low) := by
  induction low generalizing n with
  | zero => simp [bitsOf]
  | succ low ih =>
    rw [Nat.add_right_comm, bitsOf, ih, bitsOf, List.cons_append, Nat.div_div_eq_div_mul,
      Nat.pow_succ']

namespace BitSink

variable {sink : BitSink}

/-- The bits that have been written. -/
def written (sink : BitSink) : List Bool :=
  bitsOfBytes sink.bytes.toList ++ bitsOf sink.count sink.pending

/-- Whether fewer bits than those of a byte are pending, and nothing else. -/
structure IsSound (sink : BitSink) : Prop where
  pending : sink.pending < 2 ^ sink.count
  count : sink.count < 8

/-- Whether a writer adds some bits. -/
def Writes (write : BitSink → BitSink) (bits : List Bool) : Prop :=
  ∀ sink : BitSink, sink.IsSound →
    (write sink).IsSound ∧ (write sink).written = sink.written ++ bits

theorem Writes.comp {first second : BitSink → BitSink} {front back : List Bool}
    (hf : Writes first front) (hs : Writes second back) :
    Writes (fun sink => second (first sink)) (front ++ back) := by
  intro sink h
  obtain ⟨sound, written⟩ := hf sink h
  obtain ⟨sound', written'⟩ := hs _ sound
  exact ⟨sound', by rw [written', written, List.append_assoc]⟩

end BitSink

namespace BitSource

/-- The bits that are left. -/
def left (source : BitSource) : List Bool :=
  bitsOf source.count source.pending ++ bitsOfBytes source.rest

/-- Whether nothing but the bits is pending. -/
def IsSound (source : BitSource) : Prop :=
  source.pending < 2 ^ source.count

/-- What is left behind some pending bits. -/
def drop (source : BitSource) (width : Nat) : BitSource :=
  ⟨source.pending / 2 ^ width, source.count - width, source.rest⟩

theorem IsSound.drop {source : BitSource} {front more : List Bool} (h : source.IsSound)
    (hl : source.left = front ++ more) (enough : front.length ≤ source.count) :
    bitsOf front.length source.pending = front ∧ (source.drop front.length).IsSound ∧
      (source.drop front.length).left = more := by
  obtain ⟨rest, count⟩ := Nat.exists_eq_add_of_le enough
  have remaining : source.count - front.length = rest := by omega
  have pending : source.pending < 2 ^ (front.length + rest) := count ▸ h
  have split : bitsOf front.length source.pending
      ++ (bitsOf rest (source.pending / 2 ^ front.length) ++ bitsOfBytes source.rest)
        = front ++ more := by
    rw [← hl, ← List.append_assoc, ← bitsOf_add, ← count]
    rfl
  obtain ⟨value, behind⟩ := List.append_inj split (length_bitsOf _ _)
  refine ⟨value, ?_, ?_⟩
  · rw [Nat.pow_add] at pending
    change source.pending / 2 ^ front.length < 2 ^ (source.count - front.length)
    rw [remaining]
    exact Nat.div_lt_of_lt_mul pending
  · rw [← behind, left, BitSource.drop, remaining]

end BitSource

namespace BitReader

variable {α β : Type} {reader : BitReader α} {bits first second : List Bool} {a : α} {b : β}

/-- Whether a reader takes some bits for a value, whatever is behind them. -/
def Reads (reader : BitReader α) (bits : List Bool) (a : α) : Prop :=
  ∀ source more, source.IsSound → source.left = bits ++ more →
    ∃ next : BitSource, reader.run source = some (a, next) ∧ next.IsSound ∧ next.left = more

theorem run_bind {next : α → BitReader β} {source middle : BitSource}
    (h : reader.run source = some (a, middle)) :
    (reader >>= next).run source = (next a).run middle := by
  rw [StateT.run_bind, h]
  rfl

theorem Reads.bind {next : α → BitReader β} (h : Reads reader first a)
    (hn : Reads (next a) second b) : Reads (reader >>= next) (first ++ second) b := by
  intro source more sound left
  rw [List.append_assoc] at left
  obtain ⟨middle, run, sound, left⟩ := h source _ sound left
  obtain ⟨last, run', sound, left⟩ := hn middle more sound left
  exact ⟨last, (run_bind run).trans run', sound, left⟩

theorem reads_pure : Reads (pure a) [] a :=
  fun source _ sound left => ⟨source, rfl, sound, left⟩

theorem Reads.bind_pure {f : α → β} (h : Reads reader bits a) :
    Reads (reader >>= fun value => pure (f value)) bits (f a) := by
  rw [← List.append_nil bits]
  exact h.bind reads_pure

end BitReader

end MethodTrace.Deflate
