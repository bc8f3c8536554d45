import MethodTrace.Deflate.Matches
import Mathlib.Data.List.Induction

/-!
Content that is cut into tokens is what the tokens describe.

Only places that have been passed are remembered, so that a copy is one of bytes that are there
already, and it is no longer than these bytes agree with those it stands for.
-/

namespace MethodTrace.Deflate

variable {content found : Array UInt8} {place length distance : Nat}

/-- A copy that stands for the content from a place on, and that the format can tell of. -/
structure IsCopy (content : Array UInt8) (place length distance : Nat) : Prop where
  positive : 1 ≤ distance
  near : distance ≤ maxDistance
  within : distance ≤ place
  short : length ≤ maxCopy
  same : ∀ i < length, ∃ byte,
    content[place - distance + i]? = some byte ∧ content[place + i]? = some byte

namespace Recent

variable {recent : Recent}

/-- All places that are remembered lie before a place. -/
def Before (recent : Recent) (place : Nat) : Prop :=
  ∀ key, ∀ earlier ∈ recent.find key, earlier < place

theorem Before.mono {later : Nat} (h : recent.Before place) (hl : place ≤ later) :
    recent.Before later :=
  fun key earlier he => Nat.lt_of_lt_of_le (h key earlier he) hl

theorem Before.add {passed : Nat} (h : recent.Before place) (hp : passed < place) :
    (recent.add content passed).Before place := by
  unfold Recent.add
  split
  · next key _ =>
    intro other earlier he
    rw [find, Std.HashMap.getElem?_insert] at he
    split at he
    · rcases List.mem_cons.mp (List.mem_of_mem_take he) with rfl | he
      · exact hp
      · exact h key earlier he
    · exact h other earlier he
  · exact h

end Recent

/-- The content up to a place. -/
def Reaches (content found : Array UInt8) (place : Nat) : Prop :=
  found.toList = content.toList.take place

theorem Reaches.push {byte : UInt8} (h : Reaches content found place)
    (hb : content[place]? = some byte) : Reaches content (found.push byte) (place + 1) := by
  rw [← Array.getElem?_toList] at hb
  rw [Reaches, Array.toList_push, h, List.take_add_one, hb]
  rfl

/-- A copy adds the content that it stands for, also where it overlaps itself. -/
theorem Reaches.appendCopy (h : Reaches content found place)
    (hc : IsCopy content place length distance) :
    Reaches content (Token.appendCopy distance length found) (place + length) := by
  induction length generalizing found place with
  | zero => exact h
  | succ length ih =>
    obtain ⟨byte, earlier, here⟩ := hc.same 0 (Nat.succ_pos length)
    rw [Nat.add_zero] at earlier here
    have inside : place ≤ content.toList.length := by
      have := (Array.getElem?_eq_some_iff.mp here).1
      rw [Array.length_toList]
      omega
    have size : found.size = place := by
      rw [← Array.length_toList, h, List.length_take, Nat.min_eq_left inside]
    have copied : found[place - distance]? = some byte := by
      rw [← Array.getElem?_toList, h,
        List.getElem?_take_of_lt (by have := hc.positive; have := hc.within; omega),
        Array.getElem?_toList, earlier]
    rw [Token.appendCopy, size, if_pos hc.within, copied, Nat.add_comm length, ← Nat.add_assoc]
    refine ih (h.push here) ⟨hc.positive, hc.near, Nat.le_succ_of_le hc.within,
      Nat.le_of_succ_le hc.short, fun i hi => ?_⟩
    have rest := hc.same (i + 1) (Nat.succ_lt_succ hi)
    rwa [Nat.add_comm i, ← Nat.add_assoc, ← Nat.add_assoc, ← Nat.sub_add_comm hc.within] at rest

end MethodTrace.Deflate
