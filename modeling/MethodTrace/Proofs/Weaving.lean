import MethodTrace.Trace.Weaving
import Mathlib

/-!
The places of a woven body.

An old label leads to three new ones: where control comes that goes on to it, where control comes
that jumps to it, and where its instruction stands. `Threaded` says what one instruction more adds
to a weaving, and `weave_threaded` that a whole weaving is made of nothing else.
-/

namespace MethodTrace

/-- An instruction with the end call that closes the method before it, if it returns. -/
def Instruction.closed (insn endCall : Instruction) : List Instruction :=
  if insn.opcode.isReturn then [endCall, insn] else [insn]

namespace Markers

/-- The number of instructions of the prologue that stand before an old label. -/
def opening (markers : Markers) (old : Array Instruction) (label : Nat) : Nat :=
  if label = markers.anchor ∧ label < old.size then markers.prologue.length else 0

/-- The number of end calls that stand right before the instruction of an old label. -/
def closing (old : Array Instruction) (label : Nat) : Nat :=
  match old[label]? with
  | some insn => if insn.opcode.isReturn then 1 else 0
  | none => 0

/-- Where control comes that goes on to an old label from the instruction before. -/
def entry (markers : Markers) (old : Array Instruction) : Nat → Nat
  | 0 => 0
  | label + 1 => entry markers old label + markers.opening old label + closing old label + 1

/-- Where control comes that jumps to an old label. -/
def target (markers : Markers) (old : Array Instruction) (label : Nat) : Nat :=
  markers.entry old label + markers.opening old label

/-- Where the instruction of an old label stands. -/
def place (markers : Markers) (old : Array Instruction) (label : Nat) : Nat :=
  markers.target old label + closing old label

variable {markers : Markers} {old : Array Instruction} {label other : Nat} {insn : Instruction}

theorem closing_of_return (h : old[label]? = some insn) (hr : insn.opcode.isReturn = true) :
    closing old label = 1 := by
  simp [closing, h, hr]

theorem closing_of_not_return (h : old[label]? = some insn) (hr : insn.opcode.isReturn = false) :
    closing old label = 0 := by
  simp [closing, h, hr]

theorem closing_le_one (old : Array Instruction) (label : Nat) : closing old label ≤ 1 := by
  unfold closing
  split
  · split <;> omega
  · omega

theorem closing_cases (old : Array Instruction) (label : Nat) :
    closing old label = 0 ∨ closing old label = 1 := by
  have le := closing_le_one old label
  omega

theorem closing_eq_one (h : closing old label = 1) :
    ∃ insn, old[label]? = some insn ∧ insn.opcode.isReturn = true := by
  unfold closing at h
  split at h
  · next insn hi =>
    split at h
    · next hr => exact ⟨insn, hi, hr⟩
    · cases h
  · cases h

/-- What no end call stands before is no return. -/
theorem not_return_of_closing (hi : old[label]? = some insn) (hc : closing old label = 0) :
    insn.opcode.isReturn = false := by
  by_contra hr
  rw [closing_of_return hi (by simpa using hr)] at hc
  cases hc

theorem entry_succ (markers : Markers) (old : Array Instruction) (label : Nat) :
    markers.entry old (label + 1) = markers.place old label + 1 := rfl

theorem entry_le_target (markers : Markers) (old : Array Instruction) (label : Nat) :
    markers.entry old label ≤ markers.target old label :=
  Nat.le_add_right _ _

theorem target_le_place (markers : Markers) (old : Array Instruction) (label : Nat) :
    markers.target old label ≤ markers.place old label :=
  Nat.le_add_right _ _

theorem entry_le_entry (markers : Markers) (old : Array Instruction) (h : label ≤ other) :
    markers.entry old label ≤ markers.entry old other := by
  induction h with
  | refl => exact le_rfl
  | @step other _ ih =>
    have hn := entry_succ markers old other
    have ht := entry_le_target markers old other
    have hp := target_le_place markers old other
    change markers.entry old label ≤ markers.entry old (other + 1)
    omega

theorem place_lt_entry (markers : Markers) (old : Array Instruction) (h : label < other) :
    markers.place old label < markers.entry old other := by
  have hn := entry_succ markers old label
  have he : markers.entry old (label + 1) ≤ markers.entry old other :=
    entry_le_entry markers old h
  omega

theorem target_lt_target (markers : Markers) (old : Array Instruction) (h : label < other) :
    markers.target old label < markers.target old other := by
  have hp := target_le_place markers old label
  have he := place_lt_entry markers old h
  have ht := entry_le_target markers old other
  omega

theorem place_lt_place (markers : Markers) (old : Array Instruction) (h : label < other) :
    markers.place old label < markers.place old other := by
  have he := place_lt_entry markers old h
  have ht := entry_le_target markers old other
  have hp := target_le_place markers old other
  omega

theorem place_injective (h : markers.place old label = markers.place old other) :
    label = other := by
  rcases Nat.lt_trichotomy label other with lt | eq | gt
  · have := place_lt_place markers old lt
    omega
  · exact eq
  · have := place_lt_place markers old gt
    omega

/-- An old instruction stands between the places of two labels just when its own label does. -/
theorem target_le_place_iff (markers : Markers) (old : Array Instruction) :
    markers.target old label ≤ markers.place old other ↔ label ≤ other := by
  constructor
  · intro h
    by_contra hn
    have he := place_lt_entry markers old (by omega : other < label)
    have ht := entry_le_target markers old label
    omega
  · intro h
    have hp := target_le_place markers old other
    rcases Nat.eq_or_lt_of_le h with rfl | lt
    · exact hp
    · have := target_lt_target markers old lt
      omega

/-- Every place below the entry of a label belongs to one of the labels before. -/
theorem exists_entry_le_le_place {place : Nat} (h : place < markers.entry old label) :
    ∃ l < label, markers.entry old l ≤ place ∧ place ≤ markers.place old l := by
  induction label with
  | zero => simp [entry] at h
  | succ label ih =>
    by_cases hl : place < markers.entry old label
    · obtain ⟨l, hlt, hb⟩ := ih hl
      exact ⟨l, by omega, hb⟩
    · have hn := entry_succ markers old label
      exact ⟨label, by omega, by omega, by omega⟩

/-- A place of the body belongs to the prologue, to an end call or to an old instruction. -/
theorem place_cases {place : Nat} (h : place < markers.entry old old.size) :
    (∃ l < old.size, ∃ i < markers.opening old l, place = markers.entry old l + i) ∨
    (∃ l < old.size, closing old l = 1 ∧ place = markers.target old l) ∨
    (∃ l < old.size, place = markers.place old l) := by
  obtain ⟨l, hl, he, hp⟩ := exists_entry_le_le_place h
  have hc := closing_le_one old l
  rcases Nat.lt_or_ge place (markers.target old l) with lt | ge
  · rw [target] at lt
    exact .inl ⟨l, hl, place - markers.entry old l, by omega, by omega⟩
  · by_cases eq : place = markers.place old l
    · exact .inr (.inr ⟨l, hl, eq⟩)
    · rw [Markers.place] at hp eq
      exact .inr (.inl ⟨l, hl, by omega, by omega⟩)

theorem opening_of_ne (h : label ≠ markers.anchor) : markers.opening old label = 0 := by
  simp [opening, h]

theorem opening_anchor (h : markers.anchor < old.size) :
    markers.opening old markers.anchor = markers.prologue.length := by
  simp [opening, h]

theorem opening_le_length (markers : Markers) (old : Array Instruction) (label : Nat) :
    markers.opening old label ≤ markers.prologue.length := by
  unfold opening
  split <;> omega

theorem length_take_opening (markers : Markers) (old : Array Instruction) (label : Nat) :
    (markers.prologue.take (markers.opening old label)).length = markers.opening old label := by
  simp [opening_le_length]

theorem opening_size (markers : Markers) (old : Array Instruction) :
    markers.opening old old.size = 0 := by
  simp [opening]

theorem take_opening (h : label < old.size) : markers.prologue.take (markers.opening old label)
    = if label = markers.anchor then markers.prologue else [] := by
  split
  · next met =>
    subst met
    rw [opening_anchor h, List.take_length]
  · next other => rw [opening_of_ne other, List.take_zero]

theorem closed_eq (h : old[label]? = some insn) (endCall : Instruction) :
    insn.closed endCall = List.replicate (closing old label) endCall ++ [insn] := by
  unfold Instruction.closed
  split
  · next returns =>
    rw [closing_of_return h returns]
    rfl
  · next stays =>
    rw [closing_of_not_return h (by simpa using stays)]
    rfl

end Markers

namespace Weaving

open Markers

/-- The instructions once the prologue is in, if this is where it belongs. -/
theorem opened_toList (markers : Markers) (woven : Weaving) :
    (if woven.relocation.size = markers.anchor then woven.instructions ++ markers.prologue
      else woven.instructions).toList = woven.instructions.toList
        ++ if woven.relocation.size = markers.anchor then markers.prologue else [] := by
  split
  · rw [Array.toList_appendList]
  · rw [List.append_nil]

theorem add_instructions (markers : Markers) (woven : Weaving) (insn : Instruction) :
    (add markers woven insn).instructions.toList = woven.instructions.toList
      ++ (if woven.relocation.size = markers.anchor then markers.prologue else [])
      ++ insn.closed markers.endCall := by
  rw [← opened_toList]
  unfold add Instruction.closed
  dsimp only
  split
  · rw [Array.toList_push, Array.toList_push, List.append_assoc _ [markers.endCall]]
    rfl
  · rw [Array.toList_push]

theorem add_relocation_size (markers : Markers) (woven : Weaving) (insn : Instruction) :
    (add markers woven insn).relocation.size = woven.relocation.size + 1 := by
  unfold add
  dsimp only
  split
  · rw [Array.size_push]
  · rw [Array.size_push]

/-- What has been woven once the first `count` of the old instructions are in. -/
structure Threaded (markers : Markers) (old : Array Instruction) (count : Nat)
    (woven : Weaving) : Prop where
  relocation_size : woven.relocation.size = count
  size : woven.instructions.size = markers.entry old count
  relocation : ∀ l < count, woven.relocation[l]? = some (markers.target old l)
  original : ∀ l < count, woven.instructions[markers.place old l]? = old[l]?
  endCall : ∀ l < count, closing old l = 1 →
    woven.instructions[markers.target old l]? = some markers.endCall
  prologue : ∀ l < count, ∀ i < markers.opening old l,
    woven.instructions[markers.entry old l + i]? = markers.prologue[i]?
  exits : woven.exits.toList = ((List.range count).filter (closing old · = 1)).map fun l =>
    (markers.target old l, markers.target old l + 2)

theorem threaded_start (markers : Markers) (old : Array Instruction) :
    Threaded markers old 0 ⟨#[], #[], #[]⟩ := by
  constructor <;> simp [entry]

variable {markers : Markers} {old : Array Instruction} {count : Nat} {woven : Weaving}
  {insn : Instruction}

/-- What one more instruction leaves of the instructions, in one form for all of them. -/
theorem Threaded.add_instructions (h : Threaded markers old count woven)
    (hi : old[count]? = some insn) :
    (add markers woven insn).instructions.toList = woven.instructions.toList
      ++ (markers.prologue.take (markers.opening old count)
      ++ (List.replicate (closing old count) markers.endCall ++ [insn])) := by
  have hc : count < old.size := (Array.getElem?_eq_some_iff.mp hi).1
  rw [Weaving.add_instructions, h.relocation_size, take_opening hc, closed_eq hi,
    List.append_assoc]

theorem Threaded.opened_size (h : Threaded markers old count woven) (hc : count < old.size) :
    (if woven.relocation.size = markers.anchor then woven.instructions ++ markers.prologue
      else woven.instructions).size = markers.target old count := by
  have ho := congrArg List.length (opened_toList markers woven)
  rw [Array.length_toList, List.length_append, Array.length_toList, h.relocation_size, h.size,
    ← take_opening hc, length_take_opening] at ho
  rw [h.relocation_size]
  exact ho

theorem Threaded.add_relocation (h : Threaded markers old count woven) (hc : count < old.size) :
    (add markers woven insn).relocation = woven.relocation.push (markers.target old count) := by
  rw [← h.opened_size hc]
  by_cases hr : insn.opcode.isReturn = true
  · simp [add, hr]
  · simp [add, hr]

theorem Threaded.add_exits (h : Threaded markers old count woven) (hi : old[count]? = some insn) :
    (add markers woven insn).exits.toList = woven.exits.toList ++
      if closing old count = 1 then
        [(markers.target old count, markers.target old count + 2)] else [] := by
  have ho := h.opened_size (Array.getElem?_eq_some_iff.mp hi).1
  by_cases hr : insn.opcode.isReturn = true
  · simp [add, hr, ho, closing_of_return hi hr]
  · have hr' : insn.opcode.isReturn = false := by simpa using hr
    simp [add, hr', closing_of_not_return hi hr']

/-- One instruction more adds its own places and leaves the former ones as they are. -/
theorem Threaded.add (h : Threaded markers old count woven) (hi : old[count]? = some insn) :
    Threaded markers old (count + 1) (woven.add markers insn) := by
  have hc : count < old.size := (Array.getElem?_eq_some_iff.mp hi).1
  have hw := h.add_instructions hi
  have hsize : woven.instructions.toList.length = markers.entry old count := by simp [h.size]
  have hlead := length_take_opening markers old count
  have hkeep : ∀ p, p < markers.entry old count →
      (woven.add markers insn).instructions[p]? = woven.instructions[p]? := by
    intro p hp
    rw [← Array.getElem?_toList, hw, List.getElem?_append_left (by omega), Array.getElem?_toList]
  have hnew : ∀ i, (woven.add markers insn).instructions[markers.entry old count + i]? =
      (markers.prologue.take (markers.opening old count) ++
        (List.replicate (closing old count) markers.endCall ++ [insn]))[i]? := by
    intro i
    rw [← Array.getElem?_toList, hw, ← hsize, List.getElem?_append_right (by omega)]
    simp
  refine ⟨?_, ?_, ?_, ?_, ?_, ?_, ?_⟩
  · simp [h.add_relocation hc, h.relocation_size]
  · have := congrArg List.length hw
    simp only [Array.length_toList, List.length_append, hlead, List.length_replicate,
      List.length_singleton, h.size] at this
    rw [this, entry_succ, place, target]
    omega
  · intro l hlt
    rw [h.add_relocation hc, Array.getElem?_push, h.relocation_size]
    rcases Nat.lt_succ_iff_lt_or_eq.mp hlt with lt | rfl
    · rw [if_neg (by omega), h.relocation l lt]
    · simp
  · intro l hlt
    rcases Nat.lt_succ_iff_lt_or_eq.mp hlt with lt | rfl
    · rw [hkeep _ (place_lt_entry markers old lt), h.original l lt]
    · rw [place, target, Nat.add_assoc, hnew, List.getElem?_append_right (by omega),
        List.getElem?_append_right (by simp [hlead]), hi]
      simp [hlead]
  · intro l hlt hcl
    rcases Nat.lt_succ_iff_lt_or_eq.mp hlt with lt | rfl
    · have hp := place_lt_entry markers old lt
      have ht := target_le_place markers old l
      rw [hkeep _ (by omega), h.endCall l lt hcl]
    · rw [target, hnew, List.getElem?_append_right (by omega), hlead, hcl]
      simp
  · intro l hlt i hio
    rcases Nat.lt_succ_iff_lt_or_eq.mp hlt with lt | rfl
    · have hp := place_lt_entry markers old lt
      have ht := target_le_place markers old l
      have he : markers.entry old l + i < markers.target old l := by rw [target]; omega
      rw [hkeep _ (by omega), h.prologue l lt i hio]
    · rw [hnew, List.getElem?_append_left (by omega), List.getElem?_take, if_pos hio]
  · rw [h.add_exits hi, h.exits, List.range_succ, List.filter_append, List.map_append]
    by_cases hcl : closing old count = 1 <;> simp [hcl]

theorem foldl_threaded (markers : Markers) (old : Array Instruction) :
    Threaded markers old old.size (old.foldl (add markers) ⟨#[], #[], #[]⟩) := by
  suffices h : ∀ (done rest : List Instruction) (woven : Weaving), old.toList = done ++ rest →
      Threaded markers old done.length woven →
      Threaded markers old old.size (rest.foldl (add markers) woven) by
    rw [← Array.foldl_toList]
    exact h [] old.toList _ rfl (threaded_start markers old)
  intro done rest
  induction rest generalizing done with
  | nil =>
    intro woven hd h
    have hl : old.size = done.length := by simpa using congrArg List.length hd
    rw [hl]
    exact h
  | cons insn rest ih =>
    intro woven hd h
    have hi : old[done.length]? = some insn := by
      rw [← Array.getElem?_toList, hd]
      simp
    have hh := ih (done ++ [insn]) (woven.add markers insn) (by simp [hd])
      (by simpa using h.add hi)
    simpa using hh

/-- What stands where in a whole weaving, and where the old labels have gone. -/
structure Woven (markers : Markers) (old : Array Instruction) (woven : Weaving) : Prop where
  relocate : ∀ l ≤ old.size, woven.relocate l = markers.target old l
  relocation_size : woven.relocation.size = old.size + 1
  size : woven.instructions.size = markers.entry old old.size
  original : ∀ l < old.size,
    woven.instructions[markers.place old l]? = old[l]?.map (·.mapTargets woven.relocate)
  endCall : ∀ l < old.size, closing old l = 1 →
    woven.instructions[markers.target old l]? = some (markers.endCall.mapTargets woven.relocate)
  prologue : ∀ l < old.size, ∀ i < markers.opening old l,
    woven.instructions[markers.entry old l + i]? =
      markers.prologue[i]?.map (·.mapTargets woven.relocate)
  exits : woven.exits.toList = ((List.range old.size).filter (closing old · = 1)).map fun l =>
    (markers.target old l, markers.target old l + 2)

theorem weave_instructions (markers : Markers) (old : Array Instruction) :
    (weave markers old).instructions = (old.foldl (add markers) ⟨#[], #[], #[]⟩).instructions.map
      (·.mapTargets (weave markers old).relocate) := rfl

theorem weave_relocation (markers : Markers) (old : Array Instruction) :
    (weave markers old).relocation = (old.foldl (add markers) ⟨#[], #[], #[]⟩).relocation.push
      (old.foldl (add markers) ⟨#[], #[], #[]⟩).instructions.size := rfl

theorem weave_woven (markers : Markers) (old : Array Instruction) :
    Woven markers old (weave markers old) := by
  have h := foldl_threaded markers old
  refine ⟨?_, ?_, ?_, ?_, ?_, ?_, ?_⟩
  · intro l hl
    rw [relocate, weave_relocation, Array.getElem?_push, h.relocation_size, h.size]
    rcases Nat.lt_or_eq_of_le hl with lt | rfl
    · rw [if_neg (by omega), h.relocation l lt]
      rfl
    · rw [if_pos rfl, target, opening_size]
      rfl
  · rw [weave_relocation, Array.size_push, h.relocation_size]
  · rw [weave_instructions, Array.size_map, h.size]
  · intro l hl
    rw [weave_instructions, Array.getElem?_map, h.original l hl]
  · intro l hl hcl
    rw [weave_instructions, Array.getElem?_map, h.endCall l hl hcl]
    rfl
  · intro l hl i hi
    rw [weave_instructions, Array.getElem?_map, h.prologue l hl i hi]
  · exact h.exits

end Weaving

end MethodTrace
