import MethodTrace.Pattern.Regex
import Mathlib

/-!
What regular expressions match.

An expression matches from one place of a text to another. A mask is led through an expression to
exactly the places to which it matches from those of the mask, so a search finds a match wherever
there is one.
-/

namespace MethodTrace.Pattern

/-- A number of steps one after another. -/
def Repeats (step : Nat → Nat → Prop) : (count : Nat) → Nat → Nat → Prop
  | 0, i, j => i = j
  | count + 1, i, j => ∃ k, step i k ∧ Repeats step count k j

theorem Repeats.add {step : Nat → Nat → Prop} {count more i j k : Nat}
    (first : Repeats step count i j) (second : Repeats step more j k) :
    Repeats step (count + more) i k := by
  induction count generalizing i with
  | zero =>
    cases first
    rwa [Nat.zero_add]
  | succ count ih =>
    obtain ⟨l, taken, rest⟩ := first
    rw [Nat.succ_add]
    exact ⟨l, taken, ih rest⟩

theorem Repeats.split {step : Nat → Nat → Prop} {count more i k : Nat}
    (h : Repeats step (count + more) i k) :
    ∃ j, Repeats step count i j ∧ Repeats step more j k := by
  induction count generalizing i with
  | zero => exact ⟨i, rfl, by rwa [Nat.zero_add] at h⟩
  | succ count ih =>
    rw [Nat.succ_add] at h
    obtain ⟨l, taken, rest⟩ := h
    obtain ⟨j, first, second⟩ := ih rest
    exact ⟨j, ⟨l, taken, first⟩, second⟩

theorem Repeats.succ_iff {step : Nat → Nat → Prop} {count i k : Nat} :
    Repeats step (count + 1) i k ↔ ∃ j, Repeats step count i j ∧ step j k := by
  constructor
  · intro h
    obtain ⟨j, first, l, taken, rfl⟩ := h.split
    exact ⟨j, first, taken⟩
  · rintro ⟨j, first, taken⟩
    exact first.add ⟨k, taken, rfl⟩

/-- Whether an expression matches from one place of a text to another. -/
def Regex.Matches (subject : Subject) : Regex → Nat → Nat → Prop
  | empty, i, j => i = j
  | oneOf chars, i, j => j = i + 1 ∧ ∃ c, subject.text[i]? = some c ∧ chars.contains c
  | look condition, i, j => i = j ∧ subject.holds i condition
  | seq first second, i, j => ∃ k, first.Matches subject i k ∧ second.Matches subject k j
  | either first second, i, j => first.Matches subject i j ∨ second.Matches subject i j
  | repetition item least most, i, j =>
    ∃ more, (∀ bound ∈ most, more ≤ bound - least) ∧
      Repeats (item.Matches subject) (least + more) i j
  | capture item, i, j => item.Matches subject i j

namespace Mask

/-- Whether a place is in the set of a mask. -/
def Has (mask : Mask) (place : Nat) : Prop :=
  mask[place]? = some true

/-- A step leads from masks of one size to all places to which a relation leads. -/
structure Leads (size : Nat) (step : Mask → Mask) (relation : Nat → Nat → Prop) : Prop where
  size_eq : ∀ mask, mask.size = size → (step mask).size = size
  has_iff : ∀ mask, mask.size = size → ∀ j, (step mask).Has j ↔ ∃ i, mask.Has i ∧ relation i j

variable {size : Nat} {step next : Mask → Mask} {relation relation' : Nat → Nat → Prop}

theorem Has.lt {mask : Mask} {place : Nat} (h : mask.Has place) : place < mask.size := by
  by_contra le
  rw [Has, Array.getElem?_eq_none (Nat.le_of_not_lt le)] at h
  cases h

theorem size_union {a b : Mask} (h : a.size = b.size) : (a.union b).size = a.size := by
  simp [union, h]

theorem has_union {a b : Mask} (h : a.size = b.size) (j : Nat) :
    (a.union b).Has j ↔ a.Has j ∨ b.Has j := by
  unfold Has union
  by_cases inside : j < a.size
  · have inside' : j < b.size := h ▸ inside
    simp [inside, inside']
  · have outside' : ¬j < b.size := h ▸ inside
    simp [inside, outside']

theorem Leads.comp (first : Leads size step relation) (second : Leads size next relation') :
    Leads size (fun mask => next (step mask)) fun i j => ∃ k, relation i k ∧ relation' k j where
  size_eq mask h := second.size_eq _ (first.size_eq mask h)
  has_iff mask h j := by
    rw [second.has_iff _ (first.size_eq mask h)]
    simp only [first.has_iff mask h]
    constructor
    · rintro ⟨k, ⟨i, mem, left⟩, right⟩
      exact ⟨i, mem, k, left, right⟩
    · rintro ⟨i, mem, k, left, right⟩
      exact ⟨k, ⟨i, mem, left⟩, right⟩

theorem Leads.union (first : Leads size step relation) (second : Leads size next relation') :
    Leads size (fun mask => (step mask).union (next mask))
      fun i j => relation i j ∨ relation' i j where
  size_eq mask h := by
    have sizes := (first.size_eq mask h).trans (second.size_eq mask h).symm
    rw [size_union sizes, first.size_eq mask h]
  has_iff mask h j := by
    have sizes := (first.size_eq mask h).trans (second.size_eq mask h).symm
    rw [has_union sizes, first.has_iff mask h, second.has_iff mask h, ← exists_or]
    simp only [and_or_left]

theorem Leads.iterate (h : Leads size step relation) (count : Nat) :
    Leads size (iterate step count) (Repeats relation count) := by
  induction count with
  | zero =>
    refine ⟨fun mask h => h, fun mask h j => ?_⟩
    change mask.Has j ↔ ∃ i, mask.Has i ∧ i = j
    simp
  | succ count ih =>
    have both := ih.comp h
    refine ⟨both.size_eq, fun mask same j => (both.has_iff mask same j).trans ?_⟩
    simp only [Repeats.succ_iff]

/-- A set that a step does not lead out of is not left by any number of steps. -/
theorem has_of_repeats {mask : Mask} (stays : ∀ i j, mask.Has i → relation i j → mask.Has j)
    {count i j : Nat} (mem : mask.Has i) (h : Repeats relation count i j) : mask.Has j := by
  induction count generalizing i with
  | zero => exact h ▸ mem
  | succ count ih =>
    obtain ⟨k, taken, rest⟩ := h
    exact ih (stays i k mem taken) rest

theorem Leads.stays (h : Leads size step relation) {mask : Mask} (same : mask.size = size)
    (full : mask.union (step mask) = mask) : ∀ i j, mask.Has i → relation i j → mask.Has j := by
  intro i j mem taken
  have found := (h.has_iff mask same j).mpr ⟨i, mem, taken⟩
  rw [← full, has_union (same.trans (h.size_eq mask same).symm)]
  exact .inr found

/-- With a limit on the steps, all places are found that are no more steps away than that. -/
theorem Leads.closure (h : Leads size step relation) (fuel : Nat) :
    Leads size (closure step fuel) fun i j => ∃ count ≤ fuel, Repeats relation count i j := by
  induction fuel with
  | zero =>
    refine ⟨fun mask same => same, fun mask same j => ?_⟩
    change mask.Has j ↔ _
    simp [Repeats]
  | succ fuel ih =>
    have grown {mask : Mask} (same : mask.size = size) : (mask.union (step mask)).size = size := by
      rw [size_union (same.trans (h.size_eq mask same).symm), same]
    refine ⟨fun mask same => ?_, fun mask same j => ?_⟩
    · rw [Mask.closure]
      split
      · exact same
      · exact ih.size_eq _ (grown same)
    · rw [Mask.closure]
      split
      · rename_i full
        constructor
        · intro mem
          exact ⟨j, mem, 0, Nat.zero_le _, rfl⟩
        · rintro ⟨i, mem, count, -, run⟩
          exact has_of_repeats (h.stays same full) mem run
      · rw [ih.has_iff _ (grown same)]
        simp only [has_union (same.trans (h.size_eq mask same).symm), h.has_iff mask same]
        constructor
        · rintro ⟨i, mem | ⟨k, mem, taken⟩, count, le, run⟩
          · exact ⟨i, mem, count, by omega, run⟩
          · exact ⟨k, mem, count + 1, by omega, i, taken, run⟩
        · rintro ⟨i, mem, count, le, run⟩
          cases count with
          | zero => exact ⟨i, .inl mem, 0, Nat.zero_le _, run⟩
          | succ count =>
            obtain ⟨k, taken, rest⟩ := run
            exact ⟨k, .inr ⟨i, mem, taken⟩, count, by omega, rest⟩

/-- The number of places that are not in the set. -/
def unset (mask : Mask) : Nat :=
  mask.toList.count false

theorem count_false_or_le (a b : List Bool) (h : a.length = b.length) :
    (List.zipWith (· || ·) a b).count false ≤ a.count false := by
  induction a generalizing b with
  | nil => simp
  | cons x a ih =>
    cases b with
    | nil => cases h
    | cons y b =>
      have le := ih b (Nat.succ.inj h)
      cases x <;> cases y <;> simp [le, Nat.le_succ_of_le]

theorem count_false_or_lt (a b : List Bool) (h : a.length = b.length)
    (ne : List.zipWith (· || ·) a b ≠ a) :
    (List.zipWith (· || ·) a b).count false < a.count false := by
  induction a generalizing b with
  | nil => simp at ne
  | cons x a ih =>
    cases b with
    | nil => cases h
    | cons y b =>
      have same := Nat.succ.inj h
      have le := count_false_or_le a b same
      cases x <;> cases y <;> simp_all

theorem unset_union_lt {a b : Mask} (h : a.size = b.size) (ne : a.union b ≠ a) :
    (a.union b).unset < a.unset := by
  rw [unset, union, Array.toList_zipWith]
  refine count_false_or_lt _ _ (by simpa using h) fun same => ne ?_
  rw [← Array.toList_inj, union, Array.toList_zipWith, same]

/-- As many steps as there are places outside are enough to find all that can be found. -/
theorem Leads.has_closure (h : Leads size step relation) {fuel : Nat} {mask : Mask}
    (same : mask.size = size) (enough : mask.unset ≤ fuel) {count i j : Nat} (mem : mask.Has i)
    (run : Repeats relation count i j) : (Mask.closure step fuel mask).Has j := by
  induction fuel generalizing mask i with
  | zero =>
    have full : false ∉ mask.toList := List.count_eq_zero.mp (Nat.le_zero.mp enough)
    change mask.Has j
    refine has_of_repeats (fun i j mem taken => ?_) mem run
    have inside := ((h.has_iff mask same j).mpr ⟨i, mem, taken⟩).lt
    rw [h.size_eq mask same, ← same] at inside
    rw [Has, Array.getElem?_eq_getElem inside, Option.some_inj]
    by_contra outside
    refine full (Array.mem_toList_iff.mpr ?_)
    rw [← Bool.eq_false_of_not_eq_true outside]
    exact Array.getElem_mem inside
  | succ fuel ih =>
    have sizes := same.trans (h.size_eq mask same).symm
    rw [Mask.closure]
    split
    · rename_i full
      exact has_of_repeats (h.stays same full) mem run
    · rename_i grows
      have lt := unset_union_lt sizes grows
      refine ih ((size_union sizes).trans same) (by omega) ?_ run
      exact (has_union sizes i).mpr (.inl mem)

/-- Without a limit, all places are found to which any number of steps leads. -/
theorem Leads.closure_size (h : Leads size step relation) :
    Leads size (fun mask => Mask.closure step mask.size mask)
      fun i j => ∃ count, Repeats relation count i j where
  size_eq mask same := (h.closure mask.size).size_eq mask same
  has_iff mask same j := by
    constructor
    · intro found
      obtain ⟨i, mem, count, -, run⟩ := ((h.closure mask.size).has_iff mask same j).mp found
      exact ⟨i, mem, count, run⟩
    · rintro ⟨i, mem, count, run⟩
      exact h.has_closure same List.count_le_length mem run

end Mask

namespace Regex

variable {subject : Subject}

theorem leads_oneOf (chars : CharSet) : Mask.Leads (subject.text.size + 1)
    ((oneOf chars).run subject) ((oneOf chars).Matches subject) where
  size_eq mask same := by simp [run, same]
  has_iff mask same j := by
    have read : Mask.Has ((oneOf chars).run subject mask) j ↔ j < mask.size ∧
        ((j != 0 && mask[j - 1]?.getD false)
          && subject.text[j - 1]?.any chars.contains) = true := by
      simp [Mask.Has, run, Array.getElem?_eq_some_iff]
    rw [read]
    cases j with
    | zero => simp [Matches]
    | succ i =>
      have inside : mask[i]?.getD false = true ↔ mask.Has i := by
        unfold Mask.Has
        cases mask[i]? <;> simp
      simp only [Nat.add_sub_cancel, Bool.and_eq_true, inside, Option.any_eq_true, Matches]
      constructor
      · rintro ⟨-, ⟨-, mem⟩, c, next, taken⟩
        exact ⟨i, mem, rfl, c, next, taken⟩
      · rintro ⟨i, mem, ⟨⟩, c, next, taken⟩
        have lt := (Array.getElem?_eq_some_iff.mp next).1
        exact ⟨by omega, ⟨by simp, mem⟩, c, next, taken⟩

theorem leads_look (condition : Look) : Mask.Leads (subject.text.size + 1)
    ((look condition).run subject) ((look condition).Matches subject) where
  size_eq mask same := by simp [run, same]
  has_iff mask same j := by
    have read : Mask.Has ((look condition).run subject mask) j ↔
        mask.Has j ∧ subject.holds j condition = true := by
      unfold Mask.Has run
      rw [Array.getElem?_mapIdx]
      cases mask[j]? <;> simp
    rw [read]
    constructor
    · rintro ⟨mem, holds⟩
      exact ⟨j, mem, rfl, holds⟩
    · rintro ⟨i, mem, rfl, holds⟩
      exact ⟨mem, holds⟩

theorem leads_run (regex : Regex) :
    Mask.Leads (subject.text.size + 1) (regex.run subject) (regex.Matches subject) := by
  induction regex with
  | empty => exact ⟨fun mask same => same, fun mask same j => by simp [run, Matches]⟩
  | oneOf chars => exact leads_oneOf chars
  | look condition => exact leads_look condition
  | seq first second ihFirst ihSecond => exact ihFirst.comp ihSecond
  | either first second ihFirst ihSecond => exact ihFirst.union ihSecond
  | repetition item least most ih =>
    have start := ih.iterate least
    cases most with
    | none =>
      have both := start.comp ih.closure_size
      refine ⟨both.size_eq, fun mask same j => (both.has_iff mask same j).trans ?_⟩
      refine exists_congr fun i => and_congr_right fun mem => ⟨?_, ?_⟩
      · rintro ⟨k, first, more, second⟩
        exact ⟨more, nofun, first.add second⟩
      · rintro ⟨more, -, run⟩
        obtain ⟨k, first, second⟩ := run.split
        exact ⟨k, first, more, second⟩
    | some most =>
      have both := start.comp (ih.closure (most - least))
      refine ⟨both.size_eq, fun mask same j => (both.has_iff mask same j).trans ?_⟩
      refine exists_congr fun i => and_congr_right fun mem => ⟨?_, ?_⟩
      · rintro ⟨k, first, more, le, second⟩
        exact ⟨more, fun bound same => Option.some.inj same ▸ le, first.add second⟩
      · rintro ⟨more, le, run⟩
        obtain ⟨k, first, second⟩ := run.split
        exact ⟨k, first, more, le most rfl, second⟩
  | capture item ih => exact ih

/-- A search finds a match wherever there is one. -/
theorem search_iff (regex : Regex) : regex.search subject = true ↔
    ∃ i ≤ subject.text.size, ∃ j, regex.Matches subject i j := by
  have places :
      Mask.Has (Array.replicate (subject.text.size + 1) true) = (· ≤ subject.text.size) := by
    funext i
    simp [Mask.Has, Array.getElem?_replicate]
  have found (mask : Mask) : mask.any id = true ↔ ∃ j, mask.Has j := by
    simp [Mask.Has, Array.any_eq_true, Array.getElem?_eq_some_iff]
  rw [search, found]
  simp only [(leads_run regex).has_iff _ Array.size_replicate, places]
  constructor
  · rintro ⟨j, i, le, run⟩
    exact ⟨i, le, j, run⟩
  · rintro ⟨i, le, j, run⟩
    exact ⟨j, i, le, run⟩

end Regex

end MethodTrace.Pattern
