import Mathlib
import MethodTrace.Code.Exploration
import MethodTrace.Proofs.Runs

/-!
Explorations, which take the pending places in some order.

What an exploration has met is closed: it holds all places that it was started with, and all those
to which a place in it leads. Whatever the order is, it meets the places to which the first ones
lead. One that has nothing left to do has a table of just these places, and one that fails has met
something at which every other one must fail as well. An exploration cannot go on for ever, since
each step lowers the number of unmet places, or of pending ones.
-/

namespace MethodTrace.Exploration

variable {α ε : Type} [DecidableEq α] {next : Nat → α → Except ε (List (Nat × α))}
  {outside : Nat → α → ε} {conflict : Nat → α → α → ε} {stack : List (Nat × α)}
  {table found : Array (Option α)}

omit [DecidableEq α] in
/-- A table in which a new place has been met holds that, and what it has held before. -/
theorem held_set_iff {place : Nat} (value : α) (inside : place < table.size)
    (fresh : table[place] = none) (p : Nat) (v : α) :
    (table.set place (some value))[p]? = some (some v) ↔
      (p = place ∧ v = value) ∨ table[p]? = some (some v) := by
  rw [Array.getElem?_set]
  split
  · next same =>
    subst same
    simp [Array.getElem?_eq_getElem inside, fresh, eq_comm]
  · next other => simp [Ne.symm other]

omit [DecidableEq α] in
/-- Nothing has been met when an exploration begins. -/
theorem not_held_replicate (size place : Nat) (value : α) :
    (Array.replicate size (none : Option α))[place]? ≠ some (some value) := by
  intro h
  rw [Array.getElem?_replicate] at h
  split at h <;> cases h

/-- The relation between a table and the one that an exploration makes of it. -/
structure Explored (next : Nat → α → Except ε (List (Nat × α))) (stack : List (Nat × α))
    (table found : Array (Option α)) : Prop where
  size : found.size = table.size
  pending : ∀ entry ∈ stack, found[entry.1]? = some (some entry.2)
  keeps : ∀ (place : Nat) value, table[place]? = some (some value) →
    found[place]? = some (some value)
  leads : ∀ (place : Nat) value, found[place]? = some (some value) →
    table[place]? = some (some value) ∨ ∃ pushed, next place value = .ok pushed ∧
      ∀ entry ∈ pushed, found[entry.1]? = some (some entry.2)

theorem explore_explored (h : explore next outside conflict stack table = .ok found) :
    Explored next stack table found := by
  fun_induction explore next outside conflict stack table with
  | case1 table =>
    cases h
    exact ⟨rfl, by simp, fun _ _ hp => hp, fun _ _ hp => .inl hp⟩
  | case2 table place stack inside seen fresh ih =>
    obtain ⟨hsize, hpending, hkeeps, hleads⟩ := ih h
    refine ⟨hsize, ?_, hkeeps, hleads⟩
    intro entry he
    rcases List.mem_cons.mp he with rfl | he
    · exact hkeeps _ _ (Array.getElem?_eq_some_iff.mpr ⟨inside, fresh⟩)
    · exact hpending entry he
  | case3 => cases h
  | case4 => cases h
  | case5 table place value stack inside fresh pushed hn ih =>
    obtain ⟨hsize, hpending, hkeeps, hleads⟩ := ih h
    have hset := held_set_iff value inside fresh
    refine ⟨by simpa using hsize, ?_, fun p v hp => hkeeps p v ((hset p v).mpr (.inr hp)), ?_⟩
    · intro entry he
      rcases List.mem_cons.mp he with rfl | he
      · exact hkeeps _ _ ((hset _ _).mpr (.inl ⟨rfl, rfl⟩))
      · exact hpending entry (by simp [he])
    · intro p v hp
      rcases hleads p v hp with ht | hl
      · rcases (hset p v).mp ht with ⟨rfl, rfl⟩ | ht
        · exact .inr ⟨pushed, hn, fun entry he => hpending entry (by simp [he])⟩
        · exact .inl ht
      · exact .inr hl
  | case6 => cases h

/-- An exploration succeeds within a set of places that it cannot leave and in which every place
has one value only. -/
theorem explore_succeeds {met : Nat → α → Prop}
    (leads : ∀ place value, met place value → place < table.size ∧
      ∃ pushed, next place value = .ok pushed ∧ ∀ entry ∈ pushed, met entry.1 entry.2)
    (unique : ∀ place value other, met place value → met place other → value = other)
    (pending : ∀ entry ∈ stack, met entry.1 entry.2)
    (held : ∀ (place : Nat) value, table[place]? = some (some value) → met place value) :
    ∃ found, explore next outside conflict stack table = .ok found := by
  fun_induction explore next outside conflict stack table with
  | case1 table => exact ⟨table, rfl⟩
  | case2 table place stack inside seen fresh ih =>
    exact ih leads (fun entry he => pending entry (List.mem_cons_of_mem _ he)) held
  | case3 table place value stack inside seen fresh ne =>
    have here : met place value := pending (place, value) List.mem_cons_self
    have before := held place seen (Array.getElem?_eq_some_iff.mpr ⟨inside, fresh⟩)
    exact absurd (unique place seen value before here) ne
  | case4 table place value stack inside fresh e hn =>
    have here : met place value := pending (place, value) List.mem_cons_self
    obtain ⟨pushed, hp, _⟩ := (leads place value here).2
    rw [hn] at hp
    cases hp
  | case5 table place value stack inside fresh pushed hn ih =>
    have here : met place value := pending (place, value) List.mem_cons_self
    obtain ⟨_, hp, within⟩ := (leads place value here).2
    rw [hn] at hp
    cases hp
    refine ih (by simpa using leads) ?_ ?_
    · intro entry he
      rcases List.mem_append.mp he with he | he
      · exact within entry (List.mem_reverse.mp he)
      · exact pending entry (List.mem_cons_of_mem _ he)
    · intro p v hp
      rcases (held_set_iff value inside fresh p v).mp hp with ⟨rfl, rfl⟩ | hp
      · exact here
      · exact held p v hp
  | case6 table place value stack outside =>
    have here : met place value := pending (place, value) List.mem_cons_self
    exact absurd (leads place value here).1 outside

end MethodTrace.Exploration

namespace MethodTrace.Exploration

variable {α ε : Type} {next : Nat → α → Except ε (List (Nat × α))} {first : List (Nat × α)}
  {size : Nat}

/-- How far an exploration has come: the pending places, in no order, and the table of those met. -/
structure Frontier (α : Type) where
  pending : Multiset (Nat × α)
  table : Array (Option α)

/-- Takes any of the pending places. -/
inductive Step (next : Nat → α → Except ε (List (Nat × α))) : Frontier α → Frontier α → Prop
  | again {place : Nat} {value : α} {pending : Multiset (Nat × α)} {table : Array (Option α)}
      (seen : table[place]? = some (some value)) :
      Step next ⟨(place, value) ::ₘ pending, table⟩ ⟨pending, table⟩
  | fresh {place : Nat} {value : α} {pending : Multiset (Nat × α)} {table : Array (Option α)}
      {pushed : List (Nat × α)} (inside : place < table.size) (new : table[place] = none)
      (leads : next place value = .ok pushed) :
      Step next ⟨(place, value) ::ₘ pending, table⟩
        ⟨pushed + pending, table.set place (some value)⟩

/-- A pending place at which an exploration fails. -/
inductive Fault (next : Nat → α → Except ε (List (Nat × α))) (frontier : Frontier α) : Prop
  | outside {place : Nat} {value : α} (here : (place, value) ∈ frontier.pending)
      (beyond : frontier.table.size ≤ place)
  | conflict {place : Nat} {value seen : α} (here : (place, value) ∈ frontier.pending)
      (held : frontier.table[place]? = some (some seen)) (ne : seen ≠ value)
  | stuck {place : Nat} {value : α} {fault : ε} (here : (place, value) ∈ frontier.pending)
      (fails : next place value = .error fault)

/-- What an exploration in some order comes to: a table, or nothing if it fails. -/
inductive Ends (next : Nat → α → Except ε (List (Nat × α))) :
    Frontier α → Option (Array (Option α)) → Prop
  | done (table : Array (Option α)) : Ends next ⟨0, table⟩ (some table)
  | fails {frontier : Frontier α} (fault : Fault next frontier) : Ends next frontier none
  | step {frontier after : Frontier α} {outcome : Option (Array (Option α))}
      (step : Step next frontier after) (rest : Ends next after outcome) :
      Ends next frontier outcome

/-- The places to which the first ones lead, with the values that are carried to them. -/
inductive Met (next : Nat → α → Except ε (List (Nat × α))) (first : List (Nat × α)) :
    Nat → α → Prop
  | first {place : Nat} {value : α} (here : (place, value) ∈ first) : Met next first place value
  | step {place target : Nat} {value left : α} {pushed : List (Nat × α)}
      (met : Met next first place value) (leads : next place value = .ok pushed)
      (here : (target, left) ∈ pushed) : Met next first target left

/-- Nothing that is met stands in the way of an exploration of a graph of some size. -/
structure Explorable (next : Nat → α → Except ε (List (Nat × α))) (first : List (Nat × α))
    (size : Nat) : Prop where
  inside : ∀ place value, Met next first place value → place < size
  leads : ∀ place value, Met next first place value → ∃ pushed, next place value = .ok pushed
  unique : ∀ place value other, Met next first place value → Met next first place other →
    value = other

/-- A step meets a new place, or leaves fewer pending ones. -/
theorem wellFounded_step (next : Nat → α → Except ε (List (Nat × α))) :
    WellFounded fun after before => Step next before after := by
  let measure (frontier : Frontier α) : Nat ×ₗ Nat :=
    toLex (unmet frontier.table, frontier.pending.card)
  refine Subrelation.wf (r := InvImage (· < ·) measure) ?_ (InvImage.wf measure wellFounded_lt)
  intro after before step
  cases step with
  | again seen =>
    refine Prod.Lex.toLex_lt_toLex.mpr (.inr ⟨rfl, ?_⟩)
    rw [Multiset.card_cons]
    exact Nat.lt_succ_self _
  | fresh inside new leads => exact Prod.Lex.toLex_lt_toLex.mpr (.inl (unmet_set inside _ new))

/-- What holds of the frontier all along an exploration from the first places. -/
structure Along (next : Nat → α → Except ε (List (Nat × α))) (first : List (Nat × α))
    (size : Nat) (frontier : Frontier α) : Prop where
  size_eq : frontier.table.size = size
  pending : ∀ entry ∈ frontier.pending, Met next first entry.1 entry.2
  held : ∀ (place : Nat) value, frontier.table[place]? = some (some value) →
    Met next first place value
  first : ∀ entry ∈ first, entry ∈ frontier.pending ∨
    frontier.table[entry.1]? = some (some entry.2)
  leads : ∀ (place : Nat) value, frontier.table[place]? = some (some value) →
    ∃ pushed, next place value = .ok pushed ∧ ∀ entry ∈ pushed, entry ∈ frontier.pending ∨
      frontier.table[entry.1]? = some (some entry.2)

namespace Along

variable {frontier after : Frontier α} {outcome : Option (Array (Option α))}
  {table : Array (Option α)}

theorem start (next : Nat → α → Except ε (List (Nat × α))) (first : List (Nat × α)) (size : Nat) :
    Along next first size ⟨first, Array.replicate size none⟩ := by
  exact ⟨Array.size_replicate, fun _ h => .first (Multiset.mem_coe.mp h),
    fun place value h => absurd h (not_held_replicate size place value),
    fun _ h => .inl (Multiset.mem_coe.mpr h),
    fun place value h => absurd h (not_held_replicate size place value)⟩

theorem step (along : Along next first size frontier) (h : Step next frontier after) :
    Along next first size after := by
  obtain ⟨size_eq, pending, held, root, leads⟩ := along
  cases h with
  | @again place value rest table seen =>
    -- The place that is taken is in the table already.
    have kept (entry : Nat × α) (h : entry ∈ (place, value) ::ₘ rest ∨
        table[entry.1]? = some (some entry.2)) :
        entry ∈ rest ∨ table[entry.1]? = some (some entry.2) := by
      rcases h with h | h
      · rcases Multiset.mem_cons.mp h with rfl | h
        · exact .inr seen
        · exact .inl h
      · exact .inr h
    refine ⟨size_eq, fun entry he => pending entry (Multiset.mem_cons_of_mem he), held,
      fun entry he => kept entry (root entry he), fun p v hp => ?_⟩
    obtain ⟨pushed, hn, all⟩ := leads p v hp
    exact ⟨pushed, hn, fun entry he => kept entry (all entry he)⟩
  | @fresh place value rest table pushed inside new hn =>
    have met : Met next first place value := pending _ (Multiset.mem_cons_self _ _)
    have set := held_set_iff value inside new
    have kept (entry : Nat × α) (h : entry ∈ (place, value) ::ₘ rest ∨
        table[entry.1]? = some (some entry.2)) :
        entry ∈ (pushed : Multiset (Nat × α)) + rest ∨
          (table.set place (some value))[entry.1]? = some (some entry.2) := by
      rcases h with h | h
      · rcases Multiset.mem_cons.mp h with rfl | h
        · exact .inr ((set _ _).mpr (.inl ⟨rfl, rfl⟩))
        · exact .inl (Multiset.mem_add.mpr (.inr h))
      · exact .inr ((set _ _).mpr (.inr h))
    refine ⟨by simpa using size_eq, fun entry he => ?_, fun p v hp => ?_,
      fun entry he => kept entry (root entry he), fun p v hp => ?_⟩
    · rcases Multiset.mem_add.mp he with he | he
      · exact .step met hn (Multiset.mem_coe.mp he)
      · exact pending entry (Multiset.mem_cons_of_mem he)
    · rcases (set p v).mp hp with ⟨rfl, rfl⟩ | hp
      · exact met
      · exact held p v hp
    · rcases (set p v).mp hp with ⟨rfl, rfl⟩ | hp
      · exact ⟨pushed, hn, fun entry he => .inl (Multiset.mem_add.mpr (.inl he))⟩
      · obtain ⟨others, ho, all⟩ := leads p v hp
        exact ⟨others, ho, fun entry he => kept entry (all entry he)⟩

/-- When nothing is pending, the table has just the places that are met. -/
theorem getElem?_iff (along : Along next first size ⟨0, table⟩) (place : Nat) (value : α) :
    table[place]? = some (some value) ↔ Met next first place value := by
  refine ⟨along.held place value, fun met => ?_⟩
  induction met with
  | first here => exact (along.first _ here).resolve_left (Multiset.notMem_zero _)
  | step _ hn here ih =>
    obtain ⟨pushed, hp, all⟩ := along.leads _ _ ih
    cases hn.symm.trans hp
    exact (all _ here).resolve_left (Multiset.notMem_zero _)

theorem explorable (along : Along next first size ⟨0, table⟩) : Explorable next first size := by
  refine ⟨fun place value met => ?_, fun place value met => ?_, fun place value other met met' => ?_⟩
  · have held := (along.getElem?_iff place value).mpr met
    exact along.size_eq ▸ (Array.getElem?_eq_some_iff.mp held).1
  · obtain ⟨pushed, hp, _⟩ := along.leads place value ((along.getElem?_iff place value).mpr met)
    exact ⟨pushed, hp⟩
  · have same := ((along.getElem?_iff place value).mpr met).symm.trans
      ((along.getElem?_iff place other).mpr met')
    exact Option.some.inj (Option.some.inj same)

theorem not_explorable (along : Along next first size frontier) (fault : Fault next frontier) :
    ¬Explorable next first size := by
  rintro ⟨inside, leads, unique⟩
  cases fault with
  | outside here beyond =>
    have lt := inside _ _ (along.pending _ here)
    exact absurd (along.size_eq ▸ beyond) (Nat.not_le.mpr lt)
  | conflict here held ne =>
    exact ne (unique _ _ _ (along.held _ _ held) (along.pending _ here))
  | stuck here fails =>
    obtain ⟨pushed, hp⟩ := leads _ _ (along.pending _ here)
    rw [fails] at hp
    cases hp

theorem ends (along : Along next first size frontier) (h : Ends next frontier outcome) :
    (outcome = none ∧ ¬Explorable next first size) ∨
      ∃ table, outcome = some table ∧ Along next first size ⟨0, table⟩ := by
  induction h with
  | done table => exact .inr ⟨table, rfl, along⟩
  | fails fault => exact .inl ⟨rfl, along.not_explorable fault⟩
  | step step _ ih => exact ih (along.step step)

end Along

/-- Explorations from the same places come to the same in every order. -/
theorem Ends.unique {outcome other : Option (Array (Option α))}
    (h : Ends next ⟨first, Array.replicate size none⟩ outcome)
    (ho : Ends next ⟨first, Array.replicate size none⟩ other) : outcome = other := by
  have start := Along.start next first size
  rcases start.ends h with ⟨rfl, no⟩ | ⟨table, rfl, all⟩
  · rcases start.ends ho with ⟨rfl, _⟩ | ⟨_, _, all'⟩
    · rfl
    · exact absurd all'.explorable no
  · rcases start.ends ho with ⟨_, no'⟩ | ⟨table', rfl, all'⟩
    · exact absurd all.explorable no'
    · congr 1
      refine Array.ext (all.size_eq.trans all'.size_eq.symm) fun place lt lt' => ?_
      refine Option.ext fun value => ?_
      have iff := (all.getElem?_iff place value).trans (all'.getElem?_iff place value).symm
      simpa [Array.getElem?_eq_getElem lt, Array.getElem?_eq_getElem lt'] using iff

/-- The exploration from the top of a stack is one of them. -/
theorem ends_explore [DecidableEq α] (outside : Nat → α → ε) (conflict : Nat → α → α → ε)
    (stack : List (Nat × α)) (table : Array (Option α)) :
    Ends next ⟨stack, table⟩ (explore next outside conflict stack table).toOption := by
  fun_induction explore next outside conflict stack table with
  | case1 table => exact .done table
  | case2 table place stack inside seen fresh ih =>
    rw [← Multiset.cons_coe]
    exact .step (.again (Array.getElem?_eq_some_iff.mpr ⟨inside, fresh⟩)) ih
  | case3 table place value stack inside seen fresh ne =>
    exact .fails (.conflict List.mem_cons_self (Array.getElem?_eq_some_iff.mpr ⟨inside, fresh⟩) ne)
  | case4 table place value stack inside fresh fault hn =>
    exact .fails (.stuck List.mem_cons_self hn)
  | case5 table place value stack inside fresh pushed hn ih =>
    rw [← Multiset.coe_add, Multiset.coe_reverse] at ih
    rw [← Multiset.cons_coe]
    exact .step (.fresh inside fresh hn) ih
  | case6 table place value stack outside =>
    exact .fails (.outside List.mem_cons_self (Nat.not_lt.mp outside))

end MethodTrace.Exploration
