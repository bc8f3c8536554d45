/-!
Exploration of a finite graph from a stack of pending places.

Every place carries a value along. A place that is met again has to be met with the same value;
otherwise, and when a place lies outside the graph, the exploration fails. What it returns is the
table of all places that were met.
-/

namespace MethodTrace.Exploration

/-- The places that have not been met yet. -/
def unmet (table : Array (Option α)) : Nat :=
  table.countP (·.isNone)

theorem unmet_set {table : Array (Option α)} {place : Nat} (inside : place < table.size)
    (value : α) (fresh : table[place] = none) :
    unmet (table.set place (some value)) < unmet table := by
  have pos : 0 < unmet table :=
    Array.countP_pos_iff.mpr ⟨none, fresh ▸ Array.getElem_mem inside, rfl⟩
  unfold unmet at pos ⊢
  rw [Array.countP_set]
  simp only [fresh, Option.isNone_none, Option.isNone_some, if_true, Bool.false_eq_true, if_false]
  omega

/-- Explores from the top of the stack. `next` gives what a place leads to, in the order in which
it is pushed; `outside` and `conflict` word the two ways to fail. -/
def explore [DecidableEq α] (next : Nat → α → Except ε (List (Nat × α))) (outside : Nat → α → ε)
    (conflict : Nat → α → α → ε) (stack : List (Nat × α)) (table : Array (Option α)) :
    Except ε (Array (Option α)) :=
  match stack with
  | [] => .ok table
  | (place, value) :: stack =>
    if inside : place < table.size then
      match fresh : table[place] with
      | some seen =>
        if seen = value then explore next outside conflict stack table
        else .error (conflict place seen value)
      | none =>
        match next place value with
        | .error e => .error e
        | .ok pushed =>
          explore next outside conflict (pushed.reverse ++ stack) (table.set place (some value))
    else .error (outside place value)
termination_by (unmet table, stack.length)
decreasing_by
  · exact Prod.Lex.right _ (Nat.lt_succ_self _)
  · exact Prod.Lex.left _ _ (unmet_set inside value fresh)

end MethodTrace.Exploration
