import Mathlib

/-!
Computations that change a state and may fail, opened into the steps of which they are made.
-/

namespace MethodTrace

variable {ε δ σ α β : Type}

theorem forall₂_exists_left {R : α → β → Prop} {xs : List α} {ys : List β}
    (h : List.Forall₂ R xs ys) {y : β} (hy : y ∈ ys) : ∃ x ∈ xs, R x y := by
  induction h with
  | nil => simp at hy
  | @cons x z xs ys hr _ ih =>
    rcases List.mem_cons.mp hy with rfl | hy
    · exact ⟨x, by simp, hr⟩
    · obtain ⟨w, hw, hr⟩ := ih hy
      exact ⟨w, by simp [hw], hr⟩

/-- Lists that are sorted by a key are in one order if the key tells their members apart. -/
theorem mergeSort_eq_of_perm (key : α → String) {xs ys : List α} (perm : xs.Perm ys)
    (apart : ∀ x ∈ xs, ∀ y ∈ xs, key x = key y → x = y) :
    (xs.mergeSort fun x y => !decide (key y < key x))
      = ys.mergeSort fun x y => !decide (key y < key x) := by
  have ordered (x y : α) : (!decide (key y < key x)) = true ↔ key x ≤ key y := by
    rw [Bool.not_eq_true', decide_eq_false_iff_not, not_lt]
  have sorted (list : List α) := @List.pairwise_mergeSort _
    (fun x y : α => !decide (key y < key x))
    (fun a b c hab hbc => (ordered a c).mpr (((ordered a b).mp hab).trans ((ordered b c).mp hbc)))
    (fun a b => by
      rw [Bool.or_eq_true, ordered, ordered]
      exact le_total _ _) list
  have same : (xs.mergeSort fun x y => !decide (key y < key x)).Perm
      (ys.mergeSort fun x y => !decide (key y < key x)) :=
    (List.mergeSort_perm _ _).trans (perm.trans (List.mergeSort_perm _ _).symm)
  refine same.eq_of_pairwise (fun x y hx hy le ge => ?_) (sorted _) (sorted _)
  have hx := (List.mergeSort_perm _ _).mem_iff.mp hx
  have hy := perm.mem_iff.mpr ((List.mergeSort_perm _ _).mem_iff.mp hy)
  exact apart x hx y hy (((ordered _ _).mp le).antisymm ((ordered _ _).mp ge))

theorem Except.bind_eq_ok_iff {m : Except ε α} {f : α → Except ε β} {b : β} :
    (m >>= f) = .ok b ↔ ∃ a, m = .ok a ∧ f a = .ok b := by
  cases m with
  | error e => simp [bind, Except.bind]
  | ok a => simp [bind, Except.bind]

theorem Except.pure_eq_ok_iff {a b : α} : (pure a : Except ε α) = .ok b ↔ a = b := by
  simp [pure, Except.pure]

theorem Except.map_eq_ok_iff {m : Except ε α} {f : α → β} {b : β} :
    f <$> m = .ok b ↔ ∃ a, m = .ok a ∧ f a = b := by
  cases m with
  | error e => simp [Functor.map, Except.map]
  | ok a => simp [Functor.map, Except.map]

theorem Except.mapError_eq_ok_iff {m : Except ε α} {f : ε → δ} {a : α} :
    m.mapError f = .ok a ↔ m = .ok a := by
  cases m <;> simp [Except.mapError]

theorem Except.mapM_eq_ok_iff {f : α → Except ε β} {xs : List α} {ys : List β} :
    xs.mapM f = .ok ys ↔ List.Forall₂ (fun x y => f x = .ok y) xs ys := by
  induction xs generalizing ys with
  | nil =>
    rw [List.mapM_nil, Except.pure_eq_ok_iff, List.forall₂_nil_left_iff]
    exact eq_comm
  | cons x xs ih =>
    rw [List.mapM_cons, Except.bind_eq_ok_iff, List.forall₂_cons_left_iff]
    constructor
    · rintro ⟨y, hx, h⟩
      obtain ⟨zs, hxs, h⟩ := Except.bind_eq_ok_iff.mp h
      exact ⟨y, zs, hx, ih.mp hxs, (Except.pure_eq_ok_iff.mp h).symm⟩
    · rintro ⟨y, zs, hx, hxs, rfl⟩
      exact ⟨y, hx, Except.bind_eq_ok_iff.mpr ⟨zs, ih.mpr hxs, rfl⟩⟩

theorem Except.exists_mapM_eq_ok_iff {f : α → Except ε β} {xs : List α} :
    (∃ ys, xs.mapM f = .ok ys) ↔ ∀ x ∈ xs, ∃ y, f x = .ok y := by
  simp only [Except.mapM_eq_ok_iff]
  constructor
  · rintro ⟨ys, h⟩ x hx
    obtain ⟨y, _, hf⟩ := forall₂_exists_left h.flip hx
    exact ⟨y, hf⟩
  · intro all
    induction xs with
    | nil => exact ⟨[], .nil⟩
    | cons x xs ih =>
      obtain ⟨y, hx⟩ := all x List.mem_cons_self
      obtain ⟨ys, hxs⟩ := ih fun z hz => all z (List.mem_cons_of_mem x hz)
      exact ⟨y :: ys, .cons hx hxs⟩

/-- Checks of all members of a list pass if they pass one after another. -/
theorem Except.exists_mapM_iff {f : α → Except ε Unit} {xs : List α} :
    (∃ units, xs.mapM f = .ok units) ↔ ∀ x ∈ xs, f x = .ok () := by
  rw [Except.exists_mapM_eq_ok_iff]
  exact forall₂_congr fun x _ => ⟨fun ⟨_, h⟩ => h, fun h => ⟨(), h⟩⟩

/-- What is kept while the members of a list are taken in one by one holds of the whole list. -/
theorem Except.foldlM_induction {f : β → α → Except ε β} {P : List α → β → Prop} {xs : List α}
    {start result : β} (h : xs.foldlM f start = .ok result) (hs : P [] start)
    (hf : ∀ done x before after, P done before → f before x = .ok after → P (done ++ [x]) after) :
    P xs result := by
  induction xs using List.reverseRecOn generalizing result with
  | nil => exact Except.pure_eq_ok_iff.mp h ▸ hs
  | append_singleton done x ih =>
    rw [List.foldlM_append] at h
    obtain ⟨before, hb, h⟩ := Except.bind_eq_ok_iff.mp h
    rw [List.foldlM_cons] at h
    obtain ⟨after, ha, h⟩ := Except.bind_eq_ok_iff.mp h
    exact Except.pure_eq_ok_iff.mp h ▸ hf done x before after (ih hb) ha

/-- What every step keeps holds of what all steps together make. -/
theorem Except.foldlM_keeps {f : β → α → Except ε β} {P : β → Prop} {xs : List α} {start result : β}
    (h : xs.foldlM f start = .ok result) (hs : P start)
    (hf : ∀ before x after, P before → f before x = .ok after → P after) : P result :=
  Except.foldlM_induction (P := fun _ => P) h hs fun _ x before => hf before x

/-- A computation that succeeds, with its result and the state that it leaves. -/
def Runs (computation : ExceptT ε (StateM σ) α) (before : σ) (result : α) (after : σ) : Prop :=
  computation.run.run before = (.ok result, after)

namespace Runs

variable {m : ExceptT ε (StateM σ) α} {f : α → ExceptT ε (StateM σ) β} {s s' t : σ} {a a' : α}
  {b : β}

theorem unique (h : Runs m s a s') (h' : Runs m s a' t) : a = a' ∧ s' = t := by
  have he := h.symm.trans h'
  cases he
  exact ⟨rfl, rfl⟩

theorem run_bind : (m >>= f).run.run s = match m.run.run s with
    | (.ok a, s') => (f a).run.run s'
    | (.error e, s') => (.error e, s') := by
  change (do
    let result ← m.run
    ExceptT.bindCont f result : StateM σ (Except ε β)).run s = _
  rw [StateT.run_bind]
  cases m.run.run s with
  | mk result s' => cases result <;> rfl

theorem bind_iff : Runs (m >>= f) s b t ↔ ∃ a s', Runs m s a s' ∧ Runs (f a) s' b t := by
  unfold Runs
  rw [run_bind]
  cases hm : m.run.run s with
  | mk result s' =>
    cases result with
    | error e =>
      constructor
      · intro h
        cases h
      · rintro ⟨a, u, h, _⟩
        cases h
    | ok a =>
      constructor
      · intro h
        exact ⟨a, s', rfl, h⟩
      · rintro ⟨a', u, h, hf⟩
        cases h
        exact hf

@[simp]
theorem pure_iff : Runs (pure a : ExceptT ε (StateM σ) α) s a' t ↔ a' = a ∧ t = s := by
  constructor
  · intro h
    cases h
    exact ⟨rfl, rfl⟩
  · rintro ⟨rfl, rfl⟩
    rfl

@[simp]
theorem map_iff {g : α → β} : Runs (g <$> m) s b t ↔ ∃ a, Runs m s a t ∧ b = g a := by
  rw [map_eq_pure_bind, bind_iff]
  constructor
  · rintro ⟨a, s', hm, hp⟩
    obtain ⟨rfl, rfl⟩ := pure_iff.mp hp
    exact ⟨a, hm, rfl⟩
  · rintro ⟨a, hm, rfl⟩
    exact ⟨a, t, hm, pure_iff.mpr ⟨rfl, rfl⟩⟩

@[simp]
theorem throw_iff {e : ε} : Runs (throw e : ExceptT ε (StateM σ) α) s a t ↔ False := by
  constructor
  · intro h
    cases h
  · exact False.elim

@[simp]
theorem get_iff {u : σ} : Runs (get : ExceptT ε (StateM σ) σ) s u t ↔ u = s ∧ t = s := by
  constructor
  · intro h
    cases h
    exact ⟨rfl, rfl⟩
  · rintro ⟨rfl, rfl⟩
    rfl

@[simp]
theorem set_iff {u : σ} {x : PUnit} :
    Runs (set u : ExceptT ε (StateM σ) PUnit) s x t ↔ t = u := by
  constructor
  · intro h
    cases h
    rfl
  · rintro rfl
    rfl

@[simp]
theorem ofExcept_iff {e : Except ε α} :
    Runs (MonadExcept.ofExcept e : ExceptT ε (StateM σ) α) s a t ↔ e = .ok a ∧ t = s := by
  cases e with
  | error e =>
    constructor
    · intro h
      cases h
    · rintro ⟨h, _⟩
      cases h
  | ok x =>
    constructor
    · intro h
      cases h
      exact ⟨rfl, rfl⟩
    · rintro ⟨h, rfl⟩
      cases h
      rfl

@[simp]
theorem liftM_iff {e : Except ε α} :
    Runs (liftM e : ExceptT ε (StateM σ) α) s a t ↔ e = .ok a ∧ t = s := by
  constructor
  · intro h
    cases h
    exact ⟨rfl, rfl⟩
  · rintro ⟨rfl, rfl⟩
    rfl

theorem get_bind_iff {g : σ → ExceptT ε (StateM σ) β} :
    Runs (get >>= g) s b t ↔ Runs (g s) s b t := by
  rw [bind_iff]
  constructor
  · rintro ⟨u, s', hg, h⟩
    obtain ⟨rfl, rfl⟩ := get_iff.mp hg
    exact h
  · intro h
    exact ⟨s, s, get_iff.mpr ⟨rfl, rfl⟩, h⟩

theorem liftM_bind_iff {e : Except ε α} :
    Runs ((liftM e : ExceptT ε (StateM σ) α) >>= f) s b t ↔ ∃ a, e = .ok a ∧ Runs (f a) s b t := by
  rw [bind_iff]
  constructor
  · rintro ⟨a, s', he, h⟩
    obtain ⟨hok, rfl⟩ := liftM_iff.mp he
    exact ⟨a, hok, h⟩
  · rintro ⟨a, he, h⟩
    exact ⟨a, s, liftM_iff.mpr ⟨he, rfl⟩, h⟩

theorem ofExcept_bind_iff {e : Except ε α} :
    Runs (MonadExcept.ofExcept e >>= f) s b t ↔ ∃ a, e = .ok a ∧ Runs (f a) s b t := by
  rw [bind_iff]
  constructor
  · rintro ⟨a, s', he, h⟩
    obtain ⟨hok, rfl⟩ := ofExcept_iff.mp he
    exact ⟨a, hok, h⟩
  · rintro ⟨a, he, h⟩
    exact ⟨a, s, ofExcept_iff.mpr ⟨he, rfl⟩, h⟩

@[simp]
theorem adapt_iff {g : ε → δ} : Runs (ExceptT.adapt g m) s a t ↔ Runs m s a t := by
  have hrun : (ExceptT.adapt g m).run.run s =
      ((m.run.run s).1.mapError g, (m.run.run s).2) := rfl
  unfold Runs
  rw [hrun]
  cases m.run.run s with
  | mk result s' =>
    cases result with
    | error e =>
      constructor
      · intro h
        cases h
      · intro h
        cases h
    | ok x =>
      constructor
      · intro h
        cases h
        rfl
      · intro h
        cases h
        rfl

theorem run_tryCatch {handler : ε → ExceptT ε (StateM σ) α} :
    (tryCatch m handler).run.run s = match m.run.run s with
      | (.ok a, s') => (.ok a, s')
      | (.error e, s') => (handler e).run.run s' := by
  change (do
    match ← m.run with
    | .ok a => pure (.ok a)
    | .error e => (handler e).run : StateM σ (Except ε α)).run s = _
  rw [StateT.run_bind]
  cases m.run.run s with
  | mk result s' => cases result <;> rfl

theorem tryCatch {handler : ε → ExceptT ε (StateM σ) α} (h : Runs m s a t) :
    Runs (tryCatch m handler) s a t := by
  have hm : m.run.run s = (.ok a, t) := h
  unfold Runs
  rw [run_tryCatch, hm]

/-- A handler that always fails adds no way to succeed. -/
theorem of_tryCatch {handler : ε → ExceptT ε (StateM σ) α}
    (hh : ∀ e u, ¬Runs (handler e) u a t) (h : Runs (MonadExcept.tryCatch m handler) s a t) :
    Runs m s a t := by
  unfold Runs at h ⊢
  rw [show (MonadExcept.tryCatch m handler).run.run s = _ from run_tryCatch] at h
  cases hm : m.run.run s with
  | mk result s' =>
    rw [hm] at h
    cases result with
    | error e => exact absurd h (hh e s')
    | ok x => exact h

section MapM

variable {γ : Type} {g : γ → ExceptT ε (StateM σ) α} {x : γ} {xs : List γ} {ys : List α}

theorem mapM_nil_iff : Runs ([].mapM g) s ys t ↔ ys = [] ∧ t = s := by
  rw [List.mapM_nil, pure_iff]

/-- Running through a list begins with its first element. -/
theorem mapM_cons_iff : Runs ((x :: xs).mapM g) s ys t ↔
    ∃ y u rest, Runs (g x) s y u ∧ Runs (xs.mapM g) u rest t ∧ ys = y :: rest := by
  rw [List.mapM_cons]
  constructor
  · intro h
    obtain ⟨y, u, hx, h⟩ := bind_iff.mp h
    obtain ⟨rest, v, hxs, h⟩ := bind_iff.mp h
    obtain ⟨rfl, rfl⟩ := pure_iff.mp h
    exact ⟨y, u, rest, hx, hxs, rfl⟩
  · rintro ⟨y, u, rest, hx, hxs, rfl⟩
    exact bind_iff.mpr ⟨y, u, hx, bind_iff.mpr ⟨rest, t, hxs, pure_iff.mpr ⟨rfl, rfl⟩⟩⟩

/-- What comes out of running through a list comes from one of its elements. -/
theorem exists_of_mem_mapM (h : Runs (xs.mapM g) s ys t) {y : α} (hy : y ∈ ys) :
    ∃ x ∈ xs, ∃ u v, Runs (g x) u y v := by
  induction xs generalizing s ys t with
  | nil =>
    obtain ⟨rfl, _⟩ := mapM_nil_iff.mp h
    simp at hy
  | cons x xs ih =>
    obtain ⟨z, u, zs, hx, hxs, rfl⟩ := mapM_cons_iff.mp h
    rcases List.mem_cons.mp hy with rfl | hy
    · exact ⟨x, by simp, s, u, hx⟩
    · obtain ⟨w, hw, hr⟩ := ih hxs hy
      exact ⟨w, by simp [hw], hr⟩

end MapM

end Runs

end MethodTrace
