import MethodTrace.Proofs.FileChanges

/-!
What computations leave behind, whether or not they succeed.
-/

namespace MethodTrace

variable {ε δ σ α β : Type}

/-- A computation that fails, with its error and the state that it leaves. -/
def Fails (computation : ExceptT ε (StateM σ) α) (before : σ) (error : ε) (after : σ) : Prop :=
  computation.run.run before = (.error error, after)

namespace Fails

variable {m : ExceptT ε (StateM σ) α} {f : α → ExceptT ε (StateM σ) β} {s t : σ} {e : ε} {a : α}

/-- A sequence fails in its first part or behind it. -/
theorem bind_iff :
    Fails (m >>= f) s e t ↔ Fails m s e t ∨ ∃ a u, Runs m s a u ∧ Fails (f a) u e t := by
  unfold Fails Runs
  rw [Runs.run_bind]
  cases m.run.run s with
  | mk result u =>
    cases result with
    | error error =>
      constructor
      · intro h
        cases h
        exact .inl rfl
      · rintro (h | ⟨a, u', h, _⟩)
        · cases h
          rfl
        · cases h
    | ok a =>
      constructor
      · exact fun h => .inr ⟨a, u, rfl, h⟩
      · rintro (h | ⟨a', u', h, hf⟩)
        · cases h
        · cases h
          exact hf

@[simp]
theorem pure_iff : Fails (pure a : ExceptT ε (StateM σ) α) s e t ↔ False := by
  constructor
  · intro h
    cases h
  · exact False.elim

@[simp]
theorem throw_iff {error : ε} :
    Fails (throw error : ExceptT ε (StateM σ) α) s e t ↔ e = error ∧ t = s := by
  constructor
  · intro h
    cases h
    exact ⟨rfl, rfl⟩
  · rintro ⟨rfl, rfl⟩
    rfl

@[simp]
theorem liftM_iff {x : Except ε α} :
    Fails (liftM x : ExceptT ε (StateM σ) α) s e t ↔ x = .error e ∧ t = s := by
  constructor
  · intro h
    cases h
    exact ⟨rfl, rfl⟩
  · rintro ⟨rfl, rfl⟩
    rfl

theorem liftM_bind_iff {x : Except ε α} :
    Fails (liftM x >>= f) s e t ↔ x = .error e ∧ t = s ∨ ∃ a, x = .ok a ∧ Fails (f a) s e t := by
  rw [bind_iff, liftM_iff]
  refine or_congr_right ⟨?_, ?_⟩
  · rintro ⟨a, u, hr, h⟩
    obtain ⟨hx, rfl⟩ := Runs.liftM_iff.mp hr
    exact ⟨a, hx, h⟩
  · rintro ⟨a, hx, h⟩
    exact ⟨a, s, Runs.liftM_iff.mpr ⟨hx, rfl⟩, h⟩

theorem get_bind_iff {g : σ → ExceptT ε (StateM σ) β} :
    Fails (get >>= g) s e t ↔ Fails (g s) s e t := by
  rw [bind_iff]
  constructor
  · rintro (h | ⟨u, s', hg, h⟩)
    · cases h
    · obtain ⟨rfl, rfl⟩ := Runs.get_iff.mp hg
      exact h
  · exact fun h => .inr ⟨s, s, Runs.get_iff.mpr ⟨rfl, rfl⟩, h⟩

@[simp]
theorem adapt_iff {g : ε → δ} {d : δ} :
    Fails (ExceptT.adapt g m) s d t ↔ ∃ e, Fails m s e t ∧ g e = d := by
  have hrun : (ExceptT.adapt g m).run.run s =
      ((m.run.run s).1.mapError g, (m.run.run s).2) := rfl
  unfold Fails
  rw [hrun]
  cases m.run.run s with
  | mk result u =>
    cases result with
    | error error =>
      constructor
      · intro h
        cases h
        exact ⟨error, rfl, rfl⟩
      · rintro ⟨e, h, rfl⟩
        cases h
        rfl
    | ok a =>
      constructor
      · intro h
        cases h
      · rintro ⟨e, h, _⟩
        cases h

/-- A computation with a handler fails where the handler does. -/
theorem of_tryCatch {handler : ε → ExceptT ε (StateM σ) α}
    (h : Fails (MonadExcept.tryCatch m handler) s e t) :
    ∃ d u, Fails m s d u ∧ Fails (handler d) u e t := by
  unfold Fails at h ⊢
  rw [show (MonadExcept.tryCatch m handler).run.run s = _ from Runs.run_tryCatch] at h
  cases hm : m.run.run s with
  | mk result u =>
    rw [hm] at h
    cases result with
    | error d => exact ⟨d, u, rfl, h⟩
    | ok a => cases h

end Fails

/-- A computation after which the state is in some relation to the one before, whether or not it
succeeds. -/
def Leaves (R : σ → σ → Prop) (computation : ExceptT ε (StateM σ) α) : Prop :=
  ∀ before, R before (computation.run.run before).2

namespace Leaves

variable {R S : σ → σ → Prop} {m : ExceptT ε (StateM σ) α} {f : α → ExceptT ε (StateM σ) β}
  {s t : σ} {e : ε} {a : α}

theorem of_runs (h : Leaves R m) (hr : Runs m s a t) : R s t := by
  have := h s
  rwa [show m.run.run s = _ from hr] at this

theorem of_fails (h : Leaves R m) (hf : Fails m s e t) : R s t := by
  have := h s
  rwa [show m.run.run s = _ from hf] at this

theorem mono (h : Leaves R m) (hs : ∀ s t, R s t → S s t) : Leaves S m :=
  fun s => hs _ _ (h s)

theorem adapt {g : ε → δ} (h : Leaves R m) : Leaves R (ExceptT.adapt g m) := h

section

variable [Std.Refl R]

theorem pure (a : α) : Leaves R (Pure.pure a : ExceptT ε (StateM σ) α) :=
  fun s => Std.Refl.refl s

theorem throw (e : ε) : Leaves R (MonadExcept.throw e : ExceptT ε (StateM σ) α) :=
  fun s => Std.Refl.refl s

theorem liftM (x : Except ε α) : Leaves R (MonadLiftT.monadLift x : ExceptT ε (StateM σ) α) :=
  fun s => Std.Refl.refl s

end

variable [IsTrans σ R]

theorem bind (h : Leaves R m) (hf : ∀ a, Leaves R (f a)) : Leaves R (m >>= f) := by
  intro s
  have first := h s
  rw [Runs.run_bind]
  cases hm : m.run.run s with
  | mk result u =>
    rw [hm] at first
    cases result with
    | error e => exact first
    | ok a => exact IsTrans.trans _ _ _ first (hf a u)

theorem tryCatch {handler : ε → ExceptT ε (StateM σ) α} (h : Leaves R m)
    (hh : ∀ e, Leaves R (handler e)) : Leaves R (MonadExcept.tryCatch m handler) := by
  intro s
  have first := h s
  rw [show (MonadExcept.tryCatch m handler).run.run s = _ from Runs.run_tryCatch]
  cases hm : m.run.run s with
  | mk result u =>
    rw [hm] at first
    cases result with
    | error e => exact IsTrans.trans _ _ _ first (hh e u)
    | ok a => exact first

variable [Std.Refl R]

theorem forM {xs : List α} {g : α → ExceptT ε (StateM σ) PUnit} (h : ∀ x ∈ xs, Leaves R (g x)) :
    Leaves R (xs.forM g) := by
  induction xs with
  | nil => exact .pure _
  | cons x xs ih => exact (h x (by simp)).bind fun _ => ih fun y hy => h y (by simp [hy])

theorem mapM {xs : List α} (h : ∀ x ∈ xs, Leaves R (f x)) : Leaves R (xs.mapM f) := by
  induction xs with
  | nil => exact .pure _
  | cons x xs ih =>
    rw [List.mapM_cons]
    exact (h x (by simp)).bind fun _ => (ih fun y hy => h y (by simp [hy])).bind fun _ => .pure _

theorem foldlM {xs : List α} {g : β → α → ExceptT ε (StateM σ) β}
    (h : ∀ b, ∀ x ∈ xs, Leaves R (g b x)) (b : β) : Leaves R (xs.foldlM g b) := by
  induction xs generalizing b with
  | nil => exact .pure _
  | cons x xs ih =>
    rw [List.foldlM_cons]
    exact (h b x (by simp)).bind fun next => ih (fun c y hy => h c y (by simp [hy])) next

end Leaves

namespace Action

variable {ε α : Type} {R : Workspace → Workspace → Prop} {error : ε}
  {operation : Workspace → Except FileFault Workspace}

theorem leaves_look [Std.Refl R] (question : Workspace → Except ε α) :
    Leaves R (look question) :=
  fun v => Std.Refl.refl v

theorem run_get_bind (next : Workspace → Action ε α) (v : Workspace) :
    (get >>= next).run.run v = (next v).run.run v := rfl

variable [Std.Refl R]

theorem leaves_change (h : ∀ v w, operation v = .ok w → R v w) :
    Leaves R (change error operation) := by
  intro v
  cases ho : operation v with
  | ok w =>
    have runs : Runs (change error operation) v () w := change_iff.mpr ho
    rw [show (change error operation).run.run v = _ from runs]
    exact h v w ho
  | error fault =>
    have same : (change error operation).run.run v = (.error error, v) := by
      unfold change
      rw [run_get_bind, ho]
      rfl
    rw [same]
    exact Std.Refl.refl v

theorem leaves_clear (h : ∀ v w, operation v = .ok w → R v w) :
    Leaves R (clear error operation) := by
  intro v
  cases ho : operation v with
  | ok w =>
    have runs : Runs (clear error operation) v () w := clear_iff.mpr (.inl ho)
    rw [show (clear error operation).run.run v = _ from runs]
    exact h v w ho
  | error fault =>
    have same : ((clear error operation).run.run v).2 = v := by
      unfold clear
      rw [run_get_bind, ho]
      cases fault <;> rfl
    rw [same]
    exact Std.Refl.refl v

theorem leaves_changeIfPossible (h : ∀ v w, operation v = .ok w → R v w) :
    Leaves R (changeIfPossible operation : Action ε Unit) := by
  intro v
  change R v ((operation v).toOption.getD v)
  cases ho : operation v with
  | ok w => exact h v w ho
  | error fault => exact Std.Refl.refl v

omit [Std.Refl R] in
theorem fails_change_iff {v w : Workspace} {e : ε} :
    Fails (change error operation) v e w ↔
      (∃ fault, operation v = .error fault) ∧ e = error ∧ w = v := by
  unfold change
  rw [Fails.get_bind_iff]
  split
  next h =>
    constructor
    · intro hf
      cases hf
    · rintro ⟨⟨fault, hf⟩, _⟩
      rw [h] at hf
      cases hf
  next fault h =>
    rw [Fails.throw_iff]
    exact ⟨fun hf => ⟨⟨fault, h⟩, hf⟩, fun hf => hf.2⟩

omit [Std.Refl R] in
theorem fails_look_iff {question : Workspace → Except ε α} {v w : Workspace} {e : ε} :
    Fails (look question) v e w ↔ question v = .error e ∧ w = v := by
  unfold look
  rw [Fails.get_bind_iff]
  exact Fails.liftM_iff

omit [Std.Refl R] in
theorem fails_look_bind_iff {β : Type} {question : Workspace → Except ε α} {next : α → Action ε β}
    {v w : Workspace} {e : ε} : Fails (look question >>= next) v e w ↔
      question v = .error e ∧ w = v ∨ ∃ a, question v = .ok a ∧ Fails (next a) v e w := by
  rw [Fails.bind_iff, fails_look_iff]
  refine or_congr_right ⟨?_, ?_⟩
  · rintro ⟨a, u, hr, h⟩
    obtain ⟨hq, rfl⟩ := look_iff.mp hr
    exact ⟨a, hq, h⟩
  · rintro ⟨a, hq, h⟩
    exact ⟨a, v, look_iff.mpr ⟨hq, rfl⟩, h⟩

end Action

end MethodTrace
