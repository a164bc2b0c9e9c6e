import Mathlib.Tactic.Common

/-!
This module contains the monad in which dispatchable calls are written: they read and write a state
and may fail, and a failed call has no state to return. `Succeeds` is the big step relation of that
monad. Its lemmas turn the success of a whole `do` block into the facts its statements establish,
proofs about a call then start from `Succeeds` and never unfold the monad itself.
-/

namespace Frame

theorem bind_eq_ok {ε α β : Type} {x : Except ε α} {f : α → Except ε β} {b : β}
    : (x >>= f) = .ok b ↔ ∃ a, x = .ok a ∧ f a = .ok b := by
  cases x with
  | error err => simp [Bind.bind, Except.bind]
  | ok a => simp [Bind.bind, Except.bind]

/--
The error a dispatchable can return: the origin was not allowed to make the call, or the module that
executed it gave up with one of its own errors.
-/
inductive DispatchError (ε : Type) where
  | badOrigin
  | module (err : ε)
  deriving DecidableEq, Repr

abbrev DispatchM (σ ε : Type) := StateT σ (Except (DispatchError ε))

def ensure {σ ε : Type} (cond : Prop) [Decidable cond] (err : ε) : DispatchM σ ε Unit :=
  -- `ensure!(cond, err)`
  if cond then pure () else throw (.module err)

def okOr {σ ε α : Type} (opt : Option α) (err : ε) : DispatchM σ ε α :=
  -- `opt.ok_or(err)?`
  match opt with
  | some a => pure a
  | none => throw (.module err)

def mapErr {σ ε δ α : Type} (f : δ → ε) (result : Except δ α) : DispatchM σ ε α :=
  -- `result.map_err(f)?`
  match result with
  | .ok a => pure a
  | .error err => throw (.module (f err))

def ensureOrigin {σ ε α : Type} (opt : Option α) : DispatchM σ ε α :=
  match opt with
  | some a => pure a
  | none => throw .badOrigin

def Succeeds {σ ε α : Type} (x : DispatchM σ ε α) (s : σ) (a : α) (s' : σ) : Prop :=
  -- `x` started in `s` returns `a` and leaves the state `s'`.
  x.run s = .ok (a, s')

namespace Succeeds

variable {σ ε α β : Type} {s s' : σ} {a : α} {b : β}

@[simp]
theorem pure_iff {v : α} : Succeeds (ε := ε) (pure v) s a s' ↔ a = v ∧ s' = s := by
  unfold Succeeds
  constructor
  . intro h
    injection h with h
    injection h with h1 h2
    exact ⟨h1.symm, h2.symm⟩
  . rintro ⟨rfl, rfl⟩
    rfl

@[simp]
theorem bind_iff {x : DispatchM σ ε α} {f : α → DispatchM σ ε β}
    : Succeeds (x >>= f) s b s' ↔ ∃ a t, Succeeds x s a t ∧ Succeeds (f a) t b s' := by
  unfold Succeeds
  rw [StateT.run_bind]
  constructor
  . intro h
    match hx : x.run s with
    | .error err =>
      rw [hx] at h
      cases h
    | .ok (a, t) =>
      rw [hx] at h
      exact ⟨a, t, rfl, h⟩
  . rintro ⟨a, t, hx, hf⟩
    rw [hx]
    exact hf

@[simp]
theorem throw_iff {err : DispatchError ε} : Succeeds (throw err) s a s' ↔ False := by
  constructor
  . intro h
    cases h
  . exact False.elim

@[simp]
theorem get_iff {t : σ} : Succeeds (ε := ε) get s t s' ↔ t = s ∧ s' = s := by
  exact pure_iff

@[simp]
theorem modify_iff {f : σ → σ} {u : PUnit}
    : Succeeds (ε := ε) (modify f) s u s' ↔ s' = f s := by
  unfold Succeeds
  constructor
  . intro h
    injection h with h
    injection h with h1 h2
    exact h2.symm
  . rintro rfl
    rfl

@[simp]
theorem ensure_iff {cond : Prop} [Decidable cond] {err : ε} {u : Unit}
    : Succeeds (ensure cond err) s u s' ↔ cond ∧ s' = s := by
  unfold ensure
  split
  . next h => simp [h]
  . next h => simp [h]

@[simp]
theorem okOr_iff {opt : Option α} {err : ε}
    : Succeeds (okOr opt err) s a s' ↔ opt = some a ∧ s' = s := by
  cases opt with
  | none => simp [okOr]
  | some v => simp [okOr, eq_comm]

@[simp]
theorem mapErr_iff {δ : Type} {f : δ → ε} {result : Except δ α}
    : Succeeds (mapErr f result) s a s' ↔ result = .ok a ∧ s' = s := by
  cases result with
  | error err => simp [mapErr]
  | ok v => simp [mapErr, eq_comm]

@[simp]
theorem ensureOrigin_iff {opt : Option α}
    : Succeeds (ε := ε) (ensureOrigin opt) s a s' ↔ opt = some a ∧ s' = s := by
  cases opt with
  | none => simp [ensureOrigin]
  | some v => simp [ensureOrigin, eq_comm]

theorem unique {x : DispatchM σ ε α} {a' : α} {t : σ} (h : Succeeds x s a s')
    (h' : Succeeds x s a' t) : a' = a ∧ t = s' := by
  unfold Succeeds at *
  rw [h] at h'
  injection h' with h'
  injection h' with h1 h2
  exact ⟨h1.symm, h2.symm⟩

theorem run_bind {x : DispatchM σ ε α} {f : α → DispatchM σ ε β} (h : Succeeds x s a s')
    : (x >>= f).run s = (f a).run s' := by
  unfold Succeeds at h
  rw [StateT.run_bind, h]
  rfl

theorem run_bind_congr {x y : DispatchM σ ε α} {f g : α → DispatchM σ ε β} (hx : x.run s = y.run s)
    (hf : ∀ a t, Succeeds y s a t → (f a).run t = (g a).run t)
    : (x >>= f).run s = (y >>= g).run s := by
  match hy : y.run s with
  | .error err =>
    rw [StateT.run_bind, StateT.run_bind, hx, hy]
    rfl
  | .ok (a, t) => rw [run_bind (hx.trans hy), run_bind hy, hf a t hy]

theorem ite_iff {cond : Prop} [Decidable cond] {x y : DispatchM σ ε α}
    : Succeeds (if cond then x else y) s a s'
        ↔
      (cond ∧ Succeeds x s a s') ∨ (¬ cond ∧ Succeeds y s a s') := by
  split
  . next h => simp [h]
  . next h => simp [h]

end Succeeds

def Fails {σ ε α : Type} (x : DispatchM σ ε α) (s : σ) (err : DispatchError ε) : Prop :=
  -- `x` started in `s` returns `err`.
  x.run s = .error err

namespace Fails

variable {σ ε α β : Type} {s : σ} {e : DispatchError ε}

@[simp]
theorem pure_iff {v : α} : Fails (pure v) s e ↔ False := by
  constructor
  . intro h
    cases h
  . exact False.elim

@[simp]
theorem bind_iff {x : DispatchM σ ε α} {f : α → DispatchM σ ε β}
    : Fails (x >>= f) s e ↔ Fails x s e ∨ ∃ a t, Succeeds x s a t ∧ Fails (f a) t e := by
  unfold Fails Succeeds
  rw [StateT.run_bind]
  match hx : x.run s with
  | .error err => simp [Bind.bind, Except.bind]
  | .ok (a, t) => simp [Bind.bind, Except.bind]

@[simp]
theorem get_iff : Fails get s e ↔ False :=
  pure_iff

@[simp]
theorem modify_iff {f : σ → σ} : Fails (modify f) s e ↔ False := by
  constructor
  . intro h
    cases h
  . exact False.elim

@[simp]
theorem throw_iff {err : DispatchError ε} : Fails (α := α) (throw err) s e ↔ e = err := by
  unfold Fails
  constructor
  . intro h
    injection h with h
    exact h.symm
  . rintro rfl
    rfl

@[simp]
theorem ensure_iff {cond : Prop} [Decidable cond] {err : ε}
    : Fails (ensure cond err) s e ↔ ¬ cond ∧ e = .module err := by
  unfold ensure
  split
  . next h => simp [h]
  . next h => simp [h]

@[simp]
theorem okOr_iff {opt : Option α} {err : ε}
    : Fails (okOr opt err) s e ↔ opt = none ∧ e = .module err := by
  cases opt with
  | none => simp [okOr]
  | some v => simp [okOr]

@[simp]
theorem mapErr_iff {δ : Type} {f : δ → ε} {result : Except δ α}
    : Fails (mapErr f result) s e ↔ ∃ err, result = .error err ∧ e = .module (f err) := by
  cases result with
  | error err => simp [mapErr]
  | ok v => simp [mapErr]

@[simp]
theorem ensureOrigin_iff {opt : Option α}
    : Fails (ensureOrigin opt) s e ↔ opt = none ∧ e = .badOrigin := by
  cases opt with
  | none => simp [ensureOrigin]
  | some v => simp [ensureOrigin]

theorem ite_iff {cond : Prop} [Decidable cond] {x y : DispatchM σ ε α}
    : Fails (if cond then x else y) s e ↔ (cond ∧ Fails x s e) ∨ (¬ cond ∧ Fails y s e) := by
  split
  . next h => simp [h]
  . next h => simp [h]

end Fails

def attempt {σ ε : Type} (x : DispatchM σ ε Unit) : DispatchM σ ε (Option (DispatchError ε)) :=
  -- Dispatch a call in a storage layer of its own: if it fails, its writes are dropped and the
  -- caller goes on.
  fun s =>
    match x.run s with
    | .ok ((), s') => .ok (none, s')
    | .error err => .ok (some err, s)

theorem Succeeds.attempt_cases {σ ε : Type} {x : DispatchM σ ε Unit} {s s' : σ}
    {result : Option (DispatchError ε)} (h : Succeeds (attempt x) s result s')
    : (result = none ∧ Succeeds x s () s') ∨
        ∃ err, result = some err ∧ x.run s = .error err ∧ s' = s := by
  unfold Succeeds attempt StateT.run at h
  dsimp only at h
  unfold Succeeds StateT.run
  match hx : x s with
  | .ok ((), t) =>
    rw [hx] at h
    injection h with h
    injection h with h1 h2
    left
    exact ⟨h1.symm, by rw [h2]⟩
  | .error err =>
    rw [hx] at h
    injection h with h
    injection h with h1 h2
    right
    exact ⟨err, h1.symm, rfl, h2.symm⟩

/--
Run a computation on a part of a larger state, `wrap` embeds its errors into those of the caller.
-/
def zoom {σ τ ε δ α : Type} (view : σ → τ) (update : τ → σ → σ) (wrap : δ → ε)
    (x : DispatchM τ δ α) : DispatchM σ ε α := fun s =>
  match x.run (view s) with
  | .ok (a, t) => .ok (a, update t s)
  | .error .badOrigin => .error .badOrigin
  | .error (.module err) => .error (.module (wrap err))

@[simp]
theorem Succeeds.zoom_iff {σ τ ε δ α : Type} {view : σ → τ} {update : τ → σ → σ} {wrap : δ → ε}
    {x : DispatchM τ δ α} {s s' : σ} {a : α}
    : Succeeds (zoom view update wrap x) s a s'
        ↔
      ∃ t, Succeeds x (view s) a t ∧ s' = update t s := by
  unfold Succeeds zoom StateT.run
  dsimp only
  match hx : x (view s) with
  | .ok (b, t) =>
    constructor
    . intro h
      injection h with h
      injection h with h1 h2
      exact ⟨t, by rw [h1], h2.symm⟩
    . rintro ⟨t', h, rfl⟩
      injection h with h
      injection h with h1 h2
      rw [h1, h2]
  | .error .badOrigin => simp
  | .error (.module err) => simp

end Frame
