import Cord.Frame.Arith
import Cord.Frame.Dispatch

/-!
This module contains computations that are compiled with overflow checks: they do what the computation
without the checks does, or they stop with an error of their own at the first operation whose result
does not fit.
-/

namespace Frame

inductive CheckedError (ε : Type) where
  | overflow
  | unchecked (err : ε)
  deriving DecidableEq, Repr

abbrev CheckedM (σ ε : Type) := DispatchM σ (CheckedError ε)

section Lift

variable {σ ε α β : Type} {s s' : σ} {a : α}

def liftChecked (x : DispatchM σ ε α) : CheckedM σ ε α :=
  zoom id (fun t _ => t) .unchecked x

instance : MonadLift (DispatchM σ ε) (CheckedM σ ε) where
  monadLift := liftChecked

def addChecked (a b : UInt64) : CheckedM σ ε UInt64 :=
  okOr (checkedAdd a b) .overflow

def subChecked (a b : UInt64) : CheckedM σ ε UInt64 :=
  okOr (checkedSub a b) .overflow

def Overflows (x : CheckedM σ ε α) (s : σ) : Prop :=
  Fails x s (.module .overflow)

@[simp]
theorem Succeeds.liftChecked_iff {x : DispatchM σ ε α}
    : Succeeds (liftChecked x) s a s' ↔ Succeeds x s a s' := by
  simp [liftChecked]

@[simp]
theorem Succeeds.addChecked_iff {a b c : UInt64}
    : Succeeds (addChecked (ε := ε) a b) s c s' ↔ (a.toNat + b.toNat < 2 ^ 64 ∧ c = a + b) ∧ s' = s := by
  simp only [addChecked, Succeeds.okOr_iff, checkedAdd_eq_some]

@[simp]
theorem Succeeds.subChecked_iff {a b c : UInt64}
    : Succeeds (subChecked (ε := ε) a b) s c s' ↔ (b.toNat ≤ a.toNat ∧ c = a - b) ∧ s' = s := by
  simp only [subChecked, Succeeds.okOr_iff, checkedSub_eq_some]

namespace Overflows

@[simp]
theorem bind_iff {x : CheckedM σ ε α} {f : α → CheckedM σ ε β}
    : Overflows (x >>= f) s ↔ Overflows x s ∨ ∃ a t, Succeeds x s a t ∧ Overflows (f a) t :=
  Fails.bind_iff

@[simp]
theorem liftChecked_iff {x : DispatchM σ ε α} : Overflows (liftChecked x) s ↔ False := by
  unfold Overflows Fails liftChecked zoom StateT.run
  dsimp only [id]
  match x s with
  | .ok (b, t) => simp
  | .error .badOrigin => simp
  | .error (.module err) => simp

@[simp]
theorem addChecked_iff {a b : UInt64}
    : Overflows (σ := σ) (ε := ε) (addChecked a b) s ↔ 2 ^ 64 ≤ a.toNat + b.toNat := by
  simp only [Overflows, addChecked, Fails.okOr_iff, checkedAdd_eq_none, and_true]

@[simp]
theorem subChecked_iff {a b : UInt64}
    : Overflows (σ := σ) (ε := ε) (subChecked a b) s ↔ a.toNat < b.toNat := by
  simp only [Overflows, subChecked, Fails.okOr_iff, checkedSub_eq_none, and_true]

theorem ite_iff {cond : Prop} [Decidable cond] {x y : CheckedM σ ε α}
    : Overflows (if cond then x else y) s ↔ (cond ∧ Overflows x s) ∨ (¬ cond ∧ Overflows y s) :=
  Fails.ite_iff

section Bind

variable {g : UInt64 → CheckedM σ ε α} {v w : UInt64}

theorem addChecked_bind
    : Overflows (addChecked v w >>= g) s ↔
        (v.toNat + w.toNat < 2 ^ 64 → Overflows (g (v + w)) s) := by
  simp only [bind_iff, addChecked_iff, Succeeds.addChecked_iff, and_assoc, exists_and_left,
    exists_eq_left]
  rw [← Nat.not_lt]
  tauto

theorem subChecked_bind
    : Overflows (subChecked v w >>= g) s ↔ (w.toNat ≤ v.toNat → Overflows (g (v - w)) s) := by
  simp only [bind_iff, subChecked_iff, Succeeds.subChecked_iff, and_assoc, exists_and_left,
    exists_eq_left]
  rw [← Nat.not_le]
  tauto

theorem lift_bind {x : DispatchM σ ε β} {g : β → CheckedM σ ε α}
    : Overflows (liftChecked x >>= g) s ↔ ∃ b t, Succeeds x s b t ∧ Overflows (g b) t := by
  simp only [bind_iff, liftChecked_iff, Succeeds.liftChecked_iff, false_or]

theorem bind_lift {x : CheckedM σ ε β} {y : β → DispatchM σ ε α}
    : Overflows (x >>= fun b => liftChecked (y b)) s ↔ Overflows x s := by
  simp only [bind_iff, liftChecked_iff, and_false, exists_false, or_false]

end Bind

@[simp]
theorem pure_iff : Overflows (ε := ε) (pure a) s ↔ False :=
  Fails.pure_iff

end Overflows

end Lift

/--
`y` is `x` with overflow checks: where it does not overflow, it does the same.
-/
def Checks {σ ε α : Type} (x : DispatchM σ ε α) (y : CheckedM σ ε α) : Prop :=
  ∀ s, ¬ Overflows y s → ∀ a s', Succeeds y s a s' ↔ Succeeds x s a s'

namespace Checks

variable {σ ε α β : Type} {x : DispatchM σ ε α} {y : CheckedM σ ε α}

theorem lift (x : DispatchM σ ε α) : Checks x (liftChecked x) := by
  intro s _ a s'
  exact Succeeds.liftChecked_iff

theorem bind {f : α → DispatchM σ ε β} {g : α → CheckedM σ ε β} (h : Checks x y)
    (hf : ∀ a, Checks (f a) (g a)) : Checks (x >>= f) (y >>= g) := by
  intro s hover b s'
  rw [Overflows.bind_iff, not_or] at hover
  have hx := h s hover.1
  rw [Succeeds.bind_iff, Succeeds.bind_iff]
  constructor
  . rintro ⟨a, t, hy, hg⟩
    have hrest : ¬ Overflows (g a) t := fun hrest => hover.2 ⟨a, t, hy, hrest⟩
    exact ⟨a, t, (hx a t).mp hy, (hf a t hrest b s').mp hg⟩
  . rintro ⟨a, t, hs, hrest⟩
    have hy := (hx a t).mpr hs
    have hover' : ¬ Overflows (g a) t := fun hover' => hover.2 ⟨a, t, hy, hover'⟩
    exact ⟨a, t, hy, (hf a t hover' b s').mpr hrest⟩

theorem lift_bind {f : α → DispatchM σ ε β} {g : α → CheckedM σ ε β}
    (hf : ∀ a, Checks (f a) (g a)) : Checks (x >>= f) (liftChecked x >>= g) :=
  bind (lift x) hf

theorem ite {cond : Prop} [Decidable cond] {x' : DispatchM σ ε α} {y' : CheckedM σ ε α}
    (h : Checks x y) (h' : Checks x' y')
    : Checks (if cond then x else x') (if cond then y else y') := by
  split
  . exact h
  . exact h'

theorem okOr {opt : Option β} {v : β} {g : β → CheckedM σ ε α} (hopt : ∀ w ∈ opt, w = v)
    (h : Checks x (g v)) : Checks x (Frame.okOr opt .overflow >>= g) := by
  intro s hover a s'
  match opt with
  | none =>
    refine absurd ?_ hover
    rw [Overflows.bind_iff]
    left
    exact Fails.okOr_iff.mpr ⟨rfl, rfl⟩
  | some w =>
    rw [hopt w rfl] at hover ⊢
    exact h s hover a s'

theorem add {a b : UInt64} {g : UInt64 → CheckedM σ ε α} (h : Checks x (g (a + b)))
    : Checks x (addChecked a b >>= g) := by
  apply Checks.okOr _ h
  intro c hc
  exact (checkedAdd_eq_some.mp hc).2

theorem sub {a b : UInt64} {g : UInt64 → CheckedM σ ε α} (h : Checks x (g (a - b)))
    : Checks x (subChecked a b >>= g) := by
  apply Checks.okOr _ h
  intro c hc
  exact (checkedSub_eq_some.mp hc).2

end Checks
end Frame
