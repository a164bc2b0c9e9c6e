import Cord.Frame.Dispatch

/-!
This module contains the computations that do not fail with any of some errors, in whatever state they are
started. Only the statements that could return such an error have to be looked at.
-/

namespace Frame

def Avoids {σ ε α : Type} (errs : DispatchError ε → Prop) (x : DispatchM σ ε α) : Prop :=
  ∀ s e, Fails x s e → ¬ errs e

namespace Avoids

variable {σ ε α β : Type} {errs : DispatchError ε → Prop}

theorem of_not_fails {x : DispatchM σ ε α} (h : ∀ s e, ¬ Fails x s e) : Avoids errs x := by
  intro s e hfails
  exact absurd hfails (h s e)

theorem pure {v : α} : Avoids (σ := σ) errs (pure v) := by
  apply of_not_fails
  intro s e
  rw [Fails.pure_iff]
  exact id

theorem get : Avoids (σ := σ) errs get := by
  apply of_not_fails
  intro s e
  rw [Fails.get_iff]
  exact id

theorem modify {f : σ → σ} : Avoids errs (modify f) := by
  apply of_not_fails
  intro s e
  rw [Fails.modify_iff]
  exact id

theorem bind {x : DispatchM σ ε α} {f : α → DispatchM σ ε β} (hx : Avoids errs x)
    (hf : ∀ a, Avoids errs (f a)) : Avoids errs (x >>= f) := by
  intro s e h
  rw [Fails.bind_iff] at h
  rcases h with h | ⟨a, t, _, h⟩
  . exact hx s e h
  . exact hf a t e h

theorem ensure {cond : Prop} [Decidable cond] {err : ε} (h : ¬ cond → ¬ errs (.module err))
    : Avoids (σ := σ) errs (ensure cond err) := by
  intro s e hfails
  obtain ⟨hcond, rfl⟩ := Fails.ensure_iff.mp hfails
  exact h hcond

theorem okOr {opt : Option α} {err : ε} (h : opt = none → ¬ errs (.module err))
    : Avoids (σ := σ) errs (okOr opt err) := by
  intro s e hfails
  obtain ⟨hnone, rfl⟩ := Fails.okOr_iff.mp hfails
  exact h hnone

theorem ensureOrigin {opt : Option α} (h : ¬ errs .badOrigin)
    : Avoids (σ := σ) errs (ensureOrigin opt) := by
  intro s e hfails
  obtain ⟨_, rfl⟩ := Fails.ensureOrigin_iff.mp hfails
  exact h

theorem ite {cond : Prop} [Decidable cond] {x y : DispatchM σ ε α} (hx : Avoids errs x)
    (hy : Avoids errs y) : Avoids errs (if cond then x else y) := by
  split
  . exact hx
  . exact hy

end Avoids

end Frame
