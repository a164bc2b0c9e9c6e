import Cord.Frame.Dispatch
import Mathlib.Order.Defs.Unbundled

/-!
This module contains the computations all of whose successful runs stay within a preorder on the
states. Such a computation is put together from parts that do, so a frame condition only has to be
checked for the statements of a call that write.
-/

namespace Frame

def Respects {σ ε α : Type} (R : σ → σ → Prop) (x : DispatchM σ ε α) : Prop :=
  ∀ s a s', Succeeds x s a s' → R s s'

namespace Respects

variable {σ ε α β : Type} {R : σ → σ → Prop}

theorem modify {f : σ → σ} (h : ∀ s, R s (f s)) : Respects (ε := ε) R (modify f) := by
  intro s _ s' hs
  rw [Succeeds.modify_iff] at hs
  rw [hs]
  exact h s

variable [IsPreorder σ R]

theorem of_unchanged {x : DispatchM σ ε α} (h : ∀ s a s', Succeeds x s a s' → s' = s)
    : Respects R x := by
  intro s a s' hs
  rw [h s a s' hs]
  apply refl_of R

theorem pure {v : α} : Respects (ε := ε) R (pure v) := by
  apply of_unchanged
  intro s a s' hs
  exact (Succeeds.pure_iff.mp hs).2

theorem bind {x : DispatchM σ ε α} {f : α → DispatchM σ ε β} (hx : Respects R x)
    (hf : ∀ a, Respects R (f a)) : Respects R (x >>= f) := by
  intro s b s' h
  obtain ⟨a, t, hs, ht⟩ := Succeeds.bind_iff.mp h
  apply trans_of R
  . exact hx s a t hs
  . exact hf a t b s' ht

theorem get : Respects (ε := ε) R get := by
  apply of_unchanged
  intro s a s' hs
  exact (Succeeds.get_iff.mp hs).2

theorem ensure {cond : Prop} [Decidable cond] {err : ε} : Respects R (ensure cond err) := by
  apply of_unchanged
  intro s a s' hs
  exact (Succeeds.ensure_iff.mp hs).2

theorem okOr {opt : Option α} {err : ε} : Respects R (okOr opt err) := by
  apply of_unchanged
  intro s a s' hs
  exact (Succeeds.okOr_iff.mp hs).2

theorem ensureOrigin {opt : Option α} : Respects (ε := ε) R (ensureOrigin opt) := by
  apply of_unchanged
  intro s a s' hs
  exact (Succeeds.ensureOrigin_iff.mp hs).2

end Respects

end Frame
