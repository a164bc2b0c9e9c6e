import Cord.Frame.Respects

/-!
This module contains the computations that apply a given function to a view of the state whenever they
succeed. What such a computation does before and after is only required to leave the view alone.
-/

namespace Frame

variable {σ τ : Type}

def SameView (view : σ → τ) (s s' : σ) : Prop :=
  view s' = view s

instance (view : σ → τ) : IsPreorder σ (SameView view) where
  refl _ := rfl
  trans _ _ _ h h' := h'.trans h

def Acts {ε α : Type} (view : σ → τ) (g : τ → τ) (x : DispatchM σ ε α) : Prop :=
  ∀ s a s', Succeeds x s a s' → view s' = g (view s)

namespace Acts

variable {ε α β : Type} {view : σ → τ} {g : τ → τ}

theorem modify {f : σ → σ} (h : ∀ s, view (f s) = g (view s)) : Acts (ε := ε) view g (modify f) := by
  intro s _ s' hs
  rw [Succeeds.modify_iff] at hs
  rw [hs]
  exact h s

theorem bind_of {x : DispatchM σ ε α} {f : α → DispatchM σ ε β} (hx : Respects (SameView view) x)
    (hf : ∀ s a s', Succeeds x s a s' → Acts view g (f a)) : Acts view g (x >>= f) := by
  -- The rest of the computation only has to be checked for what `x` can return.
  intro s b s' h
  obtain ⟨a, t, hs, ht⟩ := Succeeds.bind_iff.mp h
  have hview : view t = view s := hx s a t hs
  rw [hf s a t hs t b s' ht, hview]

theorem bind {x : DispatchM σ ε α} {f : α → DispatchM σ ε β} (hx : Respects (SameView view) x)
    (hf : ∀ a, Acts view g (f a)) : Acts view g (x >>= f) :=
  bind_of hx fun _ a _ _ => hf a

theorem bind_right {x : DispatchM σ ε α} {f : α → DispatchM σ ε β} (hx : Acts view g x)
    (hf : ∀ a, Respects (SameView view) (f a)) : Acts view g (x >>= f) := by
  intro s b s' h
  obtain ⟨a, t, hs, ht⟩ := Succeeds.bind_iff.mp h
  have hview : view s' = view t := hf a t b s' ht
  rw [hview, hx s a t hs]

theorem ite {cond : Prop} [Decidable cond] {x y : DispatchM σ ε α} (hx : cond → Acts view g x)
    (hy : ¬ cond → Acts view g y) : Acts view g (if cond then x else y) := by
  split
  . next h => exact hx h
  . next h => exact hy h

end Acts

end Frame
