import Mathlib.Tactic.Common

/-!
This module contains relations from one to many that are stored in both directions: the children of
each element in a list, and the parent of each child. Whatever is done to the children of one element
is an instance of `reassign`.
-/

namespace Frame

variable {α β : Type} {children children' : α → List β} {parent parent' : β → Option α} {a : α}

def Mirrored (children : α → List β) (parent : β → Option α) : Prop :=
  ∀ a b, b ∈ children a ↔ parent b = some a

namespace Mirrored

theorem reassign [DecidableEq β] (h : Mirrored children parent)
    (hothers : ∀ a', a' ≠ a → children' a' = children a')
    (hparent : ∀ b, parent' b =
      if b ∈ children' a then some a else if b ∈ children a then none else parent b)
    (hfree : ∀ b ∈ children' a, ∀ a', parent b = some a' → a' = a) : Mirrored children' parent' := by
  intro a' b
  rw [hparent]
  by_cases ha : a' = a
  . subst ha
    split
    . next hmem => simp [hmem]
    . next hmem =>
      split
      . next hold => simp [hmem]
      . next hold => simpa [hmem, h a' b] using hold
  . rw [hothers a' ha, h a' b]
    split
    . next hmem =>
      constructor
      . intro hb
        exact absurd (hfree b hmem a' hb) ha
      . intro hb
        exact absurd (Option.some.inj hb).symm ha
    . split
      . next hold =>
        -- A child that is dropped had `a` for its parent.
        rw [h a b] at hold
        simp [hold, Ne.symm ha]
      . rfl

end Mirrored
end Frame
