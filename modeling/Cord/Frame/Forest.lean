import Mathlib.Tactic.Common

/-!
This module contains forests that are given by parent pointers. Every node has a parent, and a root is
its own parent.
-/

namespace Frame

variable {α : Type} {parent parent' : α → Option α} {a p : α}

def ancestor (parent : α → Option α) : Nat → α → Option α
  | 0, a => some a
  | n + 1, a => parent a >>= ancestor parent n

/--
The parents of a node lead to a root.
-/
inductive Rooted (parent : α → Option α) : α → Prop where
  | root {a : α} (h : parent a = some a) : Rooted parent a
  | child {a p : α} (h : parent a = some p) (hp : Rooted parent p) : Rooted parent a

def Forest (parent : α → Option α) : Prop :=
  ∀ a p, parent a = some p → Rooted parent a

structure Grows (parent parent' : α → Option α) : Prop where
  kept : ∀ a p, parent a = some p → parent' a = some p
  added : ∀ a p, parent' a = some p → parent a = none → p = a ∨ ∃ q, parent p = some q

theorem Grows.of_eq (heq : parent' = parent) : Grows parent parent' := by
  subst heq
  constructor
  . intro a p h
    exact h
  . intro a p h hnone
    rw [hnone] at h
    cases h

theorem Rooted.exists_root (h : Rooted parent a)
    : ∃ n top, ancestor parent n a = some top ∧ parent top = some top := by
  induction h with
  | root h => exact ⟨0, _, rfl, h⟩
  | child h _ ih =>
    obtain ⟨n, top, htop, hroot⟩ := ih
    refine ⟨n + 1, top, ?_, hroot⟩
    rw [ancestor, h]
    exact htop

theorem Rooted.mono (hkept : ∀ a p, parent a = some p → parent' a = some p)
    (h : Rooted parent a) : Rooted parent' a := by
  induction h with
  | root h => exact .root (hkept _ _ h)
  | child h _ ih => exact .child (hkept _ _ h) ih

theorem Forest.parent_stored (hf : Forest parent) (h : parent a = some p)
    : ∃ q, parent p = some q := by
  cases hf a p h with
  | root hroot =>
    rw [h] at hroot
    injection hroot with hroot
    exact ⟨p, by rw [hroot, h, hroot]⟩
  | child hchild hp =>
    rw [h] at hchild
    injection hchild with hchild
    subst hchild
    cases hp with
    | root hp => exact ⟨_, hp⟩
    | child hp _ => exact ⟨_, hp⟩

theorem Forest.grows (hf : Forest parent) (h : Grows parent parent') : Forest parent' := by
  intro a p ha
  match hold : parent a with
  | some q => exact (hf a q hold).mono h.kept
  | none =>
    rcases h.added a p ha hold with rfl | ⟨q, hq⟩
    . exact .root ha
    . exact .child ha ((hf p q hq).mono h.kept)

end Frame
