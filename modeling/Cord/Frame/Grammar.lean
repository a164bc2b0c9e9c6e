import Mathlib.Computability.Language

/-!
This module contains languages of words that are read from left to right, one symbol at a time.
-/

open scoped Computability

namespace Frame

variable {α : Type} {P Q : α → Prop} {l : Language α} {a : α} {word : List α}

/- The words of one symbol of a class. -/
def symbol (P : α → Prop) : Language α := fun word => ∃ a, P a ∧ word = [a]

theorem cons_mem_symbol_mul : a :: word ∈ symbol P * l ↔ P a ∧ word ∈ l := by
  rw [Language.mem_mul]
  constructor
  . rintro ⟨_, ⟨b, hb, rfl⟩, rest, hrest, heq⟩
    obtain ⟨rfl, rfl⟩ := List.cons.inj heq
    exact ⟨hb, hrest⟩
  . rintro ⟨ha, hword⟩
    exact ⟨[a], ⟨a, ha, rfl⟩, word, hword, rfl⟩

theorem nil_notMem_symbol_mul : [] ∉ symbol P * l := by
  rw [Language.mem_mul]
  rintro ⟨_, ⟨b, _, rfl⟩, rest, _, heq⟩
  cases heq

/- Groups of symbols with one separator between two of them, only the first group may be empty. -/
def groups (P Q : α → Prop) : Language α :=
  (symbol P)∗ * (symbol Q * (symbol P * (symbol P)∗))∗

theorem groups_eq
    : groups P Q = 1 + symbol Q * (symbol P * groups P Q) + symbol P * groups P Q := by
  have hmore : (symbol Q * (symbol P * (symbol P)∗))∗ =
      1 + symbol Q * (symbol P * groups P Q) := by
    conv => lhs; rw [← Language.one_add_self_mul_kstar_eq_kstar]
    unfold groups
    rw [mul_assoc, mul_assoc]
  calc groups P Q
    _ = (1 + symbol P * (symbol P)∗) * (symbol Q * (symbol P * (symbol P)∗))∗ := by
      rw [Language.one_add_self_mul_kstar_eq_kstar]
      rfl
    _ = (symbol Q * (symbol P * (symbol P)∗))∗ + symbol P * groups P Q := by
      rw [add_mul, one_mul, mul_assoc]
      rfl
    _ = _ := by rw [hmore]

theorem nil_mem_groups : [] ∈ groups P Q := by
  rw [groups_eq, Language.mem_add, Language.mem_add]
  exact Or.inl (Or.inl Language.nil_mem_one)

theorem cons_mem_groups
    : a :: word ∈ groups P Q ↔ Q a ∧ word ∈ symbol P * groups P Q ∨ P a ∧ word ∈ groups P Q := by
  rw [groups_eq, Language.mem_add, Language.mem_add, Language.mem_one]
  rw [cons_mem_symbol_mul, cons_mem_symbol_mul, ← groups_eq]
  rw [or_iff_right (List.cons_ne_nil a word)]

end Frame
