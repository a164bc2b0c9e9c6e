import Mathlib.Data.List.Perm.Basic
import Mathlib.Data.Multiset.AddSub
import Mathlib.Data.Finset.Card

/-!
This module contains vectors with a maximal length, and the two ways in which an element found by
`position` is taken out of a vector: `remove` shifts the elements after it, `swap_remove` moves the
last element into its place.
-/

namespace Frame

section Position

variable {α : Type} [DecidableEq α]

theorem eraseIdx_of_idxOf? {l : List α} {a : α} {i : Nat} (h : l.idxOf? a = some i)
    : l.eraseIdx i = l.erase a := by
  rw [List.erase_eq_eraseIdx, h]

theorem mem_of_idxOf? {l : List α} {a : α} {i : Nat} (h : l.idxOf? a = some i) : a ∈ l := by
  rw [← List.isSome_idxOf?, h]
  rfl

def swapRemove (l : List α) (i : Nat) : List α :=
  -- `vec.swap_remove(i)`
  match l.getLast? with
  | none => []
  | some last => (l.set i last).dropLast

omit [DecidableEq α] in
theorem length_swapRemove_le (l : List α) (i : Nat) : (swapRemove l i).length ≤ l.length := by
  unfold swapRemove
  split
  . exact Nat.zero_le _
  . rw [List.length_dropLast, List.length_set]
    exact Nat.sub_le _ _

omit [DecidableEq α] in
theorem swapRemove_perm {l : List α} {i : Nat} (h : i < l.length)
    : (swapRemove l i).Perm (l.eraseIdx i) := by
  cases List.eq_nil_or_concat l with
  | inl hnil =>
    rw [hnil] at h
    exact absurd h (Nat.not_lt_zero i)
  | inr hcons =>
    obtain ⟨init, last, rfl⟩ := hcons
    rw [List.concat_eq_append] at h ⊢
    rw [List.length_append, List.length_singleton] at h
    unfold swapRemove
    rw [List.getLast?_concat]
    dsimp only
    by_cases hi : i < init.length
    . rw [List.set_append_left _ _ hi, List.dropLast_concat, List.eraseIdx_append_of_lt_length hi]
      apply List.Perm.trans
      . apply List.set_perm_cons_eraseIdx hi
      . exact (List.perm_append_singleton last _).symm
    . have : i = init.length := by omega
      subst this
      rw [List.eraseIdx_append_of_length_le (Nat.le_refl _)]
      rw [List.set_append_right _ _ (Nat.le_refl _)]
      simp

theorem swapRemove_perm_erase {l : List α} {a : α} {i : Nat} (h : l.idxOf? a = some i)
    : (swapRemove l i).Perm (l.erase a) := by
  rw [← eraseIdx_of_idxOf? h]
  apply swapRemove_perm
  rw [List.idxOf?_eq_some_iff] at h
  obtain ⟨hlt, _⟩ := h
  exact hlt

end Position

structure BoundedVec (α : Type) (bound : Nat) where
  toList : List α
  length_le : toList.length ≤ bound
  deriving DecidableEq

namespace BoundedVec

variable {α : Type} {n : Nat}

def empty : BoundedVec α n := ⟨[], Nat.zero_le n⟩

def tryFrom (l : List α) : Option (BoundedVec α n) :=
  if h : l.length ≤ n then
    some ⟨l, h⟩
  else
    none

def tryPush (v : BoundedVec α n) (a : α) : Option (BoundedVec α n) :=
  if h : v.toList.length < n then
    some ⟨v.toList ++ [a], by rw [List.length_append]; exact h⟩
  else
    none

def remove (v : BoundedVec α n) (i : Nat) : BoundedVec α n :=
  ⟨v.toList.eraseIdx i, Nat.le_trans (List.length_eraseIdx_le _ _) v.length_le⟩

def tryInsert (v : BoundedVec α n) (i : Nat) (a : α) : Option (BoundedVec α n) :=
  -- Inserting past the end would panic, here it does nothing.
  tryFrom (v.toList.insertIdx i a)

def modify (v : BoundedVec α n) (i : Nat) (f : α → α) : BoundedVec α n :=
  ⟨v.toList.modify i f, by rw [List.length_modify]; exact v.length_le⟩

def set (v : BoundedVec α n) (i : Nat) (a : α) : BoundedVec α n :=
  ⟨v.toList.set i a, by rw [List.length_set]; exact v.length_le⟩

def retain (v : BoundedVec α n) (p : α → Bool) : BoundedVec α n :=
  ⟨v.toList.filter p, Nat.le_trans (List.length_filter_le _ _) v.length_le⟩

def swapRemove (v : BoundedVec α n) (i : Nat) : BoundedVec α n :=
  ⟨Frame.swapRemove v.toList i, Nat.le_trans (length_swapRemove_le _ _) v.length_le⟩

theorem toList_injective : Function.Injective (toList : BoundedVec α n → List α) := by
  rintro ⟨a, _⟩ ⟨b, _⟩ h
  congr 1

@[simp]
theorem toList_empty : (empty : BoundedVec α n).toList = [] := rfl

@[simp]
theorem toList_swapRemove (v : BoundedVec α n) (i : Nat)
    : (v.swapRemove i).toList = Frame.swapRemove v.toList i :=
  rfl

@[simp]
theorem toList_remove (v : BoundedVec α n) (i : Nat) : (v.remove i).toList = v.toList.eraseIdx i :=
  rfl

@[simp]
theorem toList_modify (v : BoundedVec α n) (i : Nat) (f : α → α)
    : (v.modify i f).toList = v.toList.modify i f :=
  rfl

@[simp]
theorem toList_set (v : BoundedVec α n) (i : Nat) (a : α) : (v.set i a).toList = v.toList.set i a :=
  rfl

@[simp]
theorem toList_retain (v : BoundedVec α n) (p : α → Bool)
    : (v.retain p).toList = v.toList.filter p :=
  rfl

theorem tryFrom_eq_some {l : List α} {v : BoundedVec α n} : tryFrom l = some v ↔ v.toList = l := by
  unfold tryFrom
  constructor
  . intro h
    split at h
    . injection h with h
      rw [← h]
    . cases h
  . rintro rfl
    rw [dif_pos v.length_le]

theorem tryPush_eq_some {v w : BoundedVec α n} {a : α} (h : v.tryPush a = some w)
    : w.toList = v.toList ++ [a] ∧ v.toList.length < n := by
  unfold tryPush at h
  split at h
  . next hlt =>
    injection h with h
    rw [← h]
    exact ⟨rfl, hlt⟩
  . cases h

theorem tryPush_of_toList {v w : BoundedVec α n} {a : α} (h : w.toList = v.toList ++ [a])
    : v.tryPush a = some w := by
  have hle := w.length_le
  rw [h, List.length_append, List.length_singleton] at hle
  unfold tryPush
  rw [dif_pos (Nat.lt_of_succ_le hle)]
  congr 1
  exact toList_injective h.symm

theorem tryPush_eq_none {v : BoundedVec α n} {a : α} (h : v.tryPush a = none)
    : n ≤ v.toList.length := by
  unfold tryPush at h
  split at h
  . cases h
  . omega

end BoundedVec

structure BoundedSet (α : Type) (bound : Nat) where
  toFinset : Finset α
  card_le : toFinset.card ≤ bound

namespace BoundedSet

variable {α : Type} [DecidableEq α] {n : Nat}

instance : Membership α (BoundedSet α n) where
  mem s a := a ∈ s.toFinset

instance (s : BoundedSet α n) (a : α) : Decidable (a ∈ s) :=
  inferInstanceAs (Decidable (a ∈ s.toFinset))

def empty : BoundedSet α n := ⟨∅, Nat.zero_le n⟩

def tryInsert (s : BoundedSet α n) (a : α) : Option (BoundedSet α n) :=
  if h : s.toFinset.card < n then
    some ⟨insert a s.toFinset, Nat.le_trans (Finset.card_insert_le _ _) h⟩
  else if a ∈ s.toFinset then
    some s
  else
    none

def remove (s : BoundedSet α n) (a : α) : BoundedSet α n :=
  ⟨s.toFinset.erase a, Nat.le_trans (Finset.card_erase_le) s.card_le⟩

omit [DecidableEq α] in
@[simp]
theorem notMem_empty (a : α) : a ∉ (empty : BoundedSet α n) :=
  Finset.notMem_empty a

theorem mem_tryInsert {s s' : BoundedSet α n} {a : α} (h : s.tryInsert a = some s') (b : α)
    : b ∈ s' ↔ b = a ∨ b ∈ s := by
  unfold tryInsert at h
  split at h
  . injection h with h
    rw [← h]
    exact Finset.mem_insert
  . split at h
    . next hmem =>
      injection h with h
      rw [← h]
      constructor
      . exact Or.inr
      . rintro (heq | hb)
        . rw [heq]
          exact hmem
        . exact hb
    . cases h

theorem mem_remove (s : BoundedSet α n) (a b : α) : b ∈ s.remove a ↔ b ≠ a ∧ b ∈ s :=
  Finset.mem_erase

end BoundedSet
end Frame
