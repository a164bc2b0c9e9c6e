import Mathlib.Data.List.DropRight
import Cord.Frame.Bounded

/-!
This module contains histories that are kept at a bound: what is pushed to a full history displaces its
second element. Such a history consists of its first element and a window on the rest.
-/

namespace Frame

theorem rtake_of_length_le {α : Type} {l : List α} {n : Nat} (h : l.length ≤ n) : l.rtake n = l := by
  rw [List.rtake, Nat.sub_eq_zero_of_le h, List.drop_zero]

theorem rtake_min {α : Type} (l : List α) (n : Nat) : l.rtake (min l.length n) = l.rtake n := by
  unfold List.rtake
  congr 1
  omega

theorem tail_rtake {α : Type} {l : List α} {n : Nat} (h : n < l.length)
    : (l.rtake (n + 1)).tail = l.rtake n := by
  rw [List.rtake, List.tail_drop, List.rtake]
  congr 1
  omega

namespace Retention

variable {α : Type} {bound : Nat} {first : α}

def push (bound : Nat) (l : List α) (a : α) : List α :=
  if l.length = bound then l.eraseIdx 1 ++ [a] else l ++ [a]

theorem length_push_le (hbound : 2 ≤ bound) {l : List α} (h : l.length ≤ bound) (a : α)
    : (push bound l a).length ≤ bound := by
  unfold push
  split
  . next hfull =>
    rw [List.length_append, List.length_eraseIdx_of_lt (by omega), List.length_singleton]
    omega
  . next hfull =>
    rw [List.length_append, List.length_singleton]
    omega

theorem push_rtake (hbound : 2 ≤ bound) (l : List α) (a : α)
    : push bound (first :: l.rtake (bound - 1)) a = first :: (l ++ [a]).rtake (bound - 1) := by
  obtain ⟨n, rfl⟩ := Nat.exists_eq_add_of_le' hbound
  rw [Nat.add_sub_assoc (by decide), List.rtake_concat_succ]
  unfold push
  by_cases h : n < l.length
  . -- The window is full, it moves on by one element.
    have hlength : (l.rtake (n + 1)).length = n + 1 := by
      rw [List.rtake, List.length_drop]
      omega
    rw [List.length_cons, hlength, if_pos rfl, List.eraseIdx_cons_succ, List.eraseIdx_zero,
      tail_rtake h, List.cons_append]
  . rw [Nat.not_lt] at h
    rw [rtake_of_length_le (Nat.le_succ_of_le h), rtake_of_length_le h, List.length_cons,
      if_neg (by omega), List.cons_append]

/--
A history that started with `first` is left with `first` and the last elements that were pushed.
-/
theorem foldl_push (hbound : 2 ≤ bound) (l : List α)
    : l.foldl (push bound) [first] = first :: l.rtake (bound - 1) := by
  induction l using List.reverseRecOn with
  | nil => rw [List.foldl_nil, List.rtake_nil]
  | append_singleton l a ih =>
    rw [List.foldl_append, ih, List.foldl_cons, List.foldl_nil, push_rtake hbound]

end Retention

end Frame
