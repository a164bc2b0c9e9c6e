import Mathlib.Algebra.Ring.Nat

/-!
This module contains the arithmetic of machine integers that Lean's own operators do not provide.
`+` and `-` of `UInt64` wrap around, as they do in code compiled without overflow checks.
-/

namespace Frame

def saturatingAdd (a b : UInt64) : UInt64 :=
  if a.toNat + b.toNat < 2 ^ 64 then a + b else 0xFFFFFFFFFFFFFFFF

def saturatingSub (a b : UInt64) : UInt64 :=
  if b ≤ a then a - b else 0

def checkedAdd (a b : UInt64) : Option UInt64 :=
  if a.toNat + b.toNat < 2 ^ 64 then some (a + b) else none

def checkedSub (a b : UInt64) : Option UInt64 :=
  if b ≤ a then some (a - b) else none

def saturatingAdd32 (a b : UInt32) : UInt32 :=
  if a.toNat + b.toNat < 2 ^ 32 then a + b else 0xFFFFFFFF

def saturatingSub32 (a b : UInt32) : UInt32 :=
  if b ≤ a then a - b else 0

theorem toNat_saturatingAdd (a b : UInt64)
    : (saturatingAdd a b).toNat = min (a.toNat + b.toNat) (2 ^ 64 - 1) := by
  unfold saturatingAdd
  split
  . rw [UInt64.toNat_add]
    omega
  . have : (0xFFFFFFFFFFFFFFFF : UInt64).toNat = 2 ^ 64 - 1 := rfl
    omega

theorem saturatingAdd_zero (a : UInt64) : saturatingAdd a 0 = a := by
  unfold saturatingAdd
  rw [if_pos]
  . exact UInt64.add_zero a
  . exact UInt64.toNat_lt a

theorem toNat_saturatingSub (a b : UInt64)
    : (saturatingSub a b).toNat = a.toNat - b.toNat := by
  unfold saturatingSub
  split
  . next h => rw [UInt64.toNat_sub_of_le a b h]
  . next h =>
    rw [UInt64.le_iff_toNat_le] at h
    have : (0 : UInt64).toNat = 0 := rfl
    omega

theorem checkedAdd_eq_some {a b c : UInt64}
    : checkedAdd a b = some c ↔ a.toNat + b.toNat < 2 ^ 64 ∧ c = a + b := by
  unfold checkedAdd
  rw [Option.ite_none_right_eq_some, Option.some.injEq, eq_comm (a := a + b)]

theorem checkedAdd_eq_none {a b : UInt64}
    : checkedAdd a b = none ↔ 2 ^ 64 ≤ a.toNat + b.toNat := by
  unfold checkedAdd
  split
  . next h => exact iff_of_false (by simp) (Nat.not_le.mpr h)
  . next h => exact iff_of_true rfl (Nat.not_lt.mp h)

theorem checkedSub_eq_some {a b c : UInt64}
    : checkedSub a b = some c ↔ b.toNat ≤ a.toNat ∧ c = a - b := by
  unfold checkedSub
  rw [Option.ite_none_right_eq_some, Option.some.injEq, eq_comm (a := a - b),
    UInt64.le_iff_toNat_le]

theorem checkedSub_eq_none {a b : UInt64} : checkedSub a b = none ↔ a.toNat < b.toNat := by
  unfold checkedSub
  split
  . next h =>
    rw [UInt64.le_iff_toNat_le] at h
    exact iff_of_false (by simp) (Nat.not_lt.mpr h)
  . next h =>
    rw [UInt64.le_iff_toNat_le] at h
    exact iff_of_true rfl (Nat.not_le.mp h)

theorem toNat_saturatingAdd32 (a b : UInt32)
    : (saturatingAdd32 a b).toNat = min (a.toNat + b.toNat) (2 ^ 32 - 1) := by
  unfold saturatingAdd32
  split
  . rw [UInt32.toNat_add]
    omega
  . have : (0xFFFFFFFF : UInt32).toNat = 2 ^ 32 - 1 := rfl
    omega

theorem toNat_saturatingSub32 (a b : UInt32)
    : (saturatingSub32 a b).toNat = a.toNat - b.toNat := by
  unfold saturatingSub32
  split
  . next h => rw [UInt32.toNat_sub_of_le a b h]
  . next h =>
    rw [UInt32.le_iff_toNat_le] at h
    have : (0 : UInt32).toNat = 0 := rfl
    omega

theorem toNat_add_of_lt {a b : UInt64} (h : a.toNat + b.toNat < 2 ^ 64)
    : (a + b).toNat = a.toNat + b.toNat := by
  rw [UInt64.toNat_add]
  exact Nat.mod_eq_of_lt h

theorem toNat_add_of_lt32 {a b : UInt32} (h : a.toNat + b.toNat < 2 ^ 32)
    : (a + b).toNat = a.toNat + b.toNat := by
  rw [UInt32.toNat_add]
  exact Nat.mod_eq_of_lt h

theorem toNat_sub_of_le {a b : UInt64} (h : b.toNat ≤ a.toNat)
    : (a - b).toNat = a.toNat - b.toNat :=
  UInt64.toNat_sub_of_le a b (UInt64.le_iff_toNat_le.mpr h)

theorem toNat_sub_add {a b c : UInt64} (hle : b.toNat ≤ a.toNat)
    (hlt : a.toNat + c.toNat < 2 ^ 64 + b.toNat)
    : (a - b + c).toNat = a.toNat - b.toNat + c.toNat := by
  rw [UInt64.toNat_add, toNat_sub_of_le hle]
  apply Nat.mod_eq_of_lt
  omega

theorem toNat_toUInt16_toUInt64 {n : Nat} {m : UInt16} (h : n ≤ m.toNat)
    : n.toUInt16.toUInt64.toNat = n := by
  have hlt := UInt16.toNat_lt m
  simp only [Nat.toUInt16_eq, UInt16.toNat_toUInt64, UInt16.toNat_ofNat']
  apply Nat.mod_eq_of_lt
  omega

theorem toNat_toUInt32_of_le {n : Nat} {m : UInt32} (h : n ≤ m.toNat)
    : n.toUInt32.toNat = n := by
  have hlt := UInt32.toNat_lt m
  rw [Nat.toUInt32_eq, UInt32.toNat_ofNat']
  apply Nat.mod_eq_of_lt
  omega

theorem toNat_succ_of_lt {x : UInt32} (h : x.toNat + 1 < 2 ^ 32) : (x + 1).toNat = x.toNat + 1 := by
  rw [UInt32.toNat_add]
  exact Nat.mod_eq_of_lt h

end Frame
