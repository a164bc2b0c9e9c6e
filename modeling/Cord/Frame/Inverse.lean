import Cord.Frame.StorageMap

/-!
This module contains pairs of storage maps that are inverse to each other. The values of the second map
may hold more than the key of the first one, `f` is how the key is read off.
-/

namespace Frame
namespace StorageMap

variable {α β γ : Type} [DecidableEq α] [DecidableEq β] {f : γ → α} {m : StorageMap α β}
  {m' : StorageMap β γ}

def Inverse (f : γ → α) (m : StorageMap α β) (m' : StorageMap β γ) : Prop :=
  ∀ a b, m.get a = some b ↔ ∃ c, m'.get b = some c ∧ f c = a

namespace Inverse

theorem empty : Inverse f (∅ : StorageMap α β) ∅ := by
  intro a b
  simp

theorem get_left (h : Inverse f m m') {b : β} {c : γ} (hc : m'.get b = some c)
    : m.get (f c) = some b :=
  (h (f c) b).mpr ⟨c, hc, rfl⟩

theorem insert (h : Inverse f m m') {b : β} (c : γ) (ha : m.get (f c) = none)
    (hb : m'.get b = none) : Inverse f (m.insert (f c) b) (m'.insert b c) := by
  intro a' b'
  rw [get_insert, get_insert]
  by_cases ha' : a' = f c
  . -- Neither the key nor the value had an entry, so their only partners are the new ones.
    rw [if_pos ha']
    by_cases hb' : b' = b
    . simp [hb', ha']
    . rw [if_neg hb', ← h, ha', ha]
      simp [Ne.symm hb']
  . rw [if_neg ha', h]
    by_cases hb' : b' = b
    . simp [hb', hb, Ne.symm ha']
    . rw [if_neg hb']

theorem remove (h : Inverse f m m') {b : β} {c : γ} (hc : m'.get b = some c)
    : Inverse f (m.remove (f c)) (m'.remove b) := by
  intro a' b'
  rw [get_remove, get_remove]
  by_cases hb' : b' = b
  . rw [if_pos hb', hb']
    by_cases ha' : a' = f c
    . simp [ha']
    . rw [if_neg ha', h, hc]
      simp [Ne.symm ha']
  . rw [if_neg hb', ← h]
    by_cases ha' : a' = f c
    . rw [if_pos ha', ha', h.get_left hc]
      simp [Ne.symm hb']
    . rw [if_neg ha']

end Inverse
end StorageMap
end Frame
