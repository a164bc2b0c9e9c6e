import Cord.Frame.StorageMap
import Mathlib.Order.Defs.Unbundled

/-!
This module contains maps that are only ever added to, and maps that are addressed by content: every value
lies under the key that is computed from it.
-/

namespace Frame
namespace StorageMap

variable {κ ν : Type} [DecidableEq κ] {m m' : StorageMap κ ν} {k : κ} {v : ν}

def Extends (m m' : StorageMap κ ν) : Prop :=
  ∀ k v, m.get k = some v → m'.get k = some v

instance : IsPreorder (StorageMap κ ν) Extends where
  refl _ _ _ h := h
  trans _ _ _ h h' k v hget := h' k v (h k v hget)

theorem Extends.insert (m : StorageMap κ ν) (v : ν) (h : m.get k = none) : Extends m (m.insert k v) := by
  intro k' v' hget
  rw [get_insert_of_ne m v (ne_of_get h hget)]
  exact hget

/--
The content of a value, from which its address is computed, can be a part of the value only.
-/
def Addressed {γ : Type} (content : ν → γ) (address : γ → Option κ) (m : StorageMap κ ν) : Prop :=
  ∀ k v, m.get k = some v → address (content v) = some k

/--
No stored value has the address of `c` but another content.
-/
def CollisionFree {γ : Type} (content : ν → γ) (address : γ → Option κ) (m : StorageMap κ ν) (c : γ)
    : Prop :=
  ∀ k v, m.get k = some v → address (content v) = address c → content v = c

/-
An address is free exactly if nothing with its content is stored.
-/
theorem Addressed.get_eq_none_iff {γ : Type} {content : ν → γ} {address : γ → Option κ} {c : γ}
    (h : Addressed content address m) (hc : address c = some k)
    (hfree : CollisionFree content address m c)
    : m.get k = none ↔ ∀ k' v, m.get k' = some v → content v ≠ c := by
  constructor
  . rintro hnone k' v hget rfl
    obtain rfl : k' = k := Option.some.inj ((h k' v hget).symm.trans hc)
    rw [hnone] at hget
    cases hget
  . intro hnew
    by_contra hstored
    obtain ⟨v, hget⟩ := Option.ne_none_iff_exists'.mp hstored
    exact hnew k v hget (hfree k v hget ((h k v hget).trans hc.symm))

end StorageMap
end Frame
