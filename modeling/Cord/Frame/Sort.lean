import Cord.Frame.Bounded
import Mathlib.Data.List.Lex
import Mathlib.Data.List.Sort
import Mathlib.Data.Multiset.Basic

/-!
This module contains sorted vectors, and the lexicographic order of byte strings. The keys of a map can
be visited in that order, and unlike the sort of Mathlib it evaluates.
-/

namespace Frame

def bytesLE (a b : List UInt8) : Prop :=
  a.map UInt8.toNat ≤ b.map UInt8.toNat

instance : DecidableRel bytesLE := fun _ _ => inferInstanceAs (Decidable (_ ≤ _))

instance : Std.Total bytesLE := ⟨fun a b => le_total (a.map UInt8.toNat) (b.map UInt8.toNat)⟩

instance : IsTrans (List UInt8) bytesLE := ⟨fun _ _ _ h1 h2 => le_trans (α := List Nat) h1 h2⟩

theorem bytesLE_antisymm {a b : List UInt8} (h1 : bytesLE a b) (h2 : bytesLE b a) : a = b := by
  have heq := le_antisymm (α := List Nat) h1 h2
  apply List.map_injective_iff.mpr _ heq
  intro x y
  exact UInt8.toNat.inj

section SortByBytes

variable {α : Type} (bytes : α → List UInt8)

def sortByBytes (hbytes : Function.Injective bytes) (keys : Multiset α) : List α :=
  Quotient.liftOn keys (List.insertionSort (fun a b => bytesLE (bytes a) (bytes b))) <| by
    intro a b h
    let r := fun a b => bytesLE (bytes a) (bytes b)
    have htotal : Std.Total r := ⟨fun a b => Std.Total.total (r := bytesLE) (bytes a) (bytes b)⟩
    have htrans : IsTrans α r := ⟨fun _ _ _ h1 h2 => IsTrans.trans (r := bytesLE) _ _ _ h1 h2⟩
    have hperm := (List.perm_insertionSort r a).trans (h.trans (List.perm_insertionSort r b).symm)
    apply hperm.eq_of_pairwise _ (List.pairwise_insertionSort r a) (List.pairwise_insertionSort r b)
    intro x y _ _ h1 h2
    exact hbytes (bytesLE_antisymm h1 h2)

theorem sortByBytes_eq (hbytes : Function.Injective bytes) (keys : Multiset α)
    : ↑(sortByBytes bytes hbytes keys) = keys := by
  induction keys using Quotient.inductionOn with
  | _ l => exact Quotient.sound (List.perm_insertionSort _ l)

end SortByBytes

section Sorted

variable {α : Type} [LinearOrder α] {n : Nat}

def BoundedVec.sort (v : BoundedVec α n) : BoundedVec α n :=
  ⟨v.toList.insertionSort (· ≤ ·), by rw [List.length_insertionSort]; exact v.length_le⟩

theorem BoundedVec.sort_perm (v : BoundedVec α n) : v.sort.toList.Perm v.toList :=
  List.perm_insertionSort _ _

theorem BoundedVec.sort_increasing {v : BoundedVec α n} (h : v.toList.Nodup)
    : v.sort.toList.Pairwise (· < ·) := by
  have hle : v.sort.toList.Pairwise (· ≤ ·) := List.pairwise_insertionSort (· ≤ ·) v.toList
  have hne := v.sort_perm.nodup_iff.mpr h
  exact hle.imp₂ (fun _ _ => lt_of_le_of_ne) hne

theorem set_perm_cons_erase {l : List α} {a b : α} {i : Nat} (h : l[i]? = some a)
    : (l.set i b).Perm (b :: l.erase a) := by
  obtain ⟨hi, ha⟩ := List.getElem?_eq_some_iff.mp h
  apply (List.set_perm_cons_eraseIdx hi b).trans
  apply List.Perm.cons
  have hperm := List.getElem_cons_eraseIdx_perm hi
  rw [ha] at hperm
  exact List.Perm.cons_inv (hperm.trans (List.perm_cons_erase (List.mem_of_getElem? h)))

end Sorted

end Frame
