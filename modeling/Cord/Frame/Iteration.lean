import Cord.Frame.Dispatch
import Cord.Frame.StorageMap

/-!
This module contains the iteration of storage maps, and loops that give up with the first error. The order
in which a map is iterated is the one of its hashed keys, of which nothing is known.
-/

namespace Frame

theorem bind_unit_eq_ok {ε β : Type} {x : Except ε Unit} {y : Except ε β} {b : β}
    : (do x; y) = .ok b ↔ x = .ok () ∧ y = .ok b := by
  rw [bind_eq_ok]
  constructor
  . rintro ⟨⟨⟩, hx, hy⟩
    exact ⟨hx, hy⟩
  . rintro ⟨hx, hy⟩
    exact ⟨(), hx, hy⟩

theorem ite_throw_eq_ok {ε α β : Type} {cond : Prop} [Decidable cond] {x : Except ε β} {err : ε}
    {f : α → Except ε β} {b : β}
    : (if cond then x else throw err >>= f) = .ok b ↔ cond ∧ x = .ok b := by
  split
  . next h => exact (and_iff_right h).symm
  . next h =>
    refine iff_of_false ?_ fun hand => h hand.1
    intro hok
    cases hok

theorem pure_eq_ok {ε α : Type} {a b : α} : (pure a : Except ε α) = .ok b ↔ b = a := by
  constructor
  . intro h
    exact (Except.ok.inj h).symm
  . rintro rfl
    rfl

theorem forIn_eq_ok_iff {ε α : Type} {l : List α} {body : α → Unit → Except ε (ForInStep Unit)}
    {p : α → Prop} (hbody : ∀ a step, body a () = .ok step ↔ p a ∧ step = .yield ())
    : forIn l () body = .ok () ↔ ∀ a ∈ l, p a := by
  induction l with
  | nil =>
    rw [List.forIn_nil]
    exact iff_of_true rfl fun _ h => absurd h List.not_mem_nil
  | cons a l ih =>
    rw [List.forIn_cons, bind_eq_ok, List.forall_mem_cons]
    constructor
    . rintro ⟨step, hstep, h⟩
      obtain ⟨hp, rfl⟩ := (hbody a step).mp hstep
      exact ⟨hp, ih.mp h⟩
    . rintro ⟨hp, h⟩
      exact ⟨_, (hbody a _).mpr ⟨hp, rfl⟩, ih.mpr h⟩

namespace StorageMap

variable {κ ν : Type}

def keys (m : StorageMap κ ν) : Multiset κ :=
  m.toFinmap.entries.keys

variable [DecidableEq κ]

theorem mem_keys {m : StorageMap κ ν} {k : κ} : k ∈ m.keys ↔ m.containsKey k = true := by
  unfold containsKey get keys
  rw [Finmap.lookup_isSome]
  rfl

def iter (order : Multiset κ → List κ) (m : StorageMap κ ν) : List (κ × ν) :=
  (order m.keys).filterMap fun k => (m.get k).map fun v => (k, v)

def iterPrefix {κ' : Type} [DecidableEq κ'] (order : Multiset κ' → List κ')
    (m : StorageMap (κ × κ') ν) (k : κ) : List (κ' × ν) :=
  (order (m.prefixKeys k)).filterMap fun k' => (m.get (k, k')).map fun v => (k', v)

theorem mem_iter {order : Multiset κ → List κ} (horder : ∀ keys, Multiset.ofList (order keys) = keys)
    {m : StorageMap κ ν} {k : κ} {v : ν} : (k, v) ∈ m.iter order ↔ m.get k = some v := by
  unfold iter
  simp only [List.mem_filterMap, Option.map_eq_some_iff, Prod.mk.injEq]
  constructor
  . rintro ⟨_, _, _, hget, rfl, rfl⟩
    exact hget
  . intro hget
    refine ⟨k, ?_, v, hget, rfl, rfl⟩
    rw [← Multiset.mem_coe, horder, mem_keys]
    exact containsKey_of_get hget

theorem length_iterPrefix {κ' : Type} [DecidableEq κ'] {order : Multiset κ' → List κ'}
    (horder : ∀ keys, Multiset.ofList (order keys) = keys) (m : StorageMap (κ × κ') ν) (k : κ)
    : (m.iterPrefix order k).length = (m.prefixKeys k).card := by
  unfold iterPrefix
  rw [List.filterMap_length_eq_length.mpr]
  . conv =>
      rhs
      rw [← horder (m.prefixKeys k)]
    rfl
  . intro k' hk'
    rw [← Multiset.mem_coe, horder, mem_prefixKeys] at hk'
    rw [Option.isSome_map]
    exact hk'

end StorageMap
end Frame
