import Mathlib.Data.Finmap
import Mathlib.Algebra.BigOperators.Group.Multiset.Basic

/-!
This module contains storage maps. They are Mathlib's `Finmap` under the names of the storage
interface. What is added is the sum of a function over all entries of a map, together with how the
sum moves when an entry is written or removed.
-/

namespace Frame

structure StorageMap (κ ν : Type) where
  toFinmap : Finmap (fun _ : κ => ν)

namespace StorageMap

variable {κ ν μ : Type}

instance : EmptyCollection (StorageMap κ ν) where
  emptyCollection := ⟨∅⟩

variable [DecidableEq κ]

def get (m : StorageMap κ ν) (k : κ) : Option ν :=
  m.toFinmap.lookup k

def insert (m : StorageMap κ ν) (k : κ) (v : ν) : StorageMap κ ν :=
  ⟨m.toFinmap.insert k v⟩

def remove (m : StorageMap κ ν) (k : κ) : StorageMap κ ν :=
  ⟨m.toFinmap.erase k⟩

def containsKey (m : StorageMap κ ν) (k : κ) : Bool :=
  (m.get k).isSome

def getD (m : StorageMap κ ν) (k : κ) (default : ν) : ν :=
  -- A map with `ValueQuery`: a key without an entry reads as the default.
  (m.get k).getD default

def set (m : StorageMap κ ν) (k : κ) (v : Option ν) : StorageMap κ ν :=
  match v with
  | some v => m.insert k v
  | none => m.remove k

def swap (m : StorageMap κ ν) (k1 k2 : κ) : StorageMap κ ν :=
  -- The entries are exchanged as they are, a key may be left without one.
  (m.set k1 (m.get k2)).set k2 (m.get k1)

def prefixKeys {κ' : Type} (m : StorageMap (κ × κ') ν) (k : κ) : Multiset κ' :=
  m.toFinmap.entries.filterMap fun e => if e.1.1 = k then some e.1.2 else none

def clearPrefix {κ' : Type} [DecidableEq κ'] (order : Multiset κ' → List κ')
    (m : StorageMap (κ × κ') ν) (k : κ) (limit : Nat) : StorageMap (κ × κ') ν :=
  -- `clear_prefix` removes the first `limit` entries under `k`, `order` is the order of
  -- iteration.
  ((order (m.prefixKeys k)).take limit).foldl (fun m k' => m.remove (k, k')) m

theorem ext {m m' : StorageMap κ ν} (h : ∀ k, m.get k = m'.get k) : m = m' := by
  cases m
  cases m'
  congr 1
  exact Finmap.ext_lookup h

@[simp]
theorem get_empty (k : κ) : get (∅ : StorageMap κ ν) k = none :=
  Finmap.lookup_empty k

@[simp]
theorem get_insert_self (m : StorageMap κ ν) (k : κ) (v : ν) : (m.insert k v).get k = some v :=
  Finmap.lookup_insert m.toFinmap

@[simp]
theorem get_insert_of_ne (m : StorageMap κ ν) {k k' : κ} (v : ν) (h : k' ≠ k)
    : (m.insert k v).get k' = m.get k' :=
  Finmap.lookup_insert_of_ne m.toFinmap h

theorem get_insert (m : StorageMap κ ν) (k k' : κ) (v : ν)
    : (m.insert k v).get k' = if k' = k then some v else m.get k' := by
  split
  . next h => rw [h, get_insert_self]
  . next h => rw [get_insert_of_ne m v h]

@[simp]
theorem get_remove_self (m : StorageMap κ ν) (k : κ) : (m.remove k).get k = none :=
  Finmap.lookup_erase k m.toFinmap

@[simp]
theorem get_remove_of_ne (m : StorageMap κ ν) {k k' : κ} (h : k' ≠ k)
    : (m.remove k).get k' = m.get k' :=
  Finmap.lookup_erase_ne h

theorem get_remove (m : StorageMap κ ν) (k k' : κ)
    : (m.remove k).get k' = if k' = k then none else m.get k' := by
  split
  . next h => rw [h, get_remove_self]
  . next h => rw [get_remove_of_ne m h]

theorem ne_of_get {m : StorageMap κ ν} {k k' : κ} {v : ν} (h : m.get k = none)
    (h' : m.get k' = some v) : k' ≠ k := by
  rintro rfl
  rw [h] at h'
  cases h'

theorem containsKey_of_get {m : StorageMap κ ν} {k : κ} {v : ν} (h : m.get k = some v)
    : m.containsKey k = true := by
  rw [containsKey, h]
  rfl

theorem get_set (m : StorageMap κ ν) (k k' : κ) (v : Option ν)
    : (m.set k v).get k' = if k' = k then v else m.get k' := by
  cases v with
  | none => exact get_remove m k k'
  | some v => exact get_insert m k k' v

theorem get_swap (m : StorageMap κ ν) (k1 k2 k : κ)
    : (m.swap k1 k2).get k =
        if k = k2 then m.get k1 else if k = k1 then m.get k2 else m.get k := by
  unfold swap
  rw [get_set, get_set]

@[simp]
theorem getD_insert_self (m : StorageMap κ ν) (k : κ) (v d : ν) : (m.insert k v).getD k d = v := by
  simp [getD]

@[simp]
theorem getD_insert_of_ne (m : StorageMap κ ν) {k k' : κ} (v d : ν) (h : k' ≠ k)
    : (m.insert k v).getD k' d = m.getD k' d := by
  simp [getD, h]

theorem getD_insert (m : StorageMap κ ν) (k k' : κ) (v d : ν)
    : (m.insert k v).getD k' d = if k' = k then v else m.getD k' d := by
  unfold getD
  rw [get_insert]
  split <;> rfl

theorem getD_remove (m : StorageMap κ ν) (k k' : κ) (d : ν)
    : (m.remove k).getD k' d = if k' = k then d else m.getD k' d := by
  unfold getD
  rw [get_remove]
  split <;> rfl

theorem containsKey_eq_false_iff (m : StorageMap κ ν) (k : κ)
    : m.containsKey k = false ↔ m.get k = none := by
  simp [containsKey]

@[simp]
theorem insert_insert_self (m : StorageMap κ ν) (k : κ) (v w : ν)
    : (m.insert k v).insert k w = m.insert k w := by
  apply ext
  intro k'
  simp only [get_insert]
  split <;> rfl

theorem insert_remove_self (m : StorageMap κ ν) (k : κ) (v : ν)
    : (m.remove k).insert k v = m.insert k v := by
  apply ext
  intro k'
  simp only [get_insert, get_remove]
  split <;> rfl

theorem insert_remove_of_get {m : StorageMap κ ν} {k : κ} {v : ν} (h : m.get k = some v)
    : (m.remove k).insert k v = m := by
  apply ext
  intro k'
  simp only [get_insert, get_remove]
  split
  . next heq => rw [heq, h]
  . rfl

theorem get_foldl_remove_map {ι : Type} (f : ι → κ) (l : List ι) (m : StorageMap κ ν) (k : κ)
    : (l.foldl (fun m x => m.remove (f x)) m).get k = if k ∈ l.map f then none else m.get k := by
  induction l generalizing m with
  | nil => simp
  | cons x l ih =>
    rw [List.foldl_cons, ih, get_remove, List.map_cons]
    by_cases h : k = f x
    . simp [h]
    . simp [h]

theorem get_foldl_remove {κ' : Type} [DecidableEq κ'] (l : List κ') (k : κ)
    (m : StorageMap (κ × κ') ν) (k1 : κ) (k2 : κ')
    : (l.foldl (fun m x => m.remove (k, x)) m).get (k1, k2) =
        if k1 = k ∧ k2 ∈ l then none else m.get (k1, k2) := by
  rw [get_foldl_remove_map (fun x => (k, x))]
  congr 1
  simp [eq_comm, and_comm]

theorem get_foldl_remove_left {κ' : Type} [DecidableEq κ'] (l : List κ') (k : κ)
    (m : StorageMap (κ' × κ) ν) (k1 : κ') (k2 : κ)
    : (l.foldl (fun m x => m.remove (x, k)) m).get (k1, k2) =
        if k2 = k ∧ k1 ∈ l then none else m.get (k1, k2) := by
  rw [get_foldl_remove_map (fun x => (x, k))]
  congr 1
  simp [eq_comm, and_comm]

theorem get_clearPrefix_of_ne {κ' : Type} [DecidableEq κ'] (order : Multiset κ' → List κ')
    (m : StorageMap (κ × κ') ν) {k k1 : κ} (limit : Nat) (h : k1 ≠ k) (k2 : κ')
    : (m.clearPrefix order k limit).get (k1, k2) = m.get (k1, k2) := by
  unfold clearPrefix
  rw [get_foldl_remove, if_neg]
  rintro ⟨heq, _⟩
  exact h heq

def SameOutside (p : κ → Prop) (m m' : StorageMap κ ν) : Prop :=
  -- The maps differ at most at keys that meet `p`.
  ∀ k, ¬ p k → m'.get k = m.get k

namespace SameOutside

variable {p : κ → Prop} {m m' : StorageMap κ ν} {k : κ} {v : ν}

theorem of_eq (h : m' = m) : SameOutside p m m' := by
  intro _ _
  rw [h]

theorem of_insert (hk : p k) (h : m' = m.insert k v) : SameOutside p m m' := by
  intro k1 hk1
  rw [h, get_insert_of_ne]
  rintro rfl
  exact hk1 hk

theorem of_remove (hk : p k) (h : m' = m.remove k) : SameOutside p m m' := by
  intro k1 hk1
  rw [h, get_remove_of_ne]
  rintro rfl
  exact hk1 hk

theorem of_foldl_remove {κ' : Type} [DecidableEq κ'] {m m' : StorageMap (κ × κ') ν} {l : List κ'}
    (h : m' = l.foldl (fun m x => m.remove (k, x)) m) : SameOutside (fun key => key.1 = k) m m' := by
  rintro ⟨k1, k2⟩ hk1
  rw [h, get_foldl_remove, if_neg (fun hand => hk1 hand.1)]

end SameOutside

theorem containsKey_insert (m : StorageMap κ ν) (k k' : κ) (v : ν)
    : (m.insert k v).containsKey k' = true ↔ k' = k ∨ m.containsKey k' = true := by
  unfold containsKey
  rw [get_insert]
  split
  . next h => simp [h]
  . next h => simp [h]

theorem containsKey_remove (m : StorageMap κ ν) (k k' : κ)
    : (m.remove k).containsKey k' = true ↔ k' ≠ k ∧ m.containsKey k' = true := by
  unfold containsKey
  rw [get_remove]
  split
  . next h => simp [h]
  . next h => simp [h]

theorem containsKey_foldl_remove {κ' : Type} [DecidableEq κ'] (l : List κ') (k : κ)
    (m : StorageMap (κ × κ') ν) (k1 : κ) (k2 : κ')
    : (l.foldl (fun m x => m.remove (k, x)) m).containsKey (k1, k2) = true ↔
        ¬ (k1 = k ∧ k2 ∈ l) ∧ m.containsKey (k1, k2) = true := by
  unfold containsKey
  rw [get_foldl_remove]
  split
  . next h => simp [h]
  . next h => simp [h]

theorem containsKey_foldl_remove_left {κ' : Type} [DecidableEq κ'] (l : List κ') (k : κ)
    (m : StorageMap (κ' × κ) ν) (k1 : κ') (k2 : κ)
    : (l.foldl (fun m x => m.remove (x, k)) m).containsKey (k1, k2) = true ↔
        ¬ (k2 = k ∧ k1 ∈ l) ∧ m.containsKey (k1, k2) = true := by
  unfold containsKey
  rw [get_foldl_remove_left]
  split
  . next h => simp [h]
  . next h => simp [h]

theorem mem_prefixKeys {κ' : Type} [DecidableEq κ'] (m : StorageMap (κ × κ') ν) (k : κ) (k' : κ')
    : k' ∈ m.prefixKeys k ↔ m.containsKey (k, k') = true := by
  unfold prefixKeys containsKey get
  rw [Multiset.mem_filterMap, Finmap.lookup_isSome, Finmap.mem_iff]
  constructor
  . rintro ⟨⟨⟨k1, k2⟩, v⟩, he, heq⟩
    rw [Option.ite_none_right_eq_some, Option.some.injEq] at heq
    obtain ⟨rfl, rfl⟩ := heq
    exact ⟨v, Finmap.lookup_eq_some_iff.mpr he⟩
  . rintro ⟨v, hv⟩
    exact ⟨⟨(k, k'), v⟩, Finmap.lookup_eq_some_iff.mp hv, if_pos rfl⟩

theorem prefixKeys_nodup {κ' : Type} [DecidableEq κ'] (m : StorageMap (κ × κ') ν) (k : κ)
    : (m.prefixKeys k).Nodup := by
  have hkeys : m.prefixKeys k = m.toFinmap.entries.keys.filterMap
      fun key => if key.1 = k then some key.2 else none := by
    unfold prefixKeys Multiset.keys
    rw [Multiset.filterMap_map]
    rfl
  rw [hkeys]
  apply Multiset.Nodup.filterMap
  . rintro ⟨a1, a2⟩ ⟨b1, b2⟩ c ha hb
    simp only [Option.mem_def, Option.ite_none_right_eq_some, Option.some.injEq] at ha hb
    rw [ha.1, hb.1, ha.2, hb.2]
  . exact Multiset.nodup_keys.mpr m.toFinmap.nodupKeys

theorem prefixKeys_eq_zero_iff {κ' : Type} [DecidableEq κ'] (m : StorageMap (κ × κ') ν) (k : κ)
    : m.prefixKeys k = 0 ↔ ∀ k', m.get (k, k') = none := by
  rw [Multiset.eq_zero_iff_forall_notMem]
  apply forall_congr'
  intro k'
  rw [mem_prefixKeys, Bool.not_eq_true, containsKey_eq_false_iff]

theorem containsKey_insert_of_ne (m : StorageMap κ ν) {k k' : κ} (v : ν) (h : k' ≠ k)
    : (m.insert k v).containsKey k' = m.containsKey k' := by
  unfold containsKey
  rw [get_insert_of_ne m v h]

theorem containsKey_remove_of_ne (m : StorageMap κ ν) {k k' : κ} (h : k' ≠ k)
    : (m.remove k).containsKey k' = m.containsKey k' := by
  unfold containsKey
  rw [get_remove_of_ne m h]

theorem containsKey_insert_of_get {m : StorageMap κ ν} {k : κ} {v : ν} (h : m.get k = some v)
    (w : ν) (k' : κ) : (m.insert k w).containsKey k' = m.containsKey k' := by
  rw [Bool.eq_iff_iff, containsKey_insert, or_iff_right_iff_imp]
  rintro rfl
  exact containsKey_of_get h

theorem containsKey_foldl_insert {ι : Type} (f : ι → κ) (g : ι → ν) (l : List ι)
    (m : StorageMap κ ν) (k : κ)
    : (l.foldl (fun m x => m.insert (f x) (g x)) m).containsKey k = true ↔
        k ∈ l.map f ∨ m.containsKey k = true := by
  induction l generalizing m with
  | nil => simp
  | cons x l ih =>
    rw [List.foldl_cons, ih, containsKey_insert, List.map_cons, List.mem_cons, or_left_comm, or_assoc]

theorem get_foldl_insert_cases {ι : Type} (f : ι → κ) (g : ι → ν) (l : List ι)
    (m : StorageMap κ ν) (k : κ)
    : (l.foldl (fun m x => m.insert (f x) (g x)) m).get k = m.get k ∨
        ∃ x ∈ l, f x = k ∧ (l.foldl (fun m x => m.insert (f x) (g x)) m).get k = some (g x) := by
  induction l generalizing m with
  | nil => exact .inl rfl
  | cons x l ih =>
    rw [List.foldl_cons]
    rcases ih (m.insert (f x) (g x)) with h | ⟨y, hy, hkey, h⟩
    . rw [h, get_insert]
      split
      . next heq => exact .inr ⟨x, List.mem_cons_self, heq.symm, rfl⟩
      . exact .inl rfl
    . exact .inr ⟨y, List.mem_cons_of_mem x hy, hkey, h⟩

theorem get_clearPrefix_self {κ' : Type} [DecidableEq κ'] {order : Multiset κ' → List κ'}
    (horder : ∀ keys, Multiset.ofList (order keys) = keys) (m : StorageMap (κ × κ') ν) (k : κ)
    {limit : Nat} (hlimit : (order (m.prefixKeys k)).length ≤ limit) (k' : κ')
    : (m.clearPrefix order k limit).get (k, k') = none := by
  unfold clearPrefix
  rw [get_foldl_remove, List.take_of_length_le hlimit]
  split
  . rfl
  . next hmem =>
    rw [← containsKey_eq_false_iff, ← Bool.not_eq_true, ← mem_prefixKeys, ← horder (prefixKeys m k)]
    exact fun h => hmem ⟨rfl, h⟩

theorem clearPrefix_eq_none_iff {κ' : Type} [DecidableEq κ'] {order : Multiset κ' → List κ'}
    (horder : ∀ keys, Multiset.ofList (order keys) = keys) (m : StorageMap (κ × κ') ν) (k : κ)
    (limit : Nat)
    : (∀ k', (m.clearPrefix order k limit).get (k, k') = none) ↔ (m.prefixKeys k).card ≤ limit := by
  have hlength : (order (m.prefixKeys k)).length = (m.prefixKeys k).card := by
    conv =>
      rhs
      rw [← horder (m.prefixKeys k)]
    rfl
  constructor
  . intro h
    by_contra hlt
    rw [Nat.not_le, ← hlength] at hlt
    -- The first entry that the limit does not reach is still there.
    have hnodup : (order (m.prefixKeys k)).Nodup := by
      rw [← Multiset.coe_nodup, horder]
      exact m.prefixKeys_nodup k
    have hleft : (order (m.prefixKeys k))[limit] ∉ (order (m.prefixKeys k)).take limit := by
      intro hmem
      obtain ⟨j, hj, heq⟩ := List.mem_take_iff_getElem.mp hmem
      have hjlimit := (List.getElem_inj hnodup).mp heq
      omega
    have hmem : ∀ x ∈ order (m.prefixKeys k), x ∈ m.prefixKeys k := by
      intro x hx
      rw [← horder (m.prefixKeys k)]
      exact hx
    have hstored := hmem _ (List.getElem_mem hlt)
    have hnone := h (order (m.prefixKeys k))[limit]
    unfold clearPrefix at hnone
    rw [get_foldl_remove, if_neg (fun hand => hleft hand.2)] at hnone
    rw [mem_prefixKeys, containsKey, hnone] at hstored
    cases hstored
  . intro hle k'
    apply get_clearPrefix_self horder
    rw [hlength]
    exact hle

theorem containsKey_clearPrefix {κ' : Type} [DecidableEq κ'] {order : Multiset κ' → List κ'}
    (horder : ∀ keys, Multiset.ofList (order keys) = keys) (m : StorageMap (κ × κ') ν) (k : κ)
    {limit : Nat} (hlimit : (order (m.prefixKeys k)).length ≤ limit) (k1 : κ) (k2 : κ')
    : (m.clearPrefix order k limit).containsKey (k1, k2) = true ↔
        k1 ≠ k ∧ m.containsKey (k1, k2) = true := by
  unfold containsKey
  by_cases h : k1 = k
  . rw [h, get_clearPrefix_self horder m k hlimit]
    simp
  . rw [get_clearPrefix_of_ne _ _ _ h]
    simp [h]

section Sum

variable [AddCommMonoid μ]

omit [DecidableEq κ] in
def sum (m : StorageMap κ ν) (f : κ → ν → μ) : μ :=
  (m.toFinmap.entries.map (fun e => f e.1 e.2)).sum

variable (f : κ → ν → μ)

theorem sum_insert_of_get_none {m : StorageMap κ ν} {k : κ} (v : ν) (h : m.get k = none)
    : (m.insert k v).sum f = f k v + m.sum f := by
  unfold sum insert
  rw [Finmap.entries_insert_of_notMem]
  . simp
  . rw [← Finmap.lookup_eq_none]
    exact h

theorem sum_remove {m : StorageMap κ ν} {k : κ} {v : ν} (h : m.get k = some v)
    : m.sum f = f k v + (m.remove k).sum f := by
  have hins := sum_insert_of_get_none f v (get_remove_self m k)
  rw [insert_remove_of_get h] at hins
  exact hins

theorem sum_insert_of_get_some {m : StorageMap κ ν} {k : κ} {v : ν} (w : ν)
    (h : m.get k = some v) : (m.insert k w).sum f + f k v = m.sum f + f k w := by
  have hins := sum_insert_of_get_none f w (get_remove_self m k)
  rw [insert_remove_self] at hins
  rw [hins, sum_remove f h]
  rw [add_comm (f k v), add_assoc, add_comm, add_assoc]

theorem sum_insert_of_eq {m : StorageMap κ ν} {k : κ} {v w : ν} (h : m.get k = some v)
    (hf : f k w = f k v) : (m.insert k w).sum f = m.sum f := by
  have hins := sum_insert_of_get_none f w (get_remove_self m k)
  rw [insert_remove_self] at hins
  rw [hins, sum_remove f h, hf]

theorem sum_congr {m : StorageMap κ ν} {f g : κ → ν → μ}
    (h : ∀ k v, m.get k = some v → f k v = g k v) : m.sum f = m.sum g := by
  unfold sum
  congr 1
  apply Multiset.map_congr rfl
  intro e he
  apply h
  unfold get
  rw [Finmap.lookup_eq_some_iff]
  exact he

theorem sum_eq_zero {m : StorageMap κ ν} {f : κ → ν → μ}
    (h : ∀ k v, m.get k = some v → f k v = 0) : m.sum f = 0 := by
  rw [sum_congr h]
  unfold sum
  simp

end Sum

theorem le_sum {m : StorageMap κ ν} (f : κ → ν → Nat) {k : κ} {v : ν} (h : m.get k = some v)
    : f k v ≤ m.sum f := by
  rw [sum_remove f h]
  omega

theorem sum_insert_le (m : StorageMap κ ν) (f : κ → ν → Nat) (k : κ) (v : ν)
    : (m.insert k v).sum f ≤ m.sum f + f k v := by
  match h : m.get k with
  | none =>
    rw [sum_insert_of_get_none f v h]
    omega
  | some w =>
    have hins := sum_insert_of_get_some f v h
    omega

theorem sum_remove_le (m : StorageMap κ ν) (f : κ → ν → Nat) (k : κ)
    : (m.remove k).sum f ≤ m.sum f := by
  match h : m.get k with
  | none =>
    have heq : m.remove k = m := by
      apply ext
      intro k'
      rw [get_remove]
      split
      . next hk => rw [hk, h]
      . rfl
    rw [heq]
  | some v =>
    rw [sum_remove f h]
    exact Nat.le_add_left _ _

def size (m : StorageMap κ ν) : Nat :=
  m.sum fun _ _ => 1

theorem size_insert_of_containsKey {m : StorageMap κ ν} {k : κ} (v : ν)
    (h : m.containsKey k = true) : (m.insert k v).size = m.size := by
  obtain ⟨w, hw⟩ := Option.isSome_iff_exists.mp h
  exact sum_insert_of_eq _ hw rfl

theorem size_insert_of_get_none {m : StorageMap κ ν} {k : κ} (v : ν) (h : m.get k = none)
    : (m.insert k v).size = m.size + 1 := by
  unfold size
  rw [sum_insert_of_get_none _ _ h, Nat.add_comm]

theorem size_insert_le (m : StorageMap κ ν) (k : κ) (v : ν) : (m.insert k v).size ≤ m.size + 1 :=
  sum_insert_le m _ k v

theorem size_remove_le (m : StorageMap κ ν) (k : κ) : (m.remove k).size ≤ m.size :=
  sum_remove_le m _ k

end StorageMap

structure BoundedMap (κ ν : Type) [DecidableEq κ] (bound : Nat) where
  toMap : StorageMap κ ν
  size_le : toMap.size ≤ bound

namespace BoundedMap

variable {κ ν : Type} [DecidableEq κ] {n : Nat}

def empty : BoundedMap κ ν n := ⟨∅, Nat.zero_le n⟩

def get (m : BoundedMap κ ν n) (k : κ) : Option ν :=
  m.toMap.get k

def tryInsert (m : BoundedMap κ ν n) (k : κ) (v : ν) : Option (BoundedMap κ ν n) :=
  -- A key that is there already can always be overwritten.
  if h : m.toMap.size < n then
    some ⟨m.toMap.insert k v, Nat.le_trans (StorageMap.size_insert_le _ _ _) h⟩
  else if h : m.toMap.containsKey k = true then
    some ⟨m.toMap.insert k v, by rw [StorageMap.size_insert_of_containsKey v h]; exact m.size_le⟩
  else
    none

def remove (m : BoundedMap κ ν n) (k : κ) : BoundedMap κ ν n :=
  ⟨m.toMap.remove k, Nat.le_trans (StorageMap.size_remove_le _ _) m.size_le⟩

theorem get_tryInsert {m m' : BoundedMap κ ν n} {k : κ} {v : ν} (h : m.tryInsert k v = some m')
    (k' : κ) : m'.get k' = if k' = k then some v else m.get k' := by
  have hmap : m'.toMap = m.toMap.insert k v := by
    unfold tryInsert at h
    split at h
    . injection h with h
      rw [← h]
    . split at h
      . injection h with h
        rw [← h]
      . cases h
  unfold get
  rw [hmap, StorageMap.get_insert]

theorem get_remove (m : BoundedMap κ ν n) (k k' : κ)
    : (m.remove k).get k' = if k' = k then none else m.get k' :=
  StorageMap.get_remove m.toMap k k'

end BoundedMap
end Frame
