import Mathlib.Data.List.InsertIdx
import Mathlib.Data.List.Nodup
import Mathlib.Order.Compare
import Mathlib.Order.Lattice

/-!
This module contains the binary search of the standard library of Rust, in release 1.77 that the toolchain
is pinned to. It only compares elements with the key that is searched for, so the loop is about an ordering
for each position. For lists that are sorted by their keys a search finds an element with the key, or the
place where such an element belongs.
-/

namespace Frame

section Search

variable (cmp : Nat → Ordering)

def binarySearchLoop (fuel left right : Nat) : Except Nat Nat :=
  -- Each round leaves fewer positions, so `fuel` does not run out before there are none.
  match fuel with
  | 0 => .error left
  | fuel + 1 =>
    if left < right then
      let mid := left + (right - left) / 2
      match cmp mid with
      | .lt => binarySearchLoop fuel (mid + 1) right
      | .gt => binarySearchLoop fuel left mid
      | .eq => .ok mid
    else
      .error left

def binarySearchBy (size : Nat) : Except Nat Nat :=
  binarySearchLoop cmp size 0 size

variable {cmp}

def Ascending (cmp : Nat → Ordering) (n : Nat) : Prop :=
  ∀ i j, i < j → j < n → cmp i = .lt ∨ cmp j = .gt

def Nondecreasing (cmp : Nat → Ordering) (n : Nat) : Prop :=
  -- Several positions may compare as equal. This is all that the loop relies on.
  ∀ i j, i < j → j < n → (cmp i = .gt → cmp j = .gt) ∧ (cmp j = .lt → cmp i = .lt)

theorem Ascending.nondecreasing {n : Nat} (h : Ascending cmp n) : Nondecreasing cmp n := by
  intro i j hij hj
  have hcases := h i j hij hj
  constructor
  . intro hgt
    simpa [hgt] using hcases
  . intro hlt
    simpa [hlt] using hcases

/--
What the loop maintains: the key belongs to the positions from `left` on and before `right`, if it is there
at all.
-/
structure Brackets (cmp : Nat → Ordering) (n left right : Nat) : Prop where
  ordered : left ≤ right
  bounded : right ≤ n
  before : ∀ j < left, cmp j = .lt
  after : ∀ j, right ≤ j → j < n → cmp j = .gt

namespace Brackets

variable {n left right mid : Nat}

theorem raise (hcmp : Nondecreasing cmp n) (h : Brackets cmp n left right) (hmid : mid < right)
    (hlt : cmp mid = .lt) : Brackets cmp n (mid + 1) right := by
  have hbounded := h.bounded
  refine ⟨hmid, hbounded, ?_, h.after⟩
  intro j hj
  rcases Nat.eq_or_lt_of_le (Nat.lt_succ_iff.mp hj) with rfl | hbefore
  . exact hlt
  . exact (hcmp _ _ hbefore (by omega)).2 hlt

theorem lower (hcmp : Nondecreasing cmp n) (h : Brackets cmp n left right) (hleft : left ≤ mid)
    (hmid : mid < right) (hgt : cmp mid = .gt) : Brackets cmp n left mid := by
  have hbounded := h.bounded
  refine ⟨hleft, by omega, h.before, ?_⟩
  intro j hj hjn
  rcases Nat.eq_or_lt_of_le hj with rfl | hafter
  . exact hgt
  . exact (hcmp _ _ hafter hjn).1 hgt

end Brackets

def Located (cmp : Nat → Ordering) (n : Nat) (result : Except Nat Nat) : Prop :=
  match result with
  | .ok i => i < n ∧ cmp i = .eq
  | .error i => i ≤ n ∧ (∀ j < i, cmp j = .lt) ∧ ∀ j, i ≤ j → j < n → cmp j = .gt

variable {n left right : Nat}

theorem Brackets.located (h : Brackets cmp n left right) (hempty : right ≤ left)
    : Located cmp n (.error left) := by
  obtain rfl : left = right := Nat.le_antisymm h.ordered hempty
  exact ⟨h.bounded, h.before, h.after⟩

theorem Brackets.loop_located (hcmp : Nondecreasing cmp n) {fuel : Nat}
    (h : Brackets cmp n left right) (hfuel : right - left ≤ fuel)
    : Located cmp n (binarySearchLoop cmp fuel left right) := by
  induction fuel generalizing left right with
  | zero => exact h.located (by omega)
  | succ fuel ih =>
    unfold binarySearchLoop
    by_cases hlt : left < right
    . rw [if_pos hlt]
      have hmid : left + (right - left) / 2 < right := by omega
      dsimp only
      generalize hhalf : left + (right - left) / 2 = mid at hmid
      have hleft : left ≤ mid := by omega
      cases horder : cmp mid with
      | lt => exact ih (h.raise hcmp hmid horder) (by omega)
      | gt => exact ih (h.lower hcmp hleft hmid horder) (by omega)
      | eq => exact ⟨Nat.lt_of_lt_of_le hmid h.bounded, horder⟩
    . rw [if_neg hlt]
      exact h.located (Nat.le_of_not_lt hlt)

theorem binarySearchBy_located (hcmp : Nondecreasing cmp n) : Located cmp n (binarySearchBy cmp n) := by
  have hstart : Brackets cmp n 0 n :=
    ⟨Nat.zero_le n, Nat.le_refl n, fun j hj => absurd hj (Nat.not_lt_zero j), by omega⟩
  exact hstart.loop_located hcmp (Nat.sub_le n 0)

end Search

section ByKey

variable {α κ : Type} [LinearOrder κ]

def compareAt (l : List α) (key : κ) (f : α → κ) (i : Nat) : Ordering :=
  match l[i]? with
  | some a => compare (f a) key
  | none => .gt

def binarySearchByKey (l : List α) (key : κ) (f : α → κ) : Except Nat Nat :=
  binarySearchBy (compareAt l key f) l.length

variable {l : List α} {key : κ} {f : α → κ} {i : Nat}

theorem compareAt_of_lt (hi : i < l.length) : compareAt l key f i = compare (f l[i]) key := by
  unfold compareAt
  rw [List.getElem?_eq_getElem hi]

theorem ascending_of_pairwise (key : κ) (h : l.Pairwise fun a b => f a < f b)
    : Ascending (compareAt l key f) l.length := by
  intro i j hij hj
  have hi : i < l.length := Nat.lt_trans hij hj
  have hlt := List.pairwise_iff_getElem.mp h i j hi hj hij
  rw [compareAt_of_lt hi, compareAt_of_lt hj, compare_lt_iff_lt, compare_gt_iff_gt]
  by_cases hkey : f l[i] < key
  . exact .inl hkey
  . right
    exact lt_of_le_of_lt (not_lt.mp hkey) hlt

theorem nondecreasing_of_pairwise (key : κ) (h : l.Pairwise fun a b => f a ≤ f b)
    : Nondecreasing (compareAt l key f) l.length := by
  intro i j hij hj
  have hi : i < l.length := Nat.lt_trans hij hj
  have hle := List.pairwise_iff_getElem.mp h i j hi hj hij
  rw [compareAt_of_lt hi, compareAt_of_lt hj, compare_lt_iff_lt, compare_lt_iff_lt,
    compare_gt_iff_gt, compare_gt_iff_gt]
  constructor
  . intro hgt
    exact lt_of_lt_of_le hgt hle
  . intro hlt
    exact lt_of_le_of_lt hle hlt

theorem search_ok_of_nondecreasing (h : Nondecreasing (compareAt l key f) l.length)
    (hsearch : binarySearchByKey l key f = .ok i) : ∃ a, l[i]? = some a ∧ f a = key := by
  have hspec := binarySearchBy_located h
  unfold binarySearchByKey at hsearch
  rw [hsearch] at hspec
  obtain ⟨hi, heq⟩ := hspec
  rw [compareAt_of_lt hi, compare_eq_iff_eq] at heq
  exact ⟨l[i], List.getElem?_eq_getElem hi, heq⟩

theorem binarySearchByKey_ok (h : l.Pairwise fun a b => f a < f b)
    (hsearch : binarySearchByKey l key f = .ok i) : ∃ a, l[i]? = some a ∧ f a = key :=
  search_ok_of_nondecreasing (ascending_of_pairwise key h).nondecreasing hsearch

theorem search_error_of_nondecreasing (h : Nondecreasing (compareAt l key f) l.length)
    (hsearch : binarySearchByKey l key f = .error i)
    : i ≤ l.length ∧ (∀ a ∈ l.take i, f a < key) ∧ ∀ a ∈ l.drop i, key < f a := by
  have hspec := binarySearchBy_located h
  unfold binarySearchByKey at hsearch
  rw [hsearch] at hspec
  obtain ⟨hi, hbefore, hafter⟩ := hspec
  refine ⟨hi, ?_, ?_⟩
  . intro a ha
    obtain ⟨j, hj, rfl⟩ := List.mem_iff_getElem.mp ha
    rw [List.length_take] at hj
    have hlt := hbefore j (by omega)
    rw [compareAt_of_lt (by omega), compare_lt_iff_lt] at hlt
    rw [List.getElem_take]
    exact hlt
  . intro a ha
    obtain ⟨j, hj, rfl⟩ := List.mem_iff_getElem.mp ha
    rw [List.length_drop] at hj
    have hgt := hafter (i + j) (by omega) (by omega)
    rw [compareAt_of_lt (by omega), compare_gt_iff_gt] at hgt
    rw [List.getElem_drop]
    exact hgt

theorem binarySearchByKey_error (h : l.Pairwise fun a b => f a < f b)
    (hsearch : binarySearchByKey l key f = .error i)
    : i ≤ l.length ∧ (∀ a ∈ l.take i, f a < key) ∧ ∀ a ∈ l.drop i, key < f a :=
  search_error_of_nondecreasing (ascending_of_pairwise key h).nondecreasing hsearch

theorem exists_binarySearchByKey_ok (h : l.Pairwise fun a b => f a < f b)
    : (∃ i, binarySearchByKey l key f = .ok i) ↔ ∃ a ∈ l, f a = key := by
  constructor
  . rintro ⟨i, hsearch⟩
    obtain ⟨a, ha, hkey⟩ := binarySearchByKey_ok h hsearch
    exact ⟨a, List.mem_of_getElem? ha, hkey⟩
  . rintro ⟨a, ha, hkey⟩
    cases hsearch : binarySearchByKey l key f with
    | ok i => exact ⟨i, rfl⟩
    | error i =>
      obtain ⟨_, hbefore, hafter⟩ := binarySearchByKey_error h hsearch
      rw [← List.take_append_drop i l, List.mem_append] at ha
      rcases ha with ha | ha
      . exact absurd hkey (ne_of_lt (hbefore a ha))
      . exact absurd hkey (ne_of_gt (hafter a ha))

theorem pairwise_insertIdx {R : α → α → Prop} {a : α} (h : l.Pairwise R)
    (hi : i ≤ l.length) (hbefore : ∀ b ∈ l.take i, R b a) (hafter : ∀ b ∈ l.drop i, R a b)
    : (l.insertIdx i a).Pairwise R := by
  induction l generalizing i with
  | nil =>
    obtain rfl : i = 0 := Nat.le_zero.mp hi
    exact List.pairwise_singleton R a
  | cons b l ih =>
    cases i with
    | zero => exact List.pairwise_cons.mpr ⟨hafter, h⟩
    | succ i =>
      rw [List.pairwise_cons] at h
      rw [List.take_succ_cons, List.forall_mem_cons] at hbefore
      rw [List.insertIdx_succ_cons, List.pairwise_cons]
      refine ⟨?_, ih h.2 (Nat.le_of_succ_le_succ hi) hbefore.2 hafter⟩
      intro c hc
      rcases List.eq_or_mem_of_mem_insertIdx hc with rfl | hc
      . exact hbefore.1
      . exact h.1 c hc

theorem pairwise_insertIdx_of_search (h : l.Pairwise fun a b => f a < f b)
    (hsearch : binarySearchByKey l key f = .error i) {a : α} (ha : f a = key)
    : (l.insertIdx i a).Pairwise fun a b => f a < f b := by
  obtain ⟨hi, hbefore, hafter⟩ := binarySearchByKey_error h hsearch
  rw [← ha] at hbefore hafter
  exact pairwise_insertIdx h hi hbefore hafter

theorem map_modify_of_search (h : l.Pairwise fun a b => f a < f b)
    (hsearch : binarySearchByKey l key f = .ok i) {a : α} (ha : f a = key)
    : (l.modify i fun _ => a).map f = l.map f := by
  -- The element is replaced by one with the same key.
  obtain ⟨b, hb, hkey⟩ := binarySearchByKey_ok h hsearch
  apply List.ext_getElem?
  intro j
  rw [List.getElem?_map, List.getElem?_map, List.getElem?_modify]
  by_cases hj : i = j
  . rw [← hj, hb]
    simp [ha, hkey]
  . simp [hj]

theorem pairwise_modify_of_search (h : l.Pairwise fun a b => f a < f b)
    (hsearch : binarySearchByKey l key f = .ok i) {a : α} (ha : f a = key)
    : (l.modify i fun _ => a).Pairwise fun a b => f a < f b := by
  rw [← List.pairwise_map (R := (· < ·)), map_modify_of_search h hsearch ha, List.pairwise_map]
  exact h

theorem mem_modify_of_search (h : l.Pairwise fun a b => f a < f b)
    (hsearch : binarySearchByKey l key f = .ok i) {a b : α} (hb : b ∈ l) (hkey : f b ≠ key)
    : b ∈ l.modify i fun _ => a := by
  obtain ⟨c, hc, hc'⟩ := binarySearchByKey_ok h hsearch
  obtain ⟨j, hj⟩ := List.mem_iff_getElem?.mp hb
  have hij : i ≠ j := by
    rintro rfl
    rw [hc, Option.some.injEq] at hj
    rw [← hj] at hkey
    exact hkey hc'
  rw [List.mem_iff_getElem?]
  exact ⟨j, by rw [List.getElem?_modify_ne _ _ hij, hj]⟩

theorem nodup_map_of_pairwise (h : l.Pairwise fun a b => f a < f b) : (l.map f).Nodup :=
  List.pairwise_map.mpr (h.imp ne_of_lt)

theorem mem_of_mem_modify {a b : α} (hb : b ∈ l.modify i fun _ => a) : b = a ∨ b ∈ l := by
  obtain ⟨j, hj⟩ := List.mem_iff_getElem?.mp hb
  rw [List.getElem?_modify, Option.map_eq_map, Option.map_eq_some_iff] at hj
  obtain ⟨c, hc, rfl⟩ := hj
  split
  . exact .inl rfl
  . exact .inr (List.mem_of_getElem? hc)

theorem mem_eraseIdx_of_search (h : l.Pairwise fun a b => f a < f b)
    (hsearch : binarySearchByKey l key f = .ok i) {b : α}
    : b ∈ l.eraseIdx i ↔ b ∈ l ∧ f b ≠ key := by
  obtain ⟨c, hc, hkey⟩ := binarySearchByKey_ok h hsearch
  rw [List.mem_eraseIdx_iff_getElem?]
  constructor
  . rintro ⟨j, hj, hb⟩
    refine ⟨List.mem_of_getElem? hb, ?_⟩
    rintro rfl
    apply hj
    have hlt : j < (l.map f).length := by
      rw [List.length_map]
      exact (List.getElem?_eq_some_iff.mp hb).1
    apply (List.getElem?_inj hlt (nodup_map_of_pairwise h)).mp
    rw [List.getElem?_map, List.getElem?_map, hb, hc, Option.map_some, Option.map_some, hkey]
  . rintro ⟨hmem, hne⟩
    obtain ⟨j, hj⟩ := List.mem_iff_getElem?.mp hmem
    refine ⟨j, ?_, hj⟩
    rintro rfl
    obtain rfl := Option.some.inj (hj.symm.trans hc)
    exact hne hkey

end ByKey

end Frame
