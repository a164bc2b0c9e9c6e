import Cord.ChainSpace.Lemmas.Steps

/-!
This module contains the reserve accounting of the chain space pallet: what a space keeps in reserve
is what its sub spaces were allotted.
-/

open Frame Identifier

namespace ChainSpace

variable {T : Config}

section Budget

variable (spaces : StorageMap T.Ss58Identifier (SpaceDetails T)) (p : T.Ss58Identifier)

def reserveOf : Nat :=
  match spaces.get p with
  | some d => d.txnReserve.toNat
  | none => 0

def allotment (c : T.Ss58Identifier) (d : SpaceDetails T) : Nat :=
  if c ≠ p ∧ d.parent = p then d.txnCapacity.toNat else 0

def allotted : Nat :=
  spaces.sum (allotment p)

def Balanced : Prop :=
  -- The reserve covers the sub spaces exactly. An identifier that is not anchored has no reserve
  -- and no sub spaces with a capacity.
  ∀ p, reserveOf spaces p = allotted spaces p

end Budget

variable {spaces : StorageMap T.Ss58Identifier (SpaceDetails T)} {k p : T.Ss58Identifier}
  {d d' : SpaceDetails T}

theorem reserveOf_insert_self : reserveOf (spaces.insert k d) k = d.txnReserve.toNat := by
  simp [reserveOf]

theorem reserveOf_insert_of_ne (h : p ≠ k)
    : reserveOf (spaces.insert k d) p = reserveOf spaces p := by
  simp [reserveOf, h]

theorem reserveOf_of_get (h : spaces.get p = some d) : reserveOf spaces p = d.txnReserve.toNat := by
  simp [reserveOf, h]

theorem reserveOf_of_none (h : spaces.get p = none) : reserveOf spaces p = 0 := by
  simp [reserveOf, h]

theorem allotment_self : allotment p p d = 0 := by
  simp [allotment]

theorem allotment_of_parent (hne : k ≠ p) (hp : d.parent = p)
    : allotment p k d = d.txnCapacity.toNat := by
  simp [allotment, hne, hp]

theorem allotment_of_parent_ne (hp : d.parent ≠ p) : allotment p k d = 0 := by
  simp [allotment, hp]

theorem allotted_insert_of_eq (h : spaces.get k = some d)
    (hcapacity : d'.txnCapacity = d.txnCapacity) (hparent : d'.parent = d.parent)
    : allotted (spaces.insert k d') p = allotted spaces p := by
  apply StorageMap.sum_insert_of_eq (allotment p) h
  unfold allotment
  rw [hcapacity, hparent]

theorem Balanced.write (hbal : Balanced spaces) (h : spaces.get k = some d)
    (hcapacity : d'.txnCapacity = d.txnCapacity) (hreserve : d'.txnReserve = d.txnReserve)
    (hparent : d'.parent = d.parent) : Balanced (spaces.insert k d') := by
  intro p
  rw [allotted_insert_of_eq h hcapacity hparent, ← hbal p]
  by_cases hp : p = k
  . subst hp
    rw [reserveOf_insert_self, reserveOf_of_get h, hreserve]
  . rw [reserveOf_insert_of_ne hp]

theorem Balanced.writeTop (hbal : Balanced spaces) (h : spaces.get k = some d)
    (htop : k = d.parent) (hreserve : d'.txnReserve = d.txnReserve) (hparent : d'.parent = d.parent)
    : Balanced (spaces.insert k d') := by
  intro p
  have hall : allotted (spaces.insert k d') p = allotted spaces p := by
    apply StorageMap.sum_insert_of_eq (allotment p) h
    by_cases hp : p = k
    . rw [hp, allotment_self, allotment_self]
    . rw [allotment_of_parent_ne, allotment_of_parent_ne]
      . rw [← htop]
        exact Ne.symm hp
      . rw [hparent, ← htop]
        exact Ne.symm hp
  rw [hall, ← hbal p]
  by_cases hp : p = k
  . subst hp
    rw [reserveOf_insert_self, reserveOf_of_get h, hreserve]
  . rw [reserveOf_insert_of_ne hp]

theorem Balanced.anchor (hbal : Balanced spaces) (hfresh : spaces.get k = none)
    (hreserve : d.txnReserve = 0) (htop : d.parent = k) : Balanced (spaces.insert k d) := by
  intro p
  unfold allotted
  rw [StorageMap.sum_insert_of_get_none _ _ hfresh]
  have hold := hbal p
  unfold allotted at hold
  rw [← hold]
  by_cases hp : p = k
  . subst hp
    rw [reserveOf_insert_self, reserveOf_of_none hfresh, allotment_self, hreserve]
    rfl
  . rw [reserveOf_insert_of_ne hp, allotment_of_parent_ne, Nat.zero_add]
    rw [htop]
    exact Ne.symm hp

theorem Balanced.anchorSub {parent parent' : SpaceDetails T} (hbal : Balanced spaces)
    (hp : spaces.get p = some parent) (hfresh : spaces.get k = none)
    (hcapacity' : parent'.txnCapacity = parent.txnCapacity) (hparent' : parent'.parent = parent.parent)
    (hmove : parent'.txnReserve.toNat = parent.txnReserve.toNat + d.txnCapacity.toNat)
    (hreserve : d.txnReserve = 0) (hparent : d.parent = p)
    : Balanced ((spaces.insert p parent').insert k d) := by
  have hkp : k ≠ p := by
    intro heq
    rw [heq, hp] at hfresh
    cases hfresh
  have hfresh' : (spaces.insert p parent').get k = none := by
    rw [StorageMap.get_insert_of_ne _ _ hkp]
    exact hfresh
  intro q
  have hsum : allotted ((spaces.insert p parent').insert k d) q =
      allotment q k d + reserveOf spaces q := by
    unfold allotted
    rw [StorageMap.sum_insert_of_get_none _ _ hfresh', hbal q]
    congr 1
    exact allotted_insert_of_eq hp hcapacity' hparent'
  rw [hsum]
  by_cases hqk : q = k
  . rw [hqk, reserveOf_insert_self, allotment_self, reserveOf_of_none hfresh, hreserve]
    rfl
  . rw [reserveOf_insert_of_ne hqk]
    by_cases hqp : q = p
    . rw [hqp, reserveOf_insert_self, reserveOf_of_get hp, allotment_of_parent hkp hparent, hmove]
      omega
    . rw [reserveOf_insert_of_ne hqp, allotment_of_parent_ne, Nat.zero_add]
      rw [hparent]
      exact Ne.symm hqp

theorem Balanced.capacity_le {parent : SpaceDetails T} (hbal : Balanced spaces)
    (hk : spaces.get k = some d) (hsub : k ≠ d.parent) (hp : spaces.get d.parent = some parent)
    : d.txnCapacity.toNat ≤ parent.txnReserve.toNat := by
  rw [← reserveOf_of_get hp, hbal d.parent, ← allotment_of_parent hsub rfl]
  exact StorageMap.le_sum (allotment d.parent) hk

theorem Balanced.writeSub {parent parent' : SpaceDetails T} (hbal : Balanced spaces)
    (hk : spaces.get k = some d) (hsub : k ≠ d.parent) (hp : spaces.get d.parent = some parent)
    (hcapacity' : parent'.txnCapacity = parent.txnCapacity) (hparent' : parent'.parent = parent.parent)
    (hmove : parent'.txnReserve.toNat + d.txnCapacity.toNat =
      parent.txnReserve.toNat + d'.txnCapacity.toNat)
    (hreserve : d'.txnReserve = d.txnReserve) (hparent : d'.parent = d.parent)
    : Balanced ((spaces.insert d.parent parent').insert k d') := by
  have hk' : (spaces.insert d.parent parent').get k = some d := by
    rw [StorageMap.get_insert_of_ne _ _ hsub]
    exact hk
  intro q
  have hsum : allotted ((spaces.insert d.parent parent').insert k d') q + allotment q k d =
      reserveOf spaces q + allotment q k d' := by
    unfold allotted
    rw [StorageMap.sum_insert_of_get_some _ _ hk', hbal q]
    congr 1
    exact allotted_insert_of_eq hp hcapacity' hparent'
  by_cases hqk : q = k
  . rw [hqk, allotment_self, allotment_self, reserveOf_of_get hk] at hsum
    rw [hqk, reserveOf_insert_self, hreserve]
    omega
  . rw [reserveOf_insert_of_ne hqk]
    by_cases hqp : q = d.parent
    . rw [hqp, allotment_of_parent hsub rfl, allotment_of_parent hsub hparent,
        reserveOf_of_get hp] at hsum
      rw [hqp, reserveOf_insert_self]
      omega
    . rw [allotment_of_parent_ne (Ne.symm hqp), allotment_of_parent_ne] at hsum
      . rw [reserveOf_insert_of_ne hqp]
        omega
      . rw [hparent]
        exact Ne.symm hqp

def Call.KeepsReserve (call : Call T) (spaces : StorageMap T.Ss58Identifier (SpaceDetails T))
    : Prop :=
  -- What the code relies on without checking it: a sub space is approved again with the capacity
  -- it had, and no reserve exceeds 64 bits.
  match call with
  | .approve spaceId txnCapacity =>
    ∀ d ∈ spaces.get spaceId, spaceId = d.parent ∨ txnCapacity = d.txnCapacity
  | .subspaceCreate _ count spaceId =>
    ∀ d ∈ spaces.get spaceId, ∀ value ∈ subspaceCapacity T count,
      d.txnReserve.toNat + value.toNat < 2 ^ 64
  | .updateTransactionCapacity spaceId newTxnCapacity
  | .updateTransactionCapacitySub spaceId newTxnCapacity =>
    ∀ d ∈ spaces.get spaceId, spaceId ≠ d.parent → ∀ p ∈ spaces.get d.parent,
      p.txnReserve.toNat + newTxnCapacity.toNat < 2 ^ 64 + d.txnCapacity.toNat
  | _ => True

instance (call : Call T) (spaces : StorageMap T.Ss58Identifier (SpaceDetails T))
    : Decidable (call.KeepsReserve spaces) :=
  match call with
  | .approve spaceId _ => inferInstanceAs (Decidable (∀ d ∈ spaces.get spaceId, _))
  | .subspaceCreate _ count spaceId =>
    -- Given by hand, since all values of 64 bits can be enumerated as well.
    haveI (d : SpaceDetails T) : Decidable (∀ value ∈ subspaceCapacity T count,
        d.txnReserve.toNat + value.toNat < 2 ^ 64) :=
      Option.decidableForallMem _
    inferInstanceAs (Decidable (∀ d ∈ spaces.get spaceId, _))
  | .updateTransactionCapacity spaceId _ =>
    inferInstanceAs (Decidable (∀ d ∈ spaces.get spaceId, _))
  | .updateTransactionCapacitySub spaceId _ =>
    inferInstanceAs (Decidable (∀ d ∈ spaces.get spaceId, _))
  | .addDelegate .. | .addAdminDelegate .. | .addDelegator .. | .removeDelegate .. | .create ..
  | .archive .. | .restore .. | .resetTransactionCount .. | .approvalRevoke ..
  | .approvalRestore .. => inferInstanceAs (Decidable True)

theorem SpacesStep.balanced {call : Call T}
    {spaces' : StorageMap T.Ss58Identifier (SpaceDetails T)} (h : SpacesStep spaces call spaces')
    (hcall : call.KeepsReserve spaces) (hbal : Balanced spaces) : Balanced spaces' := by
  cases h with
  | write stored capacity reserve parent =>
    exact hbal.write stored capacity reserve parent
  | create fresh =>
    exact hbal.anchor fresh rfl rfl
  | approve stored =>
    cases hcall _ stored with
    | inl htop => exact hbal.writeTop stored htop rfl rfl
    | inr hcapacity => exact hbal.write stored hcapacity rfl rfl
  | subspace stored capacity guard fresh =>
    have hlt := hcall _ stored _ capacity
    refine hbal.anchorSub stored fresh rfl rfl ?_ rfl rfl
    exact toNat_add_of_lt hlt
  | update hcall' stored usage isTop =>
    exact hbal.writeTop stored isTop rfl rfl
  | @updateSub _ spaceId newTxnCapacity d p hcall' stored usage isSub parent guard =>
    have hlt : p.txnReserve.toNat + newTxnCapacity.toNat < 2 ^ 64 + d.txnCapacity.toNat := by
      cases hcall' with
      | inl heq =>
        subst heq
        exact hcall _ stored isSub _ parent
      | inr heq =>
        subst heq
        exact hcall _ stored isSub _ parent
    have hle := hbal.capacity_le stored isSub parent
    refine hbal.writeSub stored isSub parent rfl rfl ?_ rfl rfl
    dsimp only
    rw [toNat_sub_add hle hlt]
    omega

theorem balanced_genesis : Balanced (State.genesis T).spaces := by
  intro p
  rfl

def State.ReserveAccounted (s : State T) : Prop :=
  ∀ p d, s.spaces.get p = some d →
    d.txnReserve.toNat =
      s.spaces.sum fun c d => if c ≠ p ∧ d.parent = p then d.txnCapacity.toNat else 0

/--
The reserve is accounted for in every state of a run as long as no call of it changes the capacity
of a sub space with `approve` and no reserve exceeds 64 bits.
-/
theorem run_reserveAccounted {exts : List (Extrinsic T)}
    (h : (machine T).Meets (fun s ext => ext.call.KeepsReserve s.spaces) (State.genesis T) exts)
    : ((machine T).run (State.genesis T) exts).ReserveAccounted := by
  have hbal : Balanced ((machine T).run (State.genesis T) exts).spaces := by
    apply Machine.run_of_meets (I := fun s : State T => Balanced s.spaces) _ balanced_genesis h
    intro s ext s' hs hkeeps hsucc
    exact (dispatch_spaces (Extrinsic.dispatch_iff.mp hsucc)).balanced hkeeps hs
  intro p d hd
  rw [← reserveOf_of_get hd, hbal p]
  rfl

section Plain

def revokedSubspace : List (Extrinsic .plain) := [
    -- A space with capacity 100 and a sub space that is allotted 10 of it. The approval of the sub
    -- space was revoked.
    plainExtrinsic (some 1) (.create [10]),
    plainExtrinsic none (.approve (plainSpace 10 1) 100),
    plainExtrinsic (some 1) (.subspaceCreate [11] (some 10) (plainSpace 10 1)),
    plainExtrinsic none (.approvalRevoke (plainSpace 11 1))
  ]

theorem reapproved_reserveAccounted
    : ((machine .plain).run (State.genesis .plain) (revokedSubspace ++ [
        plainExtrinsic none (.approve (plainSpace 11 1) 10),
        plainExtrinsic (some 1) (.updateTransactionCapacitySub (plainSpace 11 1) 30)
      ])).ReserveAccounted := by
  apply run_reserveAccounted
  decide +kernel

theorem approve_not_reserveAccounted
    : ¬ ∀ exts : List (Extrinsic .plain),
        ((machine .plain).run (State.genesis .plain) exts).ReserveAccounted := by
  intro h
  have hreserve := h (revokedSubspace ++ [plainExtrinsic none (.approve (plainSpace 11 1) 50)])
    (plainSpace 10 1) ⟨[10], 1, 100, 10, 1, true, false, plainSpace 10 1⟩ (by decide +kernel)
  revert hreserve
  decide +kernel

end Plain

end ChainSpace
