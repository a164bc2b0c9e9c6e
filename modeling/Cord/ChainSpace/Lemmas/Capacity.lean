import Cord.ChainSpace.Lemmas.Steps

/-!
This module contains the capacity of spaces: what was used of it and what is kept in reserve for sub
spaces does not exceed it, unless it is zero, which means that it is unlimited.
-/

open Frame Identifier

namespace ChainSpace

variable {T : Config} {spaces spaces' : StorageMap T.Ss58Identifier (SpaceDetails T)}
  {d : SpaceDetails T}

def SpaceDetails.HasRoom (d : SpaceDetails T) (cost refund : Nat) : Prop :=
  d.txnCapacity = 0 ∨
    d.txnCount.toNat + cost + d.txnReserve.toNat ≤ d.txnCapacity.toNat + refund

instance (d : SpaceDetails T) (cost refund : Nat) : Decidable (d.HasRoom cost refund) :=
  inferInstanceAs (Decidable (_ ∨ _))

def SpaceDetails.WithinCapacity (d : SpaceDetails T) : Prop :=
  d.txnCapacity ≠ 0 → d.txnCount.toNat + d.txnReserve.toNat ≤ d.txnCapacity.toNat

def NotOversold (spaces : StorageMap T.Ss58Identifier (SpaceDetails T)) : Prop :=
  ∀ spaceId d, spaces.get spaceId = some d → d.WithinCapacity

theorem SpaceDetails.WithinCapacity.setCount {count : UInt64} {cost refund : Nat}
    (h : d.WithinCapacity) (hroom : d.HasRoom cost refund)
    (hcount : count.toNat ≤ d.txnCount.toNat + cost - refund)
    : SpaceDetails.WithinCapacity { d with txnCount := count } := by
  intro hcap
  have hle := h hcap
  cases hroom with
  | inl hzero => exact absurd hzero hcap
  | inr hroom =>
    dsimp only
    omega

theorem SpaceDetails.WithinCapacity.subspace {value : UInt64} (h : d.WithinCapacity)
    (hguard : value ≤ d.txnCapacity - (d.txnCount + d.txnReserve))
    (hne : d.txnCapacity = 0 ∨
      d.txnCount.toNat + d.txnReserve.toNat + value.toNat ≠ d.txnCapacity.toNat)
    : SpaceDetails.WithinCapacity
        { d with txnCount := d.txnCount + 1, txnReserve := d.txnReserve + value } := by
  intro hcap
  have hle := h hcap
  have hne := hne.resolve_left hcap
  have hlt := UInt64.toNat_lt d.txnCapacity
  have husage : (d.txnCount + d.txnReserve).toNat = d.txnCount.toNat + d.txnReserve.toNat := by
    apply toNat_add_of_lt
    omega
  rw [UInt64.le_iff_toNat_le, UInt64.toNat_sub_of_le, husage] at hguard
  . have hone : (1 : UInt64).toNat = 1 := rfl
    dsimp only
    rw [toNat_add_of_lt, toNat_add_of_lt, hone]
    all_goals omega
  . rw [UInt64.le_iff_toNat_le, husage]
    exact hle

theorem SpaceDetails.withinCapacity_update {newTxnCapacity : UInt64}
    (husage : d.txnCount + d.txnReserve ≤ newTxnCapacity)
    (hlt : d.txnCount.toNat + d.txnReserve.toNat < 2 ^ 64)
    : SpaceDetails.WithinCapacity { d with txnCapacity := newTxnCapacity } := by
  intro _
  rw [UInt64.le_iff_toNat_le, toNat_add_of_lt hlt] at husage
  exact husage

theorem SpaceDetails.withinCapacity_moveReserve {oldTxnCapacity newTxnCapacity : UInt64}
    (hguard : d.txnCount + d.txnReserve + newTxnCapacity - oldTxnCapacity ≤ d.txnCapacity)
    (hle : oldTxnCapacity.toNat ≤ d.txnReserve.toNat + newTxnCapacity.toNat)
    (hlt : d.txnCount.toNat + d.txnReserve.toNat + newTxnCapacity.toNat <
      2 ^ 64 + oldTxnCapacity.toNat)
    : SpaceDetails.WithinCapacity
        { d with txnReserve := d.txnReserve - oldTxnCapacity + newTxnCapacity } := by
  -- The guard that the parent of a sub space has to pass is exact when its sum stays within 64
  -- bits.
  intro _
  have hold := UInt64.toNat_lt oldTxnCapacity
  rw [UInt64.le_iff_toNat_le, UInt64.toNat_sub, UInt64.toNat_add, UInt64.toNat_add] at hguard
  dsimp only
  rw [UInt64.toNat_add, UInt64.toNat_sub]
  omega

theorem NotOversold.insert {spaceId : T.Ss58Identifier} (h : NotOversold spaces)
    (hd : d.WithinCapacity) : NotOversold (spaces.insert spaceId d) := by
  intro k d' hget
  rw [StorageMap.get_insert] at hget
  split at hget
  . injection hget with hget
    rw [← hget]
    exact hd
  . exact h k d' hget

def Call.KeepsCapacity (call : Call T) (spaces : StorageMap T.Ss58Identifier (SpaceDetails T))
    : Prop :=
  -- What the guards of the calls leave open: that the reserve is respected by a transaction,
  -- that a sub space does not take all that is left, that a new approval respects what was used,
  -- and that the sums in the guards do not leave 64 bits.
  match call with
  | .addDelegate spaceId _ _ | .addAdminDelegate spaceId _ _ | .addDelegator spaceId _ _
  | .archive spaceId _ | .restore spaceId _ => ∀ d ∈ spaces.get spaceId, d.HasRoom 1 0
  | .approve spaceId txnCapacity =>
    ∀ d ∈ spaces.get spaceId,
      txnCapacity = 0 ∨ d.txnCount.toNat + d.txnReserve.toNat ≤ txnCapacity.toNat
  | .subspaceCreate _ count spaceId =>
    ∀ d ∈ spaces.get spaceId, ∀ value ∈ subspaceCapacity T count,
      d.txnCapacity = 0 ∨
        d.txnCount.toNat + d.txnReserve.toNat + value.toNat ≠ d.txnCapacity.toNat
  | .updateTransactionCapacity spaceId newTxnCapacity
  | .updateTransactionCapacitySub spaceId newTxnCapacity =>
    ∀ d ∈ spaces.get spaceId,
      d.txnCount.toNat + d.txnReserve.toNat < 2 ^ 64 ∧
      (spaceId ≠ d.parent → ∀ p ∈ spaces.get d.parent,
        d.txnCapacity.toNat ≤ p.txnReserve.toNat + newTxnCapacity.toNat ∧
        p.txnCount.toNat + p.txnReserve.toNat + newTxnCapacity.toNat <
          2 ^ 64 + d.txnCapacity.toNat)
  | _ => True

instance (call : Call T) (spaces : StorageMap T.Ss58Identifier (SpaceDetails T))
    : Decidable (call.KeepsCapacity spaces) :=
  match call with
  | .addDelegate spaceId _ _ | .addAdminDelegate spaceId _ _ | .addDelegator spaceId _ _
  | .archive spaceId _ | .restore spaceId _ | .approve spaceId _
  | .updateTransactionCapacity spaceId _ | .updateTransactionCapacitySub spaceId _ =>
    inferInstanceAs (Decidable (∀ d ∈ spaces.get spaceId, _))
  | .subspaceCreate _ count spaceId =>
    -- Given by hand, since all values of 64 bits can be enumerated as well.
    haveI (d : SpaceDetails T) : Decidable (∀ value ∈ subspaceCapacity T count,
        d.txnCapacity = 0 ∨
          d.txnCount.toNat + d.txnReserve.toNat + value.toNat ≠ d.txnCapacity.toNat) :=
      Option.decidableForallMem _
    inferInstanceAs (Decidable (∀ d ∈ spaces.get spaceId, _))
  | .removeDelegate .. | .create .. | .resetTransactionCount .. | .approvalRevoke ..
  | .approvalRestore .. => isTrue trivial

theorem Call.KeepsCapacity.hasRoom {call : Call T} {spaceId : T.Ss58Identifier}
    (h : call.KeepsCapacity spaces) (hcharged : call.charged? = some spaceId)
    (hd : spaces.get spaceId = some d) : d.HasRoom 1 0 := by
  cases call with
  | addDelegate | addAdminDelegate | addDelegator | archive | restore =>
    injection hcharged with hcharged
    subst hcharged
    exact h d hd
  | _ => cases hcharged

theorem SpacesStep.notOversold {call : Call T} (h : SpacesStep spaces call spaces')
    (hcall : call.KeepsCapacity spaces) (hs : NotOversold spaces) : NotOversold spaces' := by
  cases h with
  | @write _ spaceId d d' stored capacity reserve parent count =>
    have hwithin := hs spaceId d stored
    apply hs.insert
    unfold SpaceDetails.WithinCapacity at hwithin ⊢
    rw [capacity, reserve]
    intro hcap
    have hle := hwithin hcap
    rcases count with hcount | ⟨hcharged, hcount⟩
    . omega
    . cases hcall.hasRoom hcharged stored with
      | inl hzero => exact absurd hzero hcap
      | inr hroom => omega
  | create fresh =>
    apply hs.insert
    intro hcap
    exact absurd rfl hcap
  | approve stored =>
    apply hs.insert
    intro hcap
    cases hcall _ stored with
    | inl hzero => exact absurd hzero hcap
    | inr hle => exact hle
  | @subspace _ _ spaceId _ _ d value stored capacity guard fresh =>
    apply NotOversold.insert
    . apply hs.insert
      exact (hs spaceId d stored).subspace guard (hcall d stored value capacity)
    . intro _
      exact Nat.zero_le _
  | update hcall' stored usage isTop =>
    subst hcall'
    apply hs.insert
    exact SpaceDetails.withinCapacity_update usage (hcall _ stored).1
  | updateSub hcall' stored usage isSub parent guard =>
    -- Both calls that change the capacity of a sub space ask for the same.
    rcases hcall' with rfl | rfl
    all_goals
      have hd := hcall _ stored
      have hp := hd.2 isSub _ parent
      apply NotOversold.insert
      . apply hs.insert
        exact SpaceDetails.withinCapacity_moveReserve guard hp.1 hp.2
      . exact SpaceDetails.withinCapacity_update usage hd.1

theorem notOversold_genesis : NotOversold (State.genesis T).spaces := by
  intro spaceId d hd
  cases hd

end ChainSpace
