import Cord.Asset.Lemmas.Calls

/-!
This module contains the bound on what is issued of an asset. The check is made on the counter of the
asset, which saturates, so it only bounds the instances as long as the counter does not.
-/

open Frame Identifier
open ChainSpace (Client)

namespace Asset

variable {T : Config} {k k' : AssetKind} {p p' : Storage T} {s s' : State T} {origin : T.Origin}
  {call : Call T}

namespace Storage

def sumInstances (p : Storage T) (weight : (k : AssetKind) → InstanceOf T k → Nat) (k : AssetKind)
    (assetId : T.Ss58Identifier) : Nat :=
  (p.issuanceOf k).sum fun key inst => if key.1 = assetId then weight k inst else 0

def issuedQty (p : Storage T) (k : AssetKind) (assetId : T.Ss58Identifier) : Nat :=
  p.sumInstances (fun _ inst => inst.assetQty.toNat) k assetId

def NoOverIssuance (p : Storage T) : Prop :=
  ∀ k assetId asset, (p.assetsOf k).get assetId = some asset →
    p.issuedQty k assetId ≤ asset.assetQty.toNat

def Anchored (p : Storage T) : Prop :=
  -- An instance is one of an asset of the same kind.
  ∀ k assetId instanceId inst, (p.issuanceOf k).get (assetId, instanceId) = some inst →
    ((p.assetsOf k).get assetId).isSome = true

def Fits (p : Storage T) (k : AssetKind) (entry : AssetIssuanceEntry T) : Prop :=
  -- The counter of an asset does not saturate when `entry` is issued.
  ∀ asset ∈ (p.assetsOf k).get entry.assetId,
    asset.assetIssuance.toNat + entry.qty.toNat < 2 ^ 64

instance (p : Storage T) (k : AssetKind) (entry : AssetIssuanceEntry T)
    : Decidable (p.Fits k entry) :=
  inferInstanceAs (Decidable (∀ asset ∈ (p.assetsOf k).get entry.assetId,
    asset.assetIssuance.toNat + entry.qty.toNat < 2 ^ 64))

section Writes

variable {assetId instanceId id : T.Ss58Identifier} {a : AssetOf T k} {i j : InstanceOf T k}
  {distribution : DistributionMap T} {lookup : StorageMap T.Hash T.Ss58Identifier}
  {events : List (Event T)}

section Sums

variable {weight : (k : AssetKind) → InstanceOf T k → Nat}

@[simp]
theorem setRest_sumInstances
    : (p.setRest distribution lookup events).sumInstances weight k id =
        p.sumInstances weight k id := by
  unfold sumInstances
  rw [setRest_issuanceOf]

@[simp]
theorem insertAsset_sumInstances
    : (p.insertAsset assetId a).sumInstances weight k' id = p.sumInstances weight k' id := by
  unfold sumInstances
  rw [insertAsset_issuanceOf]

theorem insertInstance_sumInstances_le
    : (p.insertInstance assetId instanceId i).sumInstances weight k' id ≤
        p.sumInstances weight k' id + if k' = k ∧ id = assetId then weight k i else 0 := by
  unfold sumInstances
  obtain rfl | hk := eq_or_ne k' k
  . rw [insertInstance_issuanceOf]
    apply Nat.le_trans
    . apply StorageMap.sum_insert_le
    . simp [eq_comm]
  . rw [insertInstance_issuanceOf_of_ne _ _ _ _ hk]
    exact Nat.le_add_right _ _

theorem insertInstance_sumInstances_of_none
    (h : (p.issuanceOf k).get (assetId, instanceId) = none)
    : (p.insertInstance assetId instanceId i).sumInstances weight k' id =
        p.sumInstances weight k' id + if k' = k ∧ id = assetId then weight k i else 0 := by
  unfold sumInstances
  obtain rfl | hk := eq_or_ne k' k
  . rw [insertInstance_issuanceOf, StorageMap.sum_insert_of_get_none _ _ h, Nat.add_comm]
    simp [eq_comm]
  . rw [insertInstance_issuanceOf_of_ne _ _ _ _ hk]
    simp [hk]

theorem insertInstance_sumInstances_of_some
    (h : (p.issuanceOf k).get (assetId, instanceId) = some j) (hweight : weight k i = weight k j)
    : (p.insertInstance assetId instanceId i).sumInstances weight k' id =
        p.sumInstances weight k' id := by
  unfold sumInstances
  obtain rfl | hk := eq_or_ne k' k
  . rw [insertInstance_issuanceOf]
    apply StorageMap.sum_insert_of_eq _ h
    rw [hweight]
  . rw [insertInstance_issuanceOf_of_ne _ _ _ _ hk]

end Sums

@[simp]
theorem setRest_issuedQty
    : (p.setRest distribution lookup events).issuedQty k id = p.issuedQty k id := by
  apply setRest_sumInstances

@[simp]
theorem insertAsset_issuedQty : (p.insertAsset assetId a).issuedQty k' id = p.issuedQty k' id := by
  apply insertAsset_sumInstances

theorem insertInstance_issuedQty_le (p : Storage T) (assetId instanceId : T.Ss58Identifier)
    (i : InstanceOf T k) (k' : AssetKind) (id : T.Ss58Identifier)
    : (p.insertInstance assetId instanceId i).issuedQty k' id ≤
        p.issuedQty k' id + if k' = k ∧ id = assetId then i.assetQty.toNat else 0 := by
  apply insertInstance_sumInstances_le

theorem isSome_insertAsset (h : ((p.assetsOf k').get id).isSome = true)
    : (((p.insertAsset assetId a).assetsOf k').get id).isSome = true := by
  by_cases heq : k' = k ∧ id = assetId
  . obtain ⟨rfl, rfl⟩ := heq
    rw [insertAsset_assetsOf, StorageMap.get_insert_self]
    rfl
  . rw [get_insertAsset_of_ne _ _ _ heq]
    exact h

theorem Anchored.setRest (h : p.Anchored) : (p.setRest distribution lookup events).Anchored := by
  intro k id id' inst hget
  rw [setRest_issuanceOf] at hget
  rw [setRest_assetsOf]
  exact h _ _ _ _ hget

theorem Anchored.insertAsset (h : p.Anchored) : (p.insertAsset assetId a).Anchored := by
  intro k id id' inst hget
  rw [insertAsset_issuanceOf] at hget
  exact isSome_insertAsset (h _ _ _ _ hget)

theorem Anchored.insertInstance (h : p.Anchored)
    (hasset : ((p.assetsOf k).get assetId).isSome = true)
    : (p.insertInstance assetId instanceId i).Anchored := by
  unfold Anchored
  simp only [insertInstance_assetsOf]
  apply forall_insertInstance
  . exact hasset
  . intro k' id id' j _ hget
    exact h _ _ _ _ hget

theorem Anchored.issuedQty_eq_zero (h : p.Anchored) (hget : (p.assetsOf k).get id = none)
    : p.issuedQty k id = 0 := by
  unfold issuedQty sumInstances
  apply StorageMap.sum_eq_zero
  rintro ⟨assetId, instanceId⟩ inst hinst
  apply if_neg
  rintro rfl
  have hsome := h _ _ _ _ hinst
  rw [hget] at hsome
  cases hsome

end Writes

theorem Anchored.effect (h : s.pallet.Anchored) (he : Effect s origin call p') : p'.Anchored := by
  cases he with
  | create fresh unissued _ => exact h.insertAsset.setRest
  | vcCreate fresh unissued _ => exact h.insertAsset.setRest
  | issue get limit derived push =>
    apply Anchored.setRest
    apply Anchored.insertAsset
    apply h.insertInstance
    rw [get]
    rfl
  | transfer get caller active _ =>
    apply Anchored.setRest
    apply h.insertInstance
    exact h _ _ _ _ get
  | instanceStatus getAsset caller get _ =>
    apply Anchored.setRest
    apply h.insertInstance
    exact h _ _ _ _ get
  | assetStatus get _ => exact h.insertAsset.setRest

end Storage

def Unsaturated (s : State T) (_ : T.Origin) (call : Call T) : Prop :=
  call.OnIssue fun k entry _ _ => s.pallet.Fits k entry

instance (s : State T) (origin : T.Origin) (call : Call T) : Decidable (Unsaturated s origin call) :=
  inferInstanceAs (Decidable (call.OnIssue fun k entry _ _ => s.pallet.Fits k entry))

namespace Storage

/--
The counter of an asset is at least what its instances hold, and at most the quantity of the asset.
-/
structure Covered (p : Storage T) : Prop where
  anchored : p.Anchored
  counted : ∀ k assetId asset, (p.assetsOf k).get assetId = some asset →
    p.issuedQty k assetId ≤ asset.assetIssuance.toNat ∧
      asset.assetIssuance.toNat ≤ asset.assetQty.toNat

variable {assetId instanceId id : T.Ss58Identifier} {a : AssetOf T k} {i j : InstanceOf T k}
  {distribution : DistributionMap T} {lookup : StorageMap T.Hash T.Ss58Identifier}
  {events : List (Event T)}

theorem Covered.noOverIssuance (h : p.Covered) : p.NoOverIssuance := by
  intro k assetId asset hget
  obtain ⟨hcounted, hlimit⟩ := h.counted k assetId asset hget
  omega

theorem Covered.setRest (h : p.Covered) : (p.setRest distribution lookup events).Covered := by
  refine ⟨h.anchored.setRest, ?_⟩
  simp only [setRest_assetsOf, setRest_issuedQty]
  exact h.counted

theorem Covered.insertAsset (h : p.Covered)
    (ha : p.issuedQty k assetId ≤ a.assetIssuance.toNat ∧
      a.assetIssuance.toNat ≤ a.assetQty.toNat)
    : (p.insertAsset assetId a).Covered := by
  refine ⟨h.anchored.insertAsset, ?_⟩
  simp only [insertAsset_issuedQty]
  apply forall_insertAsset
  . exact ha
  . intro k' id b _ hget
    exact h.counted _ _ _ hget

theorem Covered.create (h : p.Covered) (hfresh : (p.assetsOf k).get assetId = none)
    (hunissued : a.assetIssuance = 0) : (p.insertAsset assetId a).Covered := by
  apply h.insertAsset
  rw [hunissued, h.anchored.issuedQty_eq_zero hfresh]
  exact ⟨Nat.le_refl 0, Nat.zero_le _⟩

theorem Covered.updateInstance (h : p.Covered)
    (hget : (p.issuanceOf k).get (assetId, instanceId) = some j) (hqty : i.assetQty = j.assetQty)
    : (p.insertInstance assetId instanceId i).Covered := by
  refine ⟨h.anchored.insertInstance (h.anchored _ _ _ _ hget), ?_⟩
  intro k' id b hgetb
  rw [insertInstance_assetsOf] at hgetb
  unfold issuedQty
  rw [insertInstance_sumInstances_of_some hget (by rw [hqty])]
  exact h.counted _ _ _ hgetb

theorem Covered.issue {n : UInt64} (h : p.Covered) (hget : (p.assetsOf k).get assetId = some a)
    (hqty : i.assetQty = n) (hfits : a.assetIssuance.toNat + n.toNat < 2 ^ 64)
    (hlimit : saturatingAdd a.assetIssuance n ≤ a.assetQty)
    : ((p.insertInstance assetId instanceId i).insertAsset assetId
        (a.withIssuance (saturatingAdd a.assetIssuance n))).Covered := by
  subst hqty
  constructor
  . apply Anchored.insertAsset
    apply h.anchored.insertInstance
    rw [hget]
    rfl
  . simp only [insertAsset_issuedQty]
    apply forall_insertAsset
    . have hissued := insertInstance_issuedQty_le p assetId instanceId i k assetId
      have hcounted := (h.counted k assetId a hget).1
      have hsum := toNat_saturatingAdd a.assetIssuance i.assetQty
      rw [UInt64.le_iff_toNat_le] at hlimit
      rw [if_pos ⟨rfl, rfl⟩] at hissued
      rw [withIssuance_assetIssuance, withIssuance_assetQty]
      omega
    . intro k' id b hne hgetb
      rw [insertInstance_assetsOf] at hgetb
      have hissued := insertInstance_issuedQty_le p assetId instanceId i k' id
      have hcounted := h.counted k' id b hgetb
      rw [if_neg hne] at hissued
      omega

theorem Covered.effect (h : s.pallet.Covered) (hcall : Unsaturated s origin call)
    (he : Effect s origin call p') : p'.Covered := by
  cases he with
  | create fresh unissued _ => exact (h.create fresh unissued).setRest
  | vcCreate fresh unissued _ => exact (h.create fresh unissued).setRest
  | @issue k entry digest authorization instanceId issuer asset createdAt dist lookup events get limit
      derived push =>
    unfold Unsaturated at hcall
    rw [onIssue_issueOf] at hcall
    have hfits := hcall asset get
    exact (h.issue get (issued_assetQty _ _ _ _ _ _) hfits limit).setRest
  | transfer get caller active _ =>
    exact (h.updateInstance get (withOwner_assetQty _ _ _ _)).setRest
  | instanceStatus getAsset caller get _ =>
    exact (h.updateInstance get (instance_withStatus_assetQty _ _)).setRest
  | assetStatus get _ =>
    apply Covered.setRest
    apply h.insertAsset
    rw [withStatus_assetIssuance, withStatus_assetQty]
    exact h.counted _ _ _ get

theorem genesis_anchored : (State.genesis T).pallet.Anchored := by
  intro k assetId instanceId inst hget
  rw [genesis_issuanceOf, StorageMap.get_empty] at hget
  cases hget

theorem genesis_covered : (State.genesis T).pallet.Covered := by
  refine ⟨genesis_anchored, ?_⟩
  intro k assetId asset hget
  rw [genesis_assetsOf, StorageMap.get_empty] at hget
  cases hget

end Storage

/--
The instances of an asset never hold more than its quantity, as long as no counter saturates.
-/
theorem run_noOverIssuance (exts : List (Extrinsic T))
    (h : (machine T).Meets (Client.Extrinsic.Meets Unsaturated) (State.genesis T) exts)
    : (machine T).Always (fun s => s.pallet.NoOverIssuance) (State.genesis T) exts := by
  have hcovered := Client.always_of_meets (I := Storage.Covered) (s := State.genesis T) (by
    intro s origin call s' hs hcall hsucc
    exact hs.effect hcall (dispatch_effect hsucc)) Storage.genesis_covered h
  apply hcovered.imp
  intro s hs
  exact hs.noOverIssuance

section Plain

def issueWithinLimit : List (Extrinsic .plain) :=
  plainSetup ++ [plainCreate 5 20, plainIssue 20 2 3 30, plainIssue 20 2 2 31]

theorem issueWithinLimit_noOverIssuance
    : (machine .plain).Always (fun s => s.pallet.NoOverIssuance) (State.genesis .plain)
        issueWithinLimit :=
  run_noOverIssuance issueWithinLimit (by decide +kernel)

def issueTwice : List (Extrinsic .plain) :=
  -- The whole quantity of an asset is issued twice, the second time the counter saturates.
  plainSetup ++ [plainCreate 0xFFFFFFFFFFFFFFFF 20, plainIssue 20 2 0xFFFFFFFFFFFFFFFF 30,
    plainIssue 20 2 0xFFFFFFFFFFFFFFFF 31]

theorem issueTwice_not_noOverIssuance
    : ¬ ∀ exts : List (Extrinsic .plain),
        ((machine .plain).run (State.genesis .plain) exts).pallet.NoOverIssuance := by
  intro h
  have hle := h issueTwice .plain (plainAsset 20)
    ⟨plainEntry 0xFFFFFFFFFFFFFFFF, 0xFFFFFFFFFFFFFFFF, .active, 1, 1⟩ (by decide +kernel)
  revert hle
  decide +kernel

end Plain

end Asset
